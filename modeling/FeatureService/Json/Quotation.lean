/-!
# JSON strings

A text between quotes. Quotes, backslashes and control characters are written
with a backslash; reading also accepts the other escapes of the format. An
escape gives a 16-bit unit, and two escapes in a row may form a surrogate pair.
Reading a string that holds half a pair on its own finds its end but no text.
-/

namespace FeatureService.Quotation

/-! ## Writing -/

/-- The letter that stands for a character after a backslash. -/
def letter? (c : Char) : Option Char :=
  if c = '"' then some '"'
  else if c = '\\' then some '\\'
  else if c = '\x08' then some 'b'
  else if c = '\x0c' then some 'f'
  else if c = '\n' then some 'n'
  else if c = '\r' then some 'r'
  else if c = '\t' then some 't'
  else none

/-- The escape of a control character by its number. -/
def controlEscape (c : Char) : List Char :=
  ['\\', 'u', '0', '0', Nat.digitChar (c.toNat / 16), Nat.digitChar (c.toNat % 16)]

/-- The characters that stand for a character between quotes. -/
def encodeChar (c : Char) : List Char :=
  match letter? c with
  | some letter => ['\\', letter]
  | none => if c.toNat < 0x20 then controlEscape c else [c]

def encode (text : List Char) : List Char :=
  text.flatMap encodeChar

/-- A text between quotes. -/
def chars (text : String) : List Char :=
  '"' :: encode text.toList ++ ['"']

/-! ## Reading -/

/-- What one character or escape between quotes gives. -/
inductive Piece where
  | char (c : Char)
  | surrogate (code : Nat)

/-- The character that a letter stands for after a backslash. -/
def unletter? (c : Char) : Option Char :=
  if c = '"' then some '"'
  else if c = '\\' then some '\\'
  else if c = '/' then some '/'
  else if c = 'b' then some '\x08'
  else if c = 'f' then some '\x0c'
  else if c = 'n' then some '\n'
  else if c = 'r' then some '\r'
  else if c = 't' then some '\t'
  else none

def hexDigit? (c : Char) : Option Nat :=
  if '0' ≤ c ∧ c ≤ '9' then some (c.toNat - '0'.toNat)
  else if 'a' ≤ c ∧ c ≤ 'f' then some (c.toNat - 'a'.toNat + 10)
  else if 'A' ≤ c ∧ c ≤ 'F' then some (c.toNat - 'A'.toNat + 10)
  else none

/-- The value of four hexadecimal digits. -/
def unit? (first second third fourth : Char) : Option Nat := do
  let first ← hexDigit? first
  let second ← hexDigit? second
  let third ← hexDigit? third
  let fourth ← hexDigit? fourth
  some (((first * 16 + second) * 16 + third) * 16 + fourth)

def isLead (code : Nat) : Bool :=
  0xD800 ≤ code && code < 0xDC00

def isTrail (code : Nat) : Bool :=
  0xDC00 ≤ code && code < 0xE000

def pieceOf (code : Nat) : Piece :=
  if isLead code || isTrail code then .surrogate code else .char (Char.ofNat code)

/-- Reads up to the closing quote. `done` holds the pieces read so far, last
first. Gives the pieces and what follows the quote. -/
def readPieces (done : List Piece) : List Char → Option (List Piece × List Char)
  | [] => none
  | '"' :: rest => some (done.reverse, rest)
  | '\\' :: 'u' :: first :: second :: third :: fourth :: rest => do
      let code ← unit? first second third fourth
      readPieces (pieceOf code :: done) rest
  | '\\' :: letter :: rest => do
      let c ← unletter? letter
      readPieces (.char c :: done) rest
  | c :: rest => if c.toNat < 0x20 ∨ c = '\\' then none else readPieces (.char c :: done) rest

/-- The text of a row of pieces, or nothing where a half of a surrogate pair
stands on its own. -/
def join : List Piece → Option (List Char)
  | [] => some []
  | .char c :: rest => (join rest).map (c :: ·)
  | .surrogate lead :: .surrogate trail :: rest =>
      if isLead lead && isTrail trail then
        (join rest).map (Char.ofNat (0x10000 + (lead - 0xD800) * 0x400 + (trail - 0xDC00)) :: ·)
      else none
  | .surrogate _ :: _ => none

/-- Reads a string after its opening quote. Gives its text, if it has one, and
what follows it. -/
def read (text : List Char) : Option (Option String × List Char) := do
  let (pieces, rest) ← readPieces [] text
  some ((join pieces).map String.ofList, rest)

end FeatureService.Quotation
