import FeatureService.Pattern.Escape
import FeatureService.Pattern.Height

/-!
# Character sets in a pattern

A set of characters between brackets: characters, ranges, classes and further
sets, with operators between them. The sets that are still open are kept on a
stack, so the reading is one pass over the text.
-/

namespace FeatureService.Pattern

structure CharacterSet where
  /-- The height of what stands in front of the last operator. -/
  left : Option Nat := none
  /-- What stands behind the last operator. -/
  members : Parts := {}
  /-- There are only hyphens so far. -/
  isLeading : Bool := true
  deriving DecidableEq

namespace CharacterSet

def innerHeight (set : CharacterSet) : Nat :=
  match set.left with
  | none => set.members.height
  | some left => max left set.members.height + 1

def height (set : CharacterSet) : Nat :=
  set.innerHeight + 1

def add (set : CharacterSet) (height : Nat) : CharacterSet :=
  { set with members := set.members.add height, isLeading := false }

def operate (set : CharacterSet) : CharacterSet :=
  { left := some set.innerHeight, isLeading := false }

/-- Whether a character at the start of a set stands for itself: each hyphen, and
a closing bracket in front of all else. -/
def standsForItself (set : CharacterSet) (c : Char) : Bool :=
  set.isLeading && (c == '-' || c == ']' && set.members.count == 0)

/-- A set with one more character at its start. -/
def lead (set : CharacterSet) (c : Char) : CharacterSet :=
  { set.add 0 with isLeading := c == '-' }

def classNames : List String :=
  ["alnum", "alpha", "ascii", "blank", "cntrl", "digit", "graph", "lower", "print", "punct",
   "space", "upper", "word", "xdigit"]

/-- Reads the name of a class between colons, behind an opening bracket. Tells
whether the class is negated. -/
def namedClass? : List Char → Option (Bool × List Char)
  | ':' :: text =>
      let negated := text.head? == some '^'
      let text := if negated then text.tail else text
      match text.dropWhile (· != ':') with
      | ':' :: ']' :: rest =>
          if classNames.contains (String.ofList (text.takeWhile (· != ':'))) then
            some (negated, rest)
          else none
      | _ => none
  | _ => none

def negation (mode : Mode) (text : List Char) : Bool × List Char :=
  match mode.skip text with
  | '^' :: rest => (true, rest)
  | text => (false, text)

/-- Whether a set may be negated. The other bytes are no characters. -/
def admits (mode : Mode) (negated : Bool) : Bool :=
  mode.unicode || !negated

/-- Reads a member that starts with `c`, or an end of a range. -/
def piece? (mode : Mode) (c : Char) (rest : List Char) : Option (Piece × List Char) :=
  if c = '\\' then Piece.escape? mode rest else some (.char c, rest)

/-- Whether a piece is a member of a set. A character is none where it is not a
single byte. -/
def isMember (mode : Mode) : Piece → Bool
  | .char c => mode.unicode || c.toNat < 0x80
  | .characters => true
  | .place => false

def isRange : Piece → Piece → Bool
  | .char first, .char last => first ≤ last
  | _, _ => false

/-- Whether a text goes on with the end of a range. A hyphen in front of a bracket
is a member, and one in front of another hyphen belongs to an operator. -/
def continuesRange (mode : Mode) : List Char → Bool
  | '-' :: rest => mode.peek? rest != some ']' && mode.peek? rest != some '-'
  | _ => false

/-- Reads a member or a range that starts with `c`. Gives what follows it. -/
def member? (mode : Mode) (c : Char) (rest : List Char) : Option (List Char) := do
  let (first, rest) ← piece? mode c rest
  let rest := mode.skip rest
  if continuesRange mode rest then
    match mode.skip rest.tail with
    | c :: rest =>
        let (last, rest) ← piece? mode c rest
        if isRange first last && isMember mode first && isMember mode last then some rest else none
    | [] => none
  else if isMember mode first then some rest
  else none

def isOperator (first : Char) (second : Option Char) : Bool :=
  (first == '&' || first == '-' || first == '~') && second == some first

/-- How one step of the reading of a set ends. -/
inductive Step where
  | within (set : CharacterSet) (outer : List CharacterSet) (rest : List Char)
  | complete (height : Nat) (rest : List Char)

/-- Reads what starts with `c` in the innermost of some open sets. -/
def step? (mode : Mode) (set : CharacterSet) (outer : List CharacterSet) (c : Char)
    (rest : List Char) : Option Step :=
  if set.standsForItself c then some (.within (set.lead c) outer rest)
  else if isOperator c rest.head? then some (.within set.operate outer rest.tail)
  else
    match c with
    | ']' =>
        match outer with
        | [] => some (.complete set.height rest)
        | enclosing :: outer => some (.within (enclosing.add set.height) outer rest)
    | '[' =>
        match namedClass? rest with
        | some (negated, rest) =>
            if admits mode negated then some (.within (set.add 0) outer rest) else none
        | none =>
            let (negated, rest) := negation mode rest
            if admits mode negated then some (.within {} (set :: outer) rest) else none
    | _ => (member? mode c rest).map (.within (set.add 0) outer ·)

/-- Reads up to the end of the outermost of some open sets, with as many steps as
the text has characters. Gives its height and what follows it. -/
def run (mode : Mode) : Nat → CharacterSet → List CharacterSet → List Char →
    Option (Nat × List Char)
  | 0, _, _, _ => none
  | steps + 1, set, outer, text =>
      match mode.skip text with
      | [] => none
      | c :: rest =>
          match step? mode set outer c rest with
          | some (.within set outer rest) => run mode steps set outer rest
          | some (.complete height rest) => some (height, rest)
          | none => none

def read (mode : Mode) (text : List Char) : Option (Nat × List Char) :=
  let (negated, rest) := negation mode text
  if admits mode negated then run mode rest.length {} [] rest else none

end CharacterSet

end FeatureService.Pattern
