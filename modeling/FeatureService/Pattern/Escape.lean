import FeatureService.Json.Quotation
import FeatureService.Pattern.Mode

/-!
# Escapes in a pattern

What a backslash and the characters behind it stand for: a character, a class of
characters, or a condition on a place in the text. Classes and conditions that
characters beyond ASCII matter to depend on the mode.
-/

namespace FeatureService.Pattern

/-- What an escape stands for. -/
inductive Piece where
  | char (c : Char)
  | characters
  /-- A condition on a place. -/
  | place
  deriving DecidableEq

namespace Piece

/-- The character that a letter stands for behind a backslash. -/
def control? (c : Char) : Option Char :=
  [('a', '\x07'), ('f', '\x0c'), ('t', '\t'), ('n', '\n'), ('r', '\r'), ('v', '\x0b')].lookup c

def digitCount? (c : Char) : Option Nat :=
  [('x', 2), ('u', 4), ('U', 8)].lookup c

def hexDigits? (mode : Mode) : Nat → Nat → List Char → Option (Nat × List Char)
  | 0, value, text => some (value, text)
  | count + 1, value, text =>
      match mode.skip text with
      | [] => none
      | c :: rest =>
          match Quotation.hexDigit? c with
          | some digit => hexDigits? mode count (value * 16 + digit) rest
          | none => none

/-- Reads a character by its number. Two digits stand for a byte where the pattern
is about bytes, and a byte beyond ASCII is no character. -/
def numbered? (mode : Mode) (count : Nat) (text : List Char) : Option (Piece × List Char) :=
  match hexDigits? mode count 0 text with
  | some (value, rest) =>
      if value.isValidChar && (mode.unicode || count != 2 || value < 0x80) then
        some (.char (Char.ofNat value), rest)
      else none
  | none => none

def categories : List Char :=
  ['c', 'l', 'm', 'n', 'p', 's', 'z']

def category? (mode : Mode) (text : List Char) : Option (Piece × List Char) :=
  match mode.skip text with
  | letter :: rest =>
      if mode.unicode && categories.contains letter.toLower then some (.characters, rest) else none
  | [] => none

def single? (mode : Mode) (c : Char) : Option Piece :=
  if ['d', 's', 'w'].contains c then some .characters
  else if ['D', 'S', 'W'].contains c then if mode.unicode then some .characters else none
  else if c = 'A' || c = 'z' then some .place
  else if ['b', 'B', '<', '>'].contains c then if mode.unicode then none else some .place
  else
    match control? c with
    | some control => some (.char control)
    | none => if c.toNat < 0x80 && !c.isAlphanum then some (.char c) else none

def escape? (mode : Mode) : List Char → Option (Piece × List Char)
  | [] => none
  | c :: rest =>
      match digitCount? c with
      | some count => numbered? mode count rest
      | none =>
          if c = 'p' || c = 'P' then category? mode rest
          else (single? mode c).map fun piece => (piece, rest)

end Piece

end FeatureService.Pattern
