import FeatureService.Text.Blank

/-!
# Modes of a pattern

Flags in a pattern say how the rest of a group is read. Two of them decide which
patterns there are: whether white space and comments are ignored, and whether
the pattern is about characters or about bytes. The others change what a pattern
finds, which does not matter here.
-/

namespace FeatureService.Pattern

/-- How a part of a pattern is read. -/
structure Mode where
  ignoresBlanks : Bool := false
  /-- The pattern is about characters, and not about bytes. -/
  unicode : Bool := true
  deriving DecidableEq

/-- A text without the white space and the comments at its start. A comment runs
from a number sign to the end of its line. -/
def skipBlanks (inComment : Bool) : List Char → List Char
  | [] => []
  | c :: rest =>
      if inComment then skipBlanks (c != '\n') rest
      else if c = '#' then skipBlanks true rest
      else if Text.isBlank c then skipBlanks false rest
      else c :: rest

namespace Mode

def skip (mode : Mode) (text : List Char) : List Char :=
  if mode.ignoresBlanks then skipBlanks false text else text

/-- The character that decides whether a hyphen in front of a text makes a range.
At most one number sign is passed over. -/
def peek? (mode : Mode) (text : List Char) : Option Char :=
  if mode.ignoresBlanks then
    match text.dropWhile Text.isBlank with
    | '#' :: rest => (rest.dropWhile Text.isBlank).head?
    | rest => rest.head?
  else text.head?

/-- The letters of the flags, with the sign in front of those that are turned off. -/
def flags : List Char :=
  ['i', 'm', 's', 'U', 'u', 'R', 'x', '-']

/-- Whether some letters are flags: each at most once, and something is turned off
behind the sign. -/
def areFlags (letters : List Char) : Bool :=
  letters.all flags.contains && decide letters.Nodup && letters.getLast? != some '-'

def setting (letters : List Char) (flag : Char) (old : Bool) : Bool :=
  if (letters.takeWhile (· != '-')).contains flag then true
  else if letters.contains flag then false
  else old

def withFlags (mode : Mode) (letters : List Char) : Mode where
  ignoresBlanks := setting letters 'x' mode.ignoresBlanks
  unicode := setting letters 'u' mode.unicode

end Mode

end FeatureService.Pattern
