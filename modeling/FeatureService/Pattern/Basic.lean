import FeatureService.Pattern.CharacterSet
import FeatureService.Text.Alphanumeric

/-!
# Patterns

Which texts are regular expressions: alternatives of parts in a row, where a part
is a character, a set of characters, a condition on a place or a group, and can
be repeated. The parts lie in each other up to a given height. Patterns that tell
letters beyond ASCII from other characters at a place, or that find half a
character, are refused.
-/

namespace FeatureService.Pattern

/-- The alternatives of a group, as far as they are read. -/
structure Body where
  /-- The finished alternatives. -/
  alternatives : Parts := {}
  /-- The parts of the last alternative. -/
  parts : Parts := {}
  /-- The height of the last part, if it can be repeated. -/
  last : Option Nat := none
  deriving DecidableEq

namespace Body

def height (body : Body) : Nat :=
  (body.alternatives.add body.parts.height).height

def add (body : Body) (height : Nat) : Body :=
  { body with parts := body.parts.add height, last := some height }

/-- A body with flags behind its parts. Flags are a part that cannot be repeated. -/
def addFlags (body : Body) : Body :=
  { body with parts := body.parts.add 0, last := none }

def repeat? (body : Body) : Option Body :=
  body.last.map fun height =>
    { body with
      parts := { body.parts with highest := max body.parts.highest (height + 1) }
      last := some (height + 1) }

def alternate (body : Body) : Body :=
  { alternatives := body.alternatives.add body.parts.height }

end Body

/-- How far a pattern is read: the innermost group, the groups around it with
their modes, and the names that groups have. -/
structure Reading where
  mode : Mode := {}
  body : Body := {}
  outer : List (Mode × Body) := []
  names : List (List Char) := []
  deriving DecidableEq

namespace Reading

def isName : List Char → Bool
  | [] => false
  | first :: rest =>
      (first == '_' || Text.isAlphabetic first)
        && rest.all fun c => Text.isAlphanumeric c || ['_', '.', '[', ']'].contains c

def add (reading : Reading) (height : Nat) : Reading :=
  { reading with body := reading.body.add height }

def openGroup (reading : Reading) (mode : Mode) : Reading :=
  { reading with mode, body := {}, outer := (reading.mode, reading.body) :: reading.outer }

def closeGroup? (reading : Reading) : Option Reading :=
  match reading.outer with
  | [] => none
  | (mode, body) :: outer =>
      some { reading with mode, body := body.add (reading.body.height + 1), outer }

/-- Opens a group whose name stands at the start of a text. -/
def openNamed? (reading : Reading) (text : List Char) : Option (Reading × List Char) :=
  let name := text.takeWhile (· != '>')
  match text.dropWhile (· != '>') with
  | [] => none
  | _ :: rest =>
      if isName name && !reading.names.contains name then
        some ({ reading.openGroup reading.mode with names := name :: reading.names }, rest)
      else none

/-- Reads flags, which hold for a group of their own behind a colon and else for
the rest of the innermost group. -/
def flags? (reading : Reading) (text : List Char) : Option (Reading × List Char) :=
  let isEnd (c : Char) := c == ':' || c == ')'
  let letters := text.takeWhile (!isEnd ·)
  let mode := reading.mode.withFlags letters
  if Mode.areFlags letters then
    match text.dropWhile (!isEnd ·) with
    | ':' :: rest => some (reading.openGroup mode, rest)
    | _ :: rest =>
        if letters.isEmpty then none
        else some ({ reading with mode, body := reading.body.addFlags }, rest)
    | [] => none
  else none

def group? (reading : Reading) (text : List Char) : Option (Reading × List Char) :=
  match reading.mode.skip text with
  | '?' :: 'P' :: '<' :: rest | '?' :: '<' :: rest => reading.openNamed? rest
  | '?' :: rest => reading.flags? rest
  | rest => some (reading.openGroup reading.mode, rest)

/-- Repeats the last part. A question mark behind the sign belongs to it. -/
def repeat? (reading : Reading) (text : List Char) : Option (Reading × List Char) :=
  reading.body.repeat?.map fun body =>
    ({ reading with body }, if text.head? = some '?' then text.tail else text)

def step? (reading : Reading) (c : Char) (rest : List Char) : Option (Reading × List Char) :=
  match c with
  | '(' => reading.group? rest
  | ')' => reading.closeGroup?.map (·, rest)
  | '|' => some ({ reading with body := reading.body.alternate }, rest)
  | '[' =>
      (CharacterSet.read reading.mode rest).map fun (height, rest) => (reading.add height, rest)
  | '?' | '*' | '+' => reading.repeat? rest
  | '\x7b' => none
  | '\\' => (Piece.escape? reading.mode rest).map fun (_, rest) => (reading.add 0, rest)
  | '.' => if reading.mode.unicode then some (reading.add 0, rest) else none
  | _ => some (reading.add 0, rest)

def run : Nat → Reading → List Char → Option Reading
  | 0, _, _ => none
  | steps + 1, reading, text =>
      match reading.mode.skip text with
      | [] => some reading
      | c :: rest =>
          match reading.step? c rest with
          | some (reading, rest) => run steps reading rest
          | none => none

end Reading

def heightLimit : Nat := 250

/-- Whether a text is a pattern. Every group has to be closed. A repetition of a
given number of times takes braces, which a field has no room for. -/
def isPattern (text : List Char) : Bool :=
  match Reading.run (text.length + 1) {} text with
  | some reading => reading.outer.isEmpty && reading.body.height ≤ heightLimit
  | none => false

end FeatureService.Pattern
