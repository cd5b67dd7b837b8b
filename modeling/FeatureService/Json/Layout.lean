import FeatureService.Json.Numeral
import FeatureService.Json.Quotation

/-!
# Writing JSON

A value is written on one line without spaces, or with each item on a line of
its own behind two spaces for each level. Empty containers take no lines.
-/

namespace FeatureService

/-- What stands between the tokens of a written value. -/
structure Layout where
  /-- What precedes an item or an end at a number of levels. -/
  line : Nat → List Char
  /-- What follows the colon of a member. -/
  gap : List Char

namespace Layout

/-- Everything on one line. -/
def compact : Layout := ⟨fun _ => [], []⟩

/-- Each item on a line of its own. -/
def indented : Layout := ⟨fun levels => '\n' :: List.replicate (2 * levels) ' ', [' ']⟩

end Layout

namespace Json

mutual

def chars (layout : Layout) (levels : Nat) : Json → List Char
  | .null => ['n', 'u', 'l', 'l']
  | .boolean true => ['t', 'r', 'u', 'e']
  | .boolean false => ['f', 'a', 'l', 's', 'e']
  | .number value => (Numeral.ofNumber value).chars
  | .text value => Quotation.chars value
  | .array [] => ['[', ']']
  | .array (item :: rest) =>
      '[' :: layout.line (levels + 1) ++ item.chars layout (levels + 1)
        ++ itemChars layout (levels + 1) rest ++ layout.line levels ++ [']']
  | .object [] => ['\x7b', '\x7d']
  | .object ((name, value) :: rest) =>
      '\x7b' :: layout.line (levels + 1) ++ Quotation.chars name ++ ':' :: layout.gap
        ++ value.chars layout (levels + 1)
        ++ memberChars layout (levels + 1) rest ++ layout.line levels ++ ['\x7d']

def itemChars (layout : Layout) (levels : Nat) : List Json → List Char
  | [] => []
  | item :: rest =>
      ',' :: layout.line levels ++ item.chars layout levels ++ itemChars layout levels rest

def memberChars (layout : Layout) (levels : Nat) : List (String × Json) → List Char
  | [] => []
  | (name, value) :: rest =>
      ',' :: layout.line levels ++ Quotation.chars name ++ ':' :: layout.gap
        ++ value.chars layout levels ++ memberChars layout levels rest

end

/-- A value on one line. -/
def render (value : Json) : String :=
  String.ofList (value.chars .compact 0)

/-- A value on several lines. -/
def renderLines (value : Json) : String :=
  String.ofList (value.chars .indented 0)

end Json

end FeatureService
