import FeatureService.Json.Token

/-!
# JSON trees

The tree of a JSON text, before numerals and members are interpreted: numerals
of any size, strings with or without a text, and members in their order with
repeats. The tokens are taken one by one, with the containers that are still
open on a stack, so nesting has no limit here.
-/

namespace FeatureService

inductive Tree where
  | null
  | boolean (value : Bool)
  | numeral (value : Numeral)
  | text (value : Option String)
  | array (items : List Tree)
  | object (members : List (Option String × Tree))

namespace Tree

/-- An open container with what it holds so far, last first. A `member` is an
object whose last name still waits for its value. -/
inductive Frame where
  | array (items : List Tree)
  | object (members : List (Option String × Tree))
  | member (members : List (Option String × Tree)) (name : Option String)

inductive Awaited where
  | value
  | itemOrEnd
  | nameOrEnd
  | name
  | colon
  | commaOrEnd

inductive Progress where
  | within (frames : List Frame) (awaited : Awaited)
  | complete (tree : Tree)

/-- Hands a finished tree to the innermost open container. -/
def place (tree : Tree) : List Frame → Option Progress
  | [] => some (.complete tree)
  | .array items :: frames => some (.within (.array (tree :: items) :: frames) .commaOrEnd)
  | .member members name :: frames =>
      some (.within (.object ((name, tree) :: members) :: frames) .commaOrEnd)
  | .object _ :: _ => none

def begin (frames : List Frame) : Token → Option Progress
  | .null => place .null frames
  | .boolean value => place (.boolean value) frames
  | .numeral value => place (.numeral value) frames
  | .text value => place (.text value) frames
  | .openArray => some (.within (.array [] :: frames) .itemOrEnd)
  | .openObject => some (.within (.object [] :: frames) .nameOrEnd)
  | _ => none

/-- Takes the token that ends the innermost container. -/
def finish : List Frame → Token → Option Progress
  | .array items :: frames, .closeArray => place (.array items.reverse) frames
  | .object members :: frames, .closeObject => place (.object members.reverse) frames
  | _, _ => none

/-- Takes a token after a value: a comma or the end of the container. -/
def next : List Frame → Token → Option Progress
  | .array items :: frames, .comma => some (.within (.array items :: frames) .value)
  | .object members :: frames, .comma => some (.within (.object members :: frames) .name)
  | frames, token => finish frames token

def takeName : List Frame → Token → Option Progress
  | .object members :: frames, .text name => some (.within (.member members name :: frames) .colon)
  | _, _ => none

def step : Progress → Token → Option Progress
  | .within frames .value, token => begin frames token
  | .within frames .itemOrEnd, .closeArray => finish frames .closeArray
  | .within frames .itemOrEnd, token => begin frames token
  | .within frames .nameOrEnd, .closeObject => finish frames .closeObject
  | .within frames .nameOrEnd, token => takeName frames token
  | .within frames .name, token => takeName frames token
  | .within frames .colon, .colon => some (.within frames .value)
  | .within frames .commaOrEnd, token => next frames token
  | _, _ => none

def ofTokens? (tokens : List Token) : Option Tree :=
  match tokens.foldlM step (.within [] .value) with
  | some (.complete tree) => some tree
  | _ => none

def read (text : String) : Option Tree :=
  (Token.readAll text.toList).bind ofTokens?

end Tree

end FeatureService
