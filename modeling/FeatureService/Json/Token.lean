import FeatureService.Json.Numeral
import FeatureService.Json.Quotation

/-!
# JSON tokens

A JSON text is a row of tokens with white space between them.
-/

namespace FeatureService

/-- A token of a JSON text. A string carries no text if it holds half a
surrogate pair. -/
inductive Token where
  | openArray
  | closeArray
  | openObject
  | closeObject
  | comma
  | colon
  | null
  | boolean (value : Bool)
  | numeral (value : Numeral)
  | text (value : Option String)

namespace Token

/-- The white space of the format. -/
def isSpace (c : Char) : Bool :=
  c == ' ' || c == '\t' || c == '\n' || c == '\r'

/-- Reads a token that starts with `first`. Gives the token and what follows it. -/
def start (first : Char) (rest : List Char) : Option (Token × List Char) :=
  match first with
  | '[' => some (.openArray, rest)
  | ']' => some (.closeArray, rest)
  | '\x7b' => some (.openObject, rest)
  | '\x7d' => some (.closeObject, rest)
  | ',' => some (.comma, rest)
  | ':' => some (.colon, rest)
  | '"' => (Quotation.read rest).map fun (value, rest) => (.text value, rest)
  | 'n' =>
      match rest with
      | 'u' :: 'l' :: 'l' :: rest => some (.null, rest)
      | _ => none
  | 't' =>
      match rest with
      | 'r' :: 'u' :: 'e' :: rest => some (.boolean true, rest)
      | _ => none
  | 'f' =>
      match rest with
      | 'a' :: 'l' :: 's' :: 'e' :: rest => some (.boolean false, rest)
      | _ => none
  | first => (Numeral.read (first :: rest)).map fun (value, rest) => (.numeral value, rest)

/-- Reads tokens up to the end of a text. `done` holds the tokens read so far,
last first. Each round takes at least one character, so as many rounds as there
are characters suffice. -/
def readRounds : Nat → List Token → List Char → Option (List Token)
  | _, done, [] => some done.reverse
  | 0, _, _ :: _ => none
  | rounds + 1, done, first :: rest =>
      if isSpace first then readRounds rounds done rest
      else
        match start first rest with
        | some (token, rest) => readRounds rounds (token :: done) rest
        | none => none

def readAll (text : List Char) : Option (List Token) :=
  readRounds text.length [] text

end Token

end FeatureService
