import FeatureService.Text.LetterCase

/-!
# Lower case

The full lower-casing of a text. Most characters are replaced one by one. A
capital I with a dot becomes a small i and a combining dot. A capital sigma at
the end of a word becomes a final sigma: some letter precedes it and none
follows it, where characters such as the apostrophe are passed over.
-/

namespace FeatureService.Text

/-- Whether the first character that is not passed over is a letter with case. -/
def meetsLetter (text : List Char) : Bool :=
  match text.dropWhile isCaseIgnorable with
  | [] => false
  | c :: _ => isCased c

def lowerChar (c : Char) : List Char :=
  if c.toNat < 0x80 then [c.toLower]
  else if c = 'İ' then ['i', '\u0307']
  else
    match capitalRuns.findSome? (·.lower? c.toNat) with
    | some code => [Char.ofNat code]
    | none => [c]

/-- The lower case of a text that follows `before`, whose characters stand in
reverse order. -/
def lowerFrom (before : List Char) : List Char → List Char
  | [] => []
  | c :: rest =>
      let small :=
        if c = 'Σ' then
          if meetsLetter before && !meetsLetter rest then ['ς'] else ['σ']
        else lowerChar c
      small ++ lowerFrom (c :: before) rest

def lowercase (text : String) : String :=
  String.ofList (lowerFrom [] text.toList)

end FeatureService.Text
