/-!
# Cutting by bytes

The part of a text between two places that are given in bytes of its UTF-8 form.
There is no such part where a place lies inside a character.
-/

namespace FeatureService.Text

def byteCount (text : List Char) : Nat :=
  text.foldr (fun c count => c.utf8Size + count) 0

def dropBytes? : Nat → List Char → Option (List Char)
  | 0, text => some text
  | _ + 1, [] => none
  | count + 1, c :: rest =>
      if c.utf8Size ≤ count + 1 then dropBytes? (count + 1 - c.utf8Size) rest else none

def takeBytes? : Nat → List Char → Option (List Char)
  | 0, _ => some []
  | _ + 1, [] => none
  | count + 1, c :: rest =>
      if c.utf8Size ≤ count + 1 then
        (takeBytes? (count + 1 - c.utf8Size) rest).map (c :: ·)
      else none

def cut? (text : List Char) (start finish : Nat) : Option (List Char) :=
  (dropBytes? start text).bind (takeBytes? (finish - start))

end FeatureService.Text
