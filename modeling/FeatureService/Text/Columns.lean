import FeatureService.Text.Ligature

/-!
# Display columns

How many columns of a fixed-width display a line of text takes. A character
takes its own columns, unless it makes one sign with what follows it: an emoji
of several characters takes two columns, and a ligature fewer than its letters.
A line is therefore read from its end.
-/

namespace FeatureService.Text

/-- The style that a selector asks of the character before it. -/
inductive Style where
  | text
  | emoji
  /-- A wide quotation mark. -/
  | wide
  deriving DecidableEq

def Style.ofSelector? (c : Char) : Option Style :=
  if c = '\ufe0e' then some .text
  else if c = '\ufe0f' then some .emoji
  else if c = '\ufe01' then some .wide
  else none

/-- Whether a character is a quotation mark with a wide form. -/
def isQuotationMark (c : Char) : Bool :=
  c == '‘' || c == '’' || c == '“' || c == '”'

/-- What stands behind a place in a line, as far as characters before the place
can make one sign with it. -/
inductive Follower where
  | plain
  | emoji
  | modifier
  | flagLetter
  /-- Two letters of flags or more. -/
  | flags
  /-- A joiner and an emoji behind it. -/
  | joined
  /-- The frame of a key in front of a joined emoji. -/
  | joinedKeycap
  /-- Letters of flags in front of a joined emoji, and how many. -/
  | joinedFlags (letters : Nat)
  /-- The end of a flag in front of a joined emoji, with some tags: first their
  letters, then digits in front of them. -/
  | joinedTags (letters digits : Nat)
  /-- The vowel e of Kirat Rai, written once or twice. -/
  | vowel (twice : Bool)
  /-- The second part of a ligature, and whether a joiner stands in front of it. -/
  | ligature (ending : LigatureEnd) (joiner : Bool)
  deriving DecidableEq

namespace Follower

/-- What a character is to those before it. -/
def ofChar (c : Char) : Follower :=
  if isFlagLetter c then flagLetter
  else if isModifier c then modifier
  else if isEmoji c then emoji
  else if c = Char.ofNat 0x16D67 then vowel false
  else if c = Char.ofNat 0x16D68 then vowel true
  else
    match LigatureEnd.ofChar? c with
    | some ending => ligature ending false
    | none => plain

/-- The columns that a flag letter in front of others and a joined emoji adds.
Letters make flags in pairs from the first on, and only a last flag that is
complete is joined. -/
def flagLetterColumns (letters : Nat) : Int :=
  if letters % 2 = 1 then -1 else 3

/-- Whether tags name a region: three letters up to six, or three digits and four
letters at most behind them. -/
def namesRegion (letters digits : Nat) : Bool :=
  digits == 3 || digits == 0 && 3 ≤ letters

/-- What a character adds in front of something that it makes one sign with, and
what the two are to the characters before them. -/
def extend? (follower : Follower) (c : Char) : Option (Int × Follower) :=
  match follower with
  | plain | joinedKeycap => none
  | emoji => if c = joiner then some (0, joined) else none
  | modifier =>
      if c = joiner then some (0, joined)
      else if isModifierBase c then some (0, emoji)
      else none
  | flagLetter => if isFlagLetter c then some (1, flags) else none
  | flags =>
      if c = joiner then some (0, joined)
      else if isFlagLetter c then some (1, flags)
      else none
  | joined =>
      if c = keycap then some (0, joinedKeycap)
      else if isFlagLetter c then some (1, joinedFlags 1)
      else if isModifier c then some (0, modifier)
      else if c = lastTag then some (0, joinedTags 0 0)
      else if isEmoji c then some (0, emoji)
      else none
  | joinedFlags letters =>
      if isFlagLetter c then some (flagLetterColumns letters, joinedFlags (letters + 1))
      else if c = joiner ∧ 1 < letters then some (0, joined)
      else none
  | joinedTags letters digits =>
      if isTagLetter c ∧ digits = 0 ∧ letters < 6 then some (0, joinedTags (letters + 1) 0)
      else if isTagDigit c ∧ digits < 3 ∧ (digits ≠ 0 ∨ letters ≤ 4) then
        some (0, joinedTags letters (digits + 1))
      else if c = blackFlag ∧ namesRegion letters digits then some (0, emoji)
      else none
  | vowel false =>
      if c = Char.ofNat 0x16D63 ∨ c = Char.ofNat 0x16D69 then some (0, plain)
      else if c = Char.ofNat 0x16D67 then some (0, vowel true)
      else if c = Char.ofNat 0x16D68 then some (1, vowel false)
      else none
  | vowel true => if c = Char.ofNat 0x16D63 then some (0, plain) else none
  | ligature ending isJoined =>
      if c = joiner ∧ ending.admitsJoiner then some (0, ligature ending true)
      else if ending.passes c then some (0, ligature ending isJoined)
      else
        (ending.precede? isJoined c).map fun (columns, together) =>
          (columns, match together with
            | some ending => ligature ending false
            | none => plain)

end Follower

/-- What stands behind a place in a line, with the styles that selectors at the
place ask for. -/
structure Trail where
  follower : Follower := .plain
  asText : Bool := false
  asEmoji : Bool := false
  asWide : Bool := false
  deriving DecidableEq

namespace Trail

def ask (trail : Trail) : Style → Trail
  | .text => { trail with asText := true }
  | .emoji => { trail with asEmoji := true }
  | .wide => { trail with asWide := true }

/-- Whether a selector leaves what stands behind it together with what stands
before it. A ligature is not broken by one, and neither is a joined emoji by the
emoji style. -/
def keeps (trail : Trail) (style : Style) : Bool :=
  match trail.follower, style with
  | .ligature .., _ => true
  | .joined, .emoji | .joinedKeycap, .emoji => true
  | _, _ => false

def select (trail : Trail) (style : Style) : Trail :=
  (if trail.keeps style then trail else {}).ask style

/-- What is left where a character has no emoji style though one is asked for. -/
def withoutEmoji (trail : Trail) : Trail :=
  if trail.asEmoji then
    match trail.follower with
    | .ligature .. => { trail with asEmoji := false }
    | _ => {}
  else trail

/-- The columns of an emoji that the emoji style is asked of. It makes one picture
with a joined emoji. -/
def emojiColumns (trail : Trail) : Int :=
  if trail.follower = .joined ∨ trail.follower = .joinedKeycap then 0 else 2

/-- The columns that a character adds to a line, and what stands behind the place
before it. Characters of the Latin alphabet join nothing behind them. -/
def step (trail : Trail) (c : Char) : Int × Trail :=
  if trail.asEmoji && hasTwoStyles c then (trail.emojiColumns, { follower := .emoji })
  else if c.toNat ≤ 0xA0 then (1, {})
  else
    match Style.ofSelector? c with
    | some style => (0, trail.withoutEmoji.select style)
    | none =>
        if trail.asText && narrowsAsText c then (1, {})
        else if trail.asWide && isQuotationMark c then (2, {})
        else
          match trail.withoutEmoji.follower.extend? c with
          | some (columns, follower) => (columns, { follower })
          | none => (columnsOf c, { follower := Follower.ofChar c })

end Trail

/-- The columns of a text in front of something, and what stands behind the place
before the text. -/
def measure (line : List Char) : Int × Trail :=
  line.foldr (fun c (sum, trail) => ((trail.step c).1 + sum, (trail.step c).2)) (0, {})

def columns (line : List Char) : Nat :=
  (measure line).1.toNat

end FeatureService.Text
