import FeatureService.Encoder.ElementName

/-!
# The pattern of element names

Element names are described by a pattern that is searched for in a text. A match
is a part of the text together with what stands before and behind it, since the
ends of the text are told by there being nothing before or behind. A pattern
with both ends can match no less than the whole text, line feeds included.
-/

namespace FeatureService

/-- Patterns: the ends of a text, a character of a class, two patterns in a row and
a pattern any number of times. -/
inductive Regex where
  | textStart
  | textEnd
  | oneOf (ranges : Text.Ranges)
  | row (first second : Regex)
  | star (part : Regex)

namespace Regex

/-- Matches any number of times in a row. -/
inductive Repeated (once : List Char → List Char → List Char → Prop) :
    List Char → List Char → List Char → Prop where
  | done (before after : List Char) : Repeated once before [] after
  | more {before first rest after : List Char} (here : once before first (rest ++ after))
      (further : Repeated once (before ++ first) rest after) :
      Repeated once before (first ++ rest) after

/-- What a pattern matches between what stands before and behind it. -/
def Matches : Regex → List Char → List Char → List Char → Prop
  | .textStart, before, part, _ => before = [] ∧ part = []
  | .textEnd, _, part, after => part = [] ∧ after = []
  | .oneOf ranges, _, part, _ => ∃ c, part = [c] ∧ ranges.holds c = true
  | .row first second, before, part, after =>
      ∃ front back, part = front ++ back ∧ first.Matches before front (back ++ after) ∧
        second.Matches (before ++ front) back after
  | .star once, before, part, after => Repeated once.Matches before part after

/-- The pattern matches some part of a text. -/
def FoundIn (regex : Regex) (text : String) : Prop :=
  ∃ before part after, text.toList = before ++ part ++ after ∧ regex.Matches before part after

def whole (regex : Regex) : Regex :=
  .row .textStart (.row regex .textEnd)

/-- A pattern between the ends is found if it matches the whole text. -/
theorem foundIn_whole_iff (regex : Regex) (text : String) :
    regex.whole.FoundIn text ↔ regex.Matches [] text.toList [] := by
  constructor
  · rintro ⟨before, part, after, split, start, rest, rfl, ⟨rfl, rfl⟩, back, last, rfl, matched,
      rfl, rfl⟩
    simp only [List.nil_append, List.append_nil] at split matched
    rwa [split]
  · intro matched
    refine ⟨[], text.toList, [], by simp, [], text.toList, rfl, ⟨rfl, rfl⟩, text.toList, [], ?_, ?_,
      rfl, rfl⟩
    · rw [List.append_nil]
    · simpa using matched

theorem matches_star_oneOf_iff (ranges : Text.Ranges) (before part after : List Char) :
    (star (.oneOf ranges)).Matches before part after ↔ ∀ c ∈ part, ranges.holds c = true := by
  constructor
  · intro (repeated : Repeated _ before part after)
    induction repeated with
    | done before after => exact List.forall_mem_nil _
    | more here further ih =>
        obtain ⟨c, rfl, held⟩ := here
        exact List.forall_mem_cons.mpr ⟨held, ih⟩
  · intro held
    induction part generalizing before with
    | nil => exact .done before after
    | cons c rest ih =>
        obtain ⟨here, further⟩ := List.forall_mem_cons.mp held
        exact .more ⟨c, rfl, here⟩ (ih (before ++ [c]) further)

end Regex

namespace ElementName

/-- The pattern of element names: from end to end, a character that starts a name
and any number of characters that start or continue one. -/
def pattern : Regex :=
  .whole (.row (.oneOf startRanges) (.star (.oneOf (startRanges ++ furtherRanges))))

theorem holds_startRanges_append (c : Char) :
    (startRanges ++ furtherRanges).holds c = isPart c :=
  Text.Ranges.covers_append startRanges furtherRanges c.toNat

theorem isValid_iff (text : String) :
    isValid text = true ↔ ∃ first rest, text.toList = first :: rest ∧ isStart first = true ∧
      ∀ c ∈ rest, isPart c = true := by
  unfold isValid
  cases text.toList with
  | nil => simp
  | cons first rest =>
      rw [Bool.and_eq_true, List.all_eq_true]
      constructor
      · rintro ⟨start, parts⟩
        exact ⟨first, rest, rfl, start, parts⟩
      · rintro ⟨_, _, split, start, parts⟩
        obtain ⟨rfl, rfl⟩ := List.cons.inj split
        exact ⟨start, parts⟩

/-- A text is an element name if the pattern is found in it. -/
theorem isValid_iff_foundIn (text : String) :
    isValid text = true ↔ pattern.FoundIn text := by
  rw [isValid_iff, pattern, Regex.foundIn_whole_iff]
  constructor
  · rintro ⟨first, rest, split, start, parts⟩
    refine ⟨[first], rest, split, ⟨first, rfl, start⟩,
      (Regex.matches_star_oneOf_iff ..).mpr fun c mem => ?_⟩
    rw [holds_startRanges_append, parts c mem]
  · rintro ⟨_, rest, split, ⟨first, rfl, start⟩, repeated⟩
    refine ⟨first, rest, split, start, fun c mem => ?_⟩
    rw [← holds_startRanges_append]
    exact (Regex.matches_star_oneOf_iff ..).mp repeated c mem

end ElementName

end FeatureService
