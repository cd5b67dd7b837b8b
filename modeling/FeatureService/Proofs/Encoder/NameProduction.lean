import FeatureService.Proofs.Encoder.Grammar
import FeatureService.Proofs.Encoder.NamePattern
import Mathlib.Computability.Language

/-!
# The name production

XML 1.0 derives its names from a production of its own: a character that starts a
name, then any number of characters that start or continue one. It lets a colon
start a name. Element names are the names derived without a colon, since a colon
would be read as a namespace.
-/

namespace FeatureService

open scoped Computability

namespace Xml

def codes (low high : Nat) : Language Char :=
  {text | ∃ c : Char, text = [c] ∧ low ≤ c.toNat ∧ c.toNat ≤ high}

def nameStartChar : Language Char :=
  codes 0x3A 0x3A + codes 0x41 0x5A + codes 0x5F 0x5F + codes 0x61 0x7A + codes 0xC0 0xD6 +
  codes 0xD8 0xF6 + codes 0xF8 0x2FF + codes 0x370 0x37D + codes 0x37F 0x1FFF +
  codes 0x200C 0x200D + codes 0x2070 0x218F + codes 0x2C00 0x2FEF + codes 0x3001 0xD7FF +
  codes 0xF900 0xFDCF + codes 0xFDF0 0xFFFD + codes 0x10000 0xEFFFF

def nameChar : Language Char :=
  nameStartChar + codes 0x2D 0x2D + codes 0x2E 0x2E + codes 0x30 0x39 + codes 0xB7 0xB7 +
  codes 0x300 0x36F + codes 0x203F 0x2040

def name : Language Char :=
  nameStartChar * nameChar∗

def Single (language : Language Char) : Prop :=
  ∀ text ∈ language, ∃ c : Char, text = [c]

namespace Single

theorem codes (low high : Nat) : Single (codes low high) := by
  rintro text ⟨c, single, -⟩
  exact ⟨c, single⟩

theorem add {first second : Language Char} (left : Single first) (right : Single second) :
    Single (first + second) := by
  rintro text (mem | mem)
  · exact left text mem
  · exact right text mem

theorem nameStartChar : Single nameStartChar := by
  unfold Xml.nameStartChar
  iterate 15 refine add ?_ (codes _ _)
  exact codes _ _

theorem nameChar : Single nameChar := by
  unfold Xml.nameChar
  iterate 6 refine add ?_ (codes _ _)
  exact nameStartChar

theorem mem_kstar_iff {language : Language Char} (single : Single language) (text : List Char) :
    text ∈ language∗ ↔ ∀ c ∈ text, [c] ∈ language := by
  rw [Language.mem_kstar]
  constructor
  · rintro ⟨pieces, rfl, each⟩ c mem
    obtain ⟨piece, isPiece, inside⟩ := List.mem_flatten.mp mem
    obtain ⟨_, rfl⟩ := single piece (each piece isPiece)
    obtain rfl := List.mem_singleton.mp inside
    exact each [c] isPiece
  · intro each
    refine ⟨text.map fun c => [c], ?_, ?_⟩
    · rw [← List.flatMap_def, List.flatMap_singleton']
    · rintro _ isPiece
      obtain ⟨c, mem, rfl⟩ := List.mem_map.mp isPiece
      exact each c mem

end Single

theorem singleton_mem_codes {low high : Nat} {c : Char} :
    [c] ∈ codes low high ↔ low ≤ c.toNat ∧ c.toNat ≤ high := by
  constructor
  · rintro ⟨_, single, within⟩
    obtain rfl := List.singleton_inj.mp single
    exact within
  · intro within
    exact ⟨c, rfl, within⟩

theorem mem_name_iff (text : List Char) :
    text ∈ name ↔ ∃ first rest, text = first :: rest ∧ [first] ∈ nameStartChar ∧
      ∀ c ∈ rest, [c] ∈ nameChar := by
  rw [name, Language.mem_mul]
  constructor
  · rintro ⟨front, start, rest, further, rfl⟩
    obtain ⟨first, rfl⟩ := Single.nameStartChar front start
    exact ⟨first, rest, rfl, start, (Single.nameChar.mem_kstar_iff rest).mp further⟩
  · rintro ⟨first, rest, rfl, start, further⟩
    exact ⟨[first], start, rest, (Single.nameChar.mem_kstar_iff rest).mpr further, rfl⟩

end Xml

namespace ElementName

theorem eq_colon_iff {c : Char} : c = ':' ↔ 0x3A ≤ c.toNat ∧ c.toNat ≤ 0x3A := by
  rw [← Char.toNat_inj, ← Nat.le_antisymm_iff]
  exact eq_comm

theorem mem_nameStartChar_iff {c : Char} :
    [c] ∈ Xml.nameStartChar ↔ c = ':' ∨ isStart c = true := by
  rw [eq_colon_iff]
  simp only [Xml.nameStartChar, Language.mem_add, Xml.singleton_mem_codes, or_assoc, isStart,
    startRanges, Text.Ranges.holds, Text.Ranges.covers_cons_iff, Text.Ranges.not_covers_nil,
    or_false]

theorem mem_nameChar_iff {c : Char} : [c] ∈ Xml.nameChar ↔ c = ':' ∨ isPart c = true := by
  rw [isPart, Bool.or_eq_true, ← or_assoc, ← mem_nameStartChar_iff]
  simp only [Xml.nameChar, Language.mem_add, Xml.singleton_mem_codes, or_assoc, furtherRanges,
    Text.Ranges.holds, Text.Ranges.covers_cons_iff, Text.Ranges.not_covers_nil, or_false]
  -- The grammar keeps the hyphen and the full stop apart, and the ranges join them.
  apply or_congr_right
  omega

theorem ne_colon_of_isPart {c : Char} (part : isPart c = true) : c ≠ ':' := by
  rintro rfl
  cases part

/-- Element names are the names without a colon. -/
theorem isValid_iff_mem_name (text : String) :
    isValid text = true ↔ text.toList ∈ Xml.name ∧ ':' ∉ text.toList := by
  rw [isValid_iff, Xml.mem_name_iff]
  constructor
  · rintro ⟨first, rest, split, start, parts⟩
    refine ⟨⟨first, rest, split, mem_nameStartChar_iff.mpr (.inr start), fun c mem =>
      mem_nameChar_iff.mpr (.inr (parts c mem))⟩, ?_⟩
    rw [split, List.mem_cons]
    rintro (colon | mem)
    · exact ne_colon_of_isPart (isPart_of_isStart start) colon.symm
    · exact ne_colon_of_isPart (parts ':' mem) rfl
  · rintro ⟨⟨first, rest, split, start, parts⟩, colonless⟩
    rw [split, List.mem_cons, not_or] at colonless
    obtain ⟨notFirst, notFurther⟩ := colonless
    refine ⟨first, rest, split, ?_, fun c mem => ?_⟩
    · exact (mem_nameStartChar_iff.mp start).resolve_left (Ne.symm notFirst)
    · exact (mem_nameChar_iff.mp (parts c mem)).resolve_left (ne_of_mem_of_not_mem mem notFurther)

theorem isValid_front {front back : String} (valid : isValid (front ++ back) = true)
    (nonempty : front ≠ "") : isValid front = true := by
  obtain ⟨first, rest, split, start, parts⟩ := (isValid_iff _).mp valid
  rw [String.toList_append] at split
  rw [isValid_iff]
  cases characters : front.toList with
  | nil => exact absurd (String.toList_eq_nil_iff.mp characters) nonempty
  | cons head tail =>
      rw [characters] at split
      obtain ⟨rfl, rfl⟩ := List.cons.inj split
      exact ⟨head, tail, rfl, start, fun c mem => parts c (List.mem_append_left _ mem)⟩

theorem isValid_append {text other : String} (valid : isValid text = true)
    (further : isValid other = true) : isValid (text ++ other) = true := by
  obtain ⟨first, rest, split, start, parts⟩ := (isValid_iff text).mp valid
  obtain ⟨second, last, behind, second_start, second_parts⟩ := (isValid_iff other).mp further
  refine (isValid_iff _).mpr ⟨first, rest ++ second :: last, ?_, start, fun c mem => ?_⟩
  · rw [String.toList_append, split, behind, List.cons_append]
  · rcases List.mem_append.mp mem with before | within
    · exact parts c before
    · rcases List.mem_cons.mp within with rfl | after
      · exact isPart_of_isStart second_start
      · exact second_parts c after

/-- A text is accepted if the pattern is found in it, and this is if it is a name in
the sense of XML without a colon. So the accepted texts are closed under fronts
that are not empty and under writing one behind another, and none of them has a
line feed. -/
theorem accepts_colonless_names (text : String) :
    (isValid text = true ↔ pattern.FoundIn text) ∧
      (isValid text = true ↔ text.toList ∈ Xml.name ∧ ':' ∉ text.toList) ∧
      (isValid text = true →
        (∀ front back, text = front ++ back → front ≠ "" → isValid front = true) ∧
          (∀ other, isValid other = true → isValid (text ++ other) = true) ∧
          '\n' ∉ text.toList) := by
  refine ⟨isValid_iff_foundIn text, isValid_iff_mem_name text, fun valid => ⟨?_, ?_, ?_⟩⟩
  · rintro front back rfl nonempty
    exact isValid_front valid nonempty
  · intro other further
    exact isValid_append valid further
  · exact (plain_of_isValid valid).not_mem rfl

/-- A name from outside ASCII with signs that continue one, and the two texts nearest
to a name: one with a colon and one with a line feed at its end. -/
theorem accepts_colonless_names_spelled :
    pattern.FoundIn "Étape-1·b" ∧ "Étape-1·b".toList ∈ Xml.name ∧ isValid "Étape-1" = true ∧
      isValid "Étape-1·bgml.3" = true ∧ ¬ pattern.FoundIn "gml:3" ∧ ¬ pattern.FoundIn "gml3\n" := by
  have valid : isValid "Étape-1·b" = true := by decide
  obtain ⟨found, derived, closed⟩ := accepts_colonless_names "Étape-1·b"
  obtain ⟨fronts, appended, -⟩ := closed valid
  have colon : ¬ isValid "gml:3" = true := by decide
  have fed : ¬ isValid "gml3\n" = true := by decide
  refine ⟨found.mp valid, (derived.mp valid).1, fronts "Étape-1" "·b" (by decide) (by decide),
    appended "gml.3" (by decide), ?_, ?_⟩
  · exact fun matched => colon ((accepts_colonless_names "gml:3").1.mpr matched)
  · exact fun matched => fed ((accepts_colonless_names "gml3\n").1.mpr matched)

end ElementName

end FeatureService
