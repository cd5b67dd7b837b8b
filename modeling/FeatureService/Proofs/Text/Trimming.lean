import FeatureService.Text.Blank
import Mathlib.Data.List.DropRight

/-!
# What trimming leaves

Around what is left of a trimmed text there is only white space, and at its own
ends there is none. No other part of the text is like that, so trimming again
changes nothing.
-/

namespace FeatureService.Text

/-- No white space stands at either end of a text. -/
structure Bare (text : List Char) : Prop where
  first : ∀ c, text.head? = some c → isBlank c = false
  last : ∀ c, text.getLast? = some c → isBlank c = false

/-- What is left of a text without the white space around it. -/
structure Trims (text core : List Char) : Prop where
  surrounded : ∃ front back, text = front ++ core ++ back ∧
    (∀ c ∈ front, isBlank c = true) ∧ ∀ c ∈ back, isBlank c = true
  bare : Bare core

theorem Bare.trims {text : List Char} (bare : Bare text) : Trims text text :=
  ⟨⟨[], [], by rw [List.nil_append, List.append_nil], by simp, by simp⟩, bare⟩

theorem Bare.rdropWhile_eq {text : List Char} (bare : Bare text) :
    text.rdropWhile isBlank = text := by
  refine List.rdropWhile_eq_self_iff.mpr fun nonempty => ?_
  rw [bare.last _ (List.getLast?_eq_some_getLast nonempty)]
  exact Bool.false_ne_true

/-! ## White space at the end -/

theorem trimEnd_concat (text : List Char) (c : Char) :
    trimEnd (text ++ [c]) = if isBlank c then trimEnd text else text ++ [c] := by
  induction text with
  | nil => rfl
  | cons first rest ih =>
      rw [List.cons_append, trimEnd, ih]
      by_cases blank : isBlank c = true
      · rw [if_pos blank, if_pos blank, trimEnd]
      · rw [if_neg blank, if_neg blank]
        cases rest <;> rfl

theorem trimEnd_eq_rdropWhile (text : List Char) : trimEnd text = text.rdropWhile isBlank := by
  induction text using List.reverseRecOn with
  | nil => rfl
  | append_singleton rest c ih => rw [trimEnd_concat, List.rdropWhile_concat, ih]

theorem rdropWhile_append_of_blank {back : List Char} (blank : ∀ c ∈ back, isBlank c = true)
    (text : List Char) : (text ++ back).rdropWhile isBlank = text.rdropWhile isBlank := by
  rw [List.rdropWhile, List.reverse_append, List.dropWhile_append_of_pos, List.rdropWhile]
  exact fun c mem => blank c (List.mem_reverse.mp mem)

/-! ## White space at either end -/

theorem trim_eq (text : List Char) :
    trim text = (text.dropWhile isBlank).rdropWhile isBlank :=
  trimEnd_eq_rdropWhile _

theorem Trims.trim_eq {text core : List Char} (trims : Trims text core) : trim text = core := by
  obtain ⟨⟨front, back, rfl, blankFront, blankBack⟩, bare⟩ := trims
  rw [Text.trim_eq, List.append_assoc, List.dropWhile_append_of_pos blankFront]
  cases core with
  | nil =>
      rw [List.nil_append, List.dropWhile_eq_nil_iff.mpr blankBack]
      rfl
  | cons first rest =>
      have kept : (first :: rest ++ back).dropWhile isBlank = first :: rest ++ back := by
        rw [List.cons_append, List.dropWhile_cons, bare.first first rfl]
        rfl
      rw [kept, rdropWhile_append_of_blank blankBack, bare.rdropWhile_eq]

theorem trims_trim (text : List Char) : Trims text (trim text) := by
  rw [Text.trim_eq]
  have split : text = text.takeWhile isBlank ++ (text.dropWhile isBlank).rdropWhile isBlank ++
      (text.dropWhile isBlank).rtakeWhile isBlank := by
    rw [List.append_assoc, List.rdropWhile_append_rtakeWhile, List.takeWhile_append_dropWhile]
  refine ⟨⟨_, _, split, fun c mem => List.mem_takeWhile_imp mem,
    fun c mem => List.mem_rtakeWhile_imp mem⟩, ?_, ?_⟩
  · intro c first
    -- What is left begins as the text without the white space at its front does.
    obtain ⟨back, whole⟩ := List.rdropWhile_prefix isBlank (text.dropWhile isBlank)
    have begins : (text.dropWhile isBlank).head? = some c := by
      rw [← whole, List.head?_append, first]
      rfl
    have stops := List.head?_dropWhile_not isBlank text
    rw [begins] at stops
    simpa using stops
  · intro c last
    have nonempty : (text.dropWhile isBlank).rdropWhile isBlank ≠ [] := by
      rintro empty
      rw [empty] at last
      cases last
    have stops := List.rdropWhile_last_not isBlank _ nonempty
    rw [List.getLast?_eq_some_getLast nonempty] at last
    obtain rfl := Option.some.inj last
    exact Bool.eq_false_iff.mpr stops

/-- Trimming leaves the one part of a text with white space around it and none at
its ends. -/
theorem trims_iff (text core : List Char) : Trims text core ↔ trim text = core := by
  constructor
  · exact Trims.trim_eq
  · rintro rfl
    exact trims_trim text

theorem Trims.within {text core : List Char} (trims : Trims text core) : core <:+: text := by
  obtain ⟨⟨front, back, whole, _⟩, _⟩ := trims
  exact ⟨front, back, whole.symm⟩

end FeatureService.Text
