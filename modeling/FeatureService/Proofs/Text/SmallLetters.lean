import FeatureService.Text.Caseless
import FeatureService.Text.Lowercase
import Mathlib.Tactic.ByContra

/-!
# Texts with a lower case in ASCII

Full lower-casing leads from one character beyond ASCII to a character of ASCII:
the Kelvin sign has the small k as its lower case. The capital I with a dot keeps
its dot as a character of its own. So a word in ASCII without a small k is the
lower case of texts in ASCII alone, and of these it is the lower case letter by
letter.
-/

namespace FeatureService.Text

/-- Whether a character of ASCII stands in the lower case of characters of ASCII
alone. The small k does not. -/
def isOfAsciiAlone (c : Char) : Bool :=
  c.toNat < 0x80 && c != 'k'

theorem not_isOfAsciiAlone_of_beyond {c : Char} (beyond : 0x80 ≤ c.toNat) :
    isOfAsciiAlone c = false := by
  rw [isOfAsciiAlone, decide_eq_false (Nat.not_lt.mpr beyond), Bool.false_and]

/-! ## The runs of capitals -/

namespace CapitalRun

/-- The greatest code point among the small letters of a run. -/
def lastSmall (run : CapitalRun) : Nat :=
  run.small + (run.last - run.first)

/-- Whether the small letters of a run lie beyond ASCII and on one side of the
surrogates. -/
def liesBeyond (run : CapitalRun) : Bool :=
  0x80 ≤ run.small && (run.lastSmall < 0xD800 || (0xDFFF < run.small && run.lastSmall < 0x110000))

/-- Whether a run holds one capital, whose small letter is k. -/
def isKelvin (run : CapitalRun) : Bool :=
  run.last == run.first && run.small == 'k'.toNat

end CapitalRun

theorem capitalRuns_beyond :
    ∀ run ∈ capitalRuns, run.last < 0x80 ∨ run.liesBeyond = true ∨ run.isKelvin = true := by
  decide +kernel

/-- A run does not lead from beyond ASCII into it, but for the small k. -/
theorem CapitalRun.not_isOfAsciiAlone {run : CapitalRun} (mem : run ∈ capitalRuns)
    {code small : Nat} (beyond : 0x80 ≤ code) (lower : run.lower? code = some small) :
    isOfAsciiAlone (Char.ofNat small) = false := by
  unfold lower? at lower
  split at lower
  · rename_i within
    obtain ⟨above, below, -⟩ := within
    obtain rfl := Option.some.inj lower
    rcases capitalRuns_beyond run mem with low | lies | kelvin
    · omega
    · simp only [liesBeyond, Bool.and_eq_true, Bool.or_eq_true, decide_eq_true_eq] at lies
      unfold lastSmall at lies
      have valid : (run.small + (code - run.first)).isValidChar := by
        unfold Nat.isValidChar
        omega
      have letter : Char.ofNat (run.small + (code - run.first)) = Char.ofNatAux _ valid :=
        dif_pos valid
      rw [letter]
      exact not_isOfAsciiAlone_of_beyond (Nat.le_add_right_of_le lies.1)
    · simp only [isKelvin, Bool.and_eq_true, beq_iff_eq] at kelvin
      have same : run.small + (code - run.first) = 'k'.toNat := by omega
      rw [same]
      rfl
  · cases lower

/-! ## One character -/

theorem lowerChar_of_ascii {c : Char} (ascii : c.toNat < 0x80) : lowerChar c = [c.toLower] :=
  if_pos ascii

/-- In the lower case of a character beyond ASCII stands one that is not of ASCII
alone. -/
theorem exists_mem_lowerChar {c : Char} (beyond : 0x80 ≤ c.toNat) :
    ∃ small ∈ lowerChar c, isOfAsciiAlone small = false := by
  unfold lowerChar
  rw [if_neg (Nat.not_lt.mpr beyond)]
  split
  · exact ⟨'\u0307', by decide, by decide⟩
  · split
    · rename_i code found
      obtain ⟨run, mem, lower⟩ := List.exists_of_findSome?_eq_some found
      exact ⟨_, List.mem_singleton_self _, run.not_isOfAsciiAlone mem beyond lower⟩
    · exact ⟨c, List.mem_singleton_self _, not_isOfAsciiAlone_of_beyond beyond⟩

theorem toLower_of_beyond {c : Char} (beyond : 0x80 ≤ c.toNat) : c.toLower = c := by
  unfold Char.toLower
  split
  · rename_i capital
    have below := UInt32.le_iff_toNat_le.mp capital.2
    have last : 'Z'.val.toNat < 0x80 := by decide
    have same : c.val.toNat = c.toNat := rfl
    omega
  · rfl

theorem ascii_of_toLower {c : Char} (ascii : c.toLower.toNat < 0x80) : c.toNat < 0x80 := by
  by_contra beyond
  rw [toLower_of_beyond (Nat.le_of_not_lt beyond)] at ascii
  exact beyond ascii

/-! ## A text -/

/-- The lower case of the first character, which depends on its neighbours, stands in
front of the lower case of the others. -/
theorem lowerFrom_cons (before rest : List Char) (c : Char) :
    ∃ small, lowerFrom before (c :: rest) = small ++ lowerFrom (c :: before) rest ∧
      (c = 'Σ' ∧ (small = ['ς'] ∨ small = ['σ']) ∨ c ≠ 'Σ' ∧ small = lowerChar c) := by
  by_cases sigma : c = 'Σ'
  · refine ⟨_, rfl, .inl ⟨sigma, ?_⟩⟩
    rw [if_pos sigma]
    split
    · exact .inl rfl
    · exact .inr rfl
  · exact ⟨_, rfl, .inr ⟨sigma, if_neg sigma⟩⟩

theorem lowerFrom_of_ascii (before : List Char) {text : List Char}
    (ascii : ∀ c ∈ text, c.toNat < 0x80) : lowerFrom before text = text.map Char.toLower := by
  induction text generalizing before with
  | nil => rfl
  | cons c rest ih =>
      obtain ⟨first, others⟩ := List.forall_mem_cons.mp ascii
      obtain ⟨small, split, ⟨rfl, -⟩ | ⟨-, rfl⟩⟩ := lowerFrom_cons before rest c
      · exact absurd first (by decide)
      · rw [split, lowerChar_of_ascii first, ih (c :: before) others]
        rfl

theorem ascii_of_lowerFrom (before : List Char) {text : List Char}
    (alone : ∀ small ∈ lowerFrom before text, isOfAsciiAlone small = true) :
    ∀ c ∈ text, c.toNat < 0x80 := by
  induction text generalizing before with
  | nil => simp
  | cons c rest ih =>
      obtain ⟨small, split, cases⟩ := lowerFrom_cons before rest c
      rw [split, List.forall_mem_append] at alone
      refine List.forall_mem_cons.mpr ⟨?_, ih (c :: before) alone.2⟩
      by_contra beyond
      have foreign : ∃ letter ∈ small, isOfAsciiAlone letter = false := by
        obtain ⟨-, rfl | rfl⟩ | ⟨-, rfl⟩ := cases
        · exact ⟨'ς', by decide, by decide⟩
        · exact ⟨'σ', by decide, by decide⟩
        · exact exists_mem_lowerChar (Nat.le_of_not_lt beyond)
      obtain ⟨letter, mem, isForeign⟩ := foreign
      rw [alone.1 letter mem] at isForeign
      cases isForeign

/-- A word that is of ASCII alone is the lower case of the texts that equal it letter
by letter. -/
theorem lowercase_eq_iff {word : String} (alone : ∀ c ∈ word.toList, isOfAsciiAlone c = true)
    (text : String) : lowercase text = word ↔ caseless text = word.toList := by
  rw [← String.toList_inj, lowercase, String.toList_ofList, caseless]
  constructor
  · intro same
    rw [← same] at alone
    rw [← same, lowerFrom_of_ascii [] (ascii_of_lowerFrom [] alone)]
  · intro same
    rw [← same]
    apply lowerFrom_of_ascii
    intro c mem
    have small := alone c.toLower (same ▸ List.mem_map_of_mem mem)
    simp only [isOfAsciiAlone, Bool.and_eq_true, decide_eq_true_eq] at small
    exact ascii_of_toLower small.1

end FeatureService.Text
