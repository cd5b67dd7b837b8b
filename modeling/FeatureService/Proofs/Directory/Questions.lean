import FeatureService.Proofs.Directory.Positions
import Mathlib.Data.List.Induction

/-!
# What a reference asks of a catalog

A reference is a name or a number. A name is taken as it stands without a
question to the catalog, a number within 64 bits takes one question, and a
number beyond takes none. Leading zeros do not count, and whatever the catalog
answers is handed on.
-/

namespace FeatureService

/-! ## Numbers -/

namespace Reference

/-- The text is a number in decimal, with zeros in front or without. -/
def Numbers (text : String) (value : Nat) : Prop :=
  ∃ zeros, text.toList = List.replicate zeros '0' ++ Nat.toDigits 10 value

variable {text : String} {value : Nat}

theorem Numbers.isDigits (numbers : Numbers text value) : IsDigits text := by
  obtain ⟨zeros, characters⟩ := numbers
  unfold IsDigits
  rw [characters]
  refine ⟨by simp [Nat.toDigits_ne_nil], fun c mem => ?_⟩
  rcases List.mem_append.mp mem with zero | digit
  · obtain rfl := List.eq_of_mem_replicate zero
    rfl
  · exact Nat.isDigit_of_mem_toDigits (by decide) (by decide) digit

theorem Numbers.natural_eq (numbers : Numbers text value) :
    Numeral.natural text.toList = value := by
  obtain ⟨zeros, characters⟩ := numbers
  rw [Numeral.natural, characters, Nat.ofDigitChars_append, Nat.ofDigitChars_replicate_zero,
    Nat.mul_zero, Nat.ofDigitChars_ten_toDigits]

theorem exists_digitChar {c : Char} (digit : c.isDigit = true) :
    ∃ value < 10, c = Nat.digitChar value := by
  obtain ⟨low, high⟩ := Char.isDigit_iff_toNat.mp digit
  have zero : '0'.toNat = 48 := rfl
  have nine : '9'.toNat = 57 := rfl
  refine ⟨c.toNat - 48, by omega, Char.toNat_inj.mp ?_⟩
  rw [Nat.toNat_digitChar_of_lt_ten (by omega)]
  omega

/-- Digits are zeros in front of the decimal digits of a number. -/
theorem exists_zeros {digits : List Char} (some : digits ≠ [])
    (all : ∀ c ∈ digits, c.isDigit = true) :
    ∃ zeros value, digits = List.replicate zeros '0' ++ Nat.toDigits 10 value := by
  -- A further digit behind a number makes a number, and behind zeros alone a digit.
  induction digits using List.reverseRecOn with
  | nil => exact absurd rfl some
  | append_singleton front last ih =>
      obtain ⟨frontDigits, lastDigit⟩ := List.forall_mem_append.mp all
      obtain ⟨digit, small, rfl⟩ := exists_digitChar (lastDigit last (List.mem_cons_self ..))
      have single : [Nat.digitChar digit] = Nat.toDigits 10 digit :=
        (Nat.toDigits_of_lt_base small).symm
      by_cases empty : front = []
      · exact ⟨0, digit, by rw [empty, single]; rfl⟩
      · obtain ⟨zeros, value, split⟩ := ih empty frontDigits
        rcases Nat.eq_zero_or_pos value with rfl | positive
        · refine ⟨zeros + 1, digit, ?_⟩
          rw [split, single, Nat.toDigits_zero, List.replicate_succ']
        · refine ⟨zeros, 10 * value + digit, ?_⟩
          rw [split, single, List.append_assoc,
            Nat.toDigits_append_toDigits (by decide) positive small]

theorem isDigits_iff : IsDigits text ↔ ∃ value, Numbers text value := by
  constructor
  · rintro ⟨some, all⟩
    obtain ⟨zeros, value, split⟩ := exists_zeros some all
    exact ⟨value, zeros, split⟩
  · rintro ⟨value, numbers⟩
    exact numbers.isDigits

theorem parse_of_not_isDigits (name : ¬ IsDigits text) : parse text = .name text := by
  refine if_pos ?_
  by_contra both
  simp only [Bool.or_eq_true, Bool.not_eq_true', not_or, Bool.not_eq_true,
    Bool.not_eq_false] at both
  exact name ⟨List.isEmpty_eq_false_iff.mp both.1, List.all_eq_true.mp both.2⟩

end Reference

/-! ## Questions -/

inductive Question where
  | entryAt (workspace : String) (place : Nat)
  | entries (workspace : String)
  deriving DecidableEq

/-- A catalog that notes each question before it answers. -/
def Catalog.noting {m : Type → Type} [Monad m] (catalog : Catalog m) :
    Catalog (StateT (List Question) m) where
  entryAt workspace place := do
    modify (· ++ [.entryAt workspace place])
    catalog.entryAt workspace place
  entries workspace := do
    modify (· ++ [.entries workspace])
    catalog.entries workspace

namespace Directory

variable {m : Type → Type} [Monad m]

/-- What the answer about one place makes of a reference. -/
def outcomeOf (workspace reference : String) :
    Except CatalogError (Option Resource) → Except ResolveError String
  | .ok (some resource) => .ok (qualifiedName workspace resource.name)
  | .ok none => .error (.resourceNotFound workspace reference)
  | .error (.workspaceNotFound named) => .error (.workspaceNotFound named)
  | .error (.unavailable cause) => .error (.directoryUnavailable cause)

variable [LawfulMonad m] (catalog : Catalog m) (workspace : String) {reference : String}

theorem resolve_of_name (name : ¬ Reference.IsDigits reference) :
    resolve catalog workspace reference = pure (.ok (qualifiedName workspace reference)) := by
  unfold resolve locate
  rw [Reference.parse_of_not_isDigits name]
  exact pure_bind _ _

theorem resolve_of_position {place : Nat} (numbers : Reference.Numbers reference place)
    (within : place < Nat.pow 2 64) :
    resolve catalog workspace reference =
      outcomeOf workspace reference <$> catalog.entryAt workspace place := by
  unfold resolve locate
  rw [Reference.parse_of_isDigits numbers.isDigits, numbers.natural_eq, if_pos within,
    map_eq_pure_bind, bind_assoc]
  refine bind_congr fun answer => ?_
  rcases answer with (_ | _) | (_ | _) <;> exact pure_bind _ _

theorem resolve_of_beyond {place : Nat} (numbers : Reference.Numbers reference place)
    (beyond : Nat.pow 2 64 ≤ place) :
    resolve catalog workspace reference =
      pure (.error (.resourceNotFound workspace reference)) := by
  unfold resolve locate
  rw [Reference.parse_of_isDigits numbers.isDigits, numbers.natural_eq,
    if_neg (Nat.not_lt.mpr beyond)]
  exact pure_bind _ _

/-- A name asks nothing of a catalog, a number within 64 bits one question, whose
answer is handed on, and a number beyond asks nothing and is not found. Every
reference is one of the three. -/
theorem reference_asks_once_at_most (reference : String) (asked : List Question) :
    (¬ Reference.IsDigits reference →
      resolve catalog workspace reference = pure (.ok (qualifiedName workspace reference)) ∧
      (resolve catalog.noting workspace reference).run asked =
        pure (.ok (qualifiedName workspace reference), asked)) ∧
    (Reference.IsDigits reference ↔ ∃ place, Reference.Numbers reference place) ∧
    ∀ place, Reference.Numbers reference place →
      (place < Nat.pow 2 64 →
        resolve catalog workspace reference =
          outcomeOf workspace reference <$> catalog.entryAt workspace place ∧
        (resolve catalog.noting workspace reference).run asked =
          (fun answer => (outcomeOf workspace reference answer,
            asked ++ [Question.entryAt workspace place])) <$>
            catalog.entryAt workspace place) ∧
      (Nat.pow 2 64 ≤ place →
        resolve catalog workspace reference =
          pure (.error (.resourceNotFound workspace reference)) ∧
        (resolve catalog.noting workspace reference).run asked =
          pure (.error (.resourceNotFound workspace reference), asked)) := by
  refine ⟨fun name => ⟨resolve_of_name catalog workspace name, ?_⟩, Reference.isDigits_iff,
    fun place numbers => ⟨fun within => ⟨resolve_of_position catalog workspace numbers within, ?_⟩,
      fun beyond => ⟨resolve_of_beyond catalog workspace numbers beyond, ?_⟩⟩⟩
  · rw [resolve_of_name catalog.noting workspace name, StateT.run_pure]
  · rw [resolve_of_position catalog.noting workspace numbers within, StateT.run_map]
    simp [Catalog.noting]
  · rw [resolve_of_beyond catalog.noting workspace numbers beyond, StateT.run_pure]

/-- A name with a sign, a number with zeros in front, and one that 64 bits do not
hold, each asked of a catalog of three resources. -/
theorem reference_asks_once_at_most_city :
    (¬ Reference.IsDigits "+2" ∧
      (resolve counting.noting "city" "+2").run [] = pure (.ok "city:+2", [])) ∧
    (Reference.Numbers "0002" 2 ∧ 2 < Nat.pow 2 64 ∧
      (resolve counting.noting "city" "0002").run [] =
        (fun answer => (outcomeOf "city" "0002" answer, [.entryAt "city" 2])) <$>
          counting.entryAt "city" 2 ∧
      ((resolve counting "city" "0002").run 7).run = (.ok "city:owners", 8)) ∧
    Reference.Numbers "018446744073709551618" (Nat.pow 2 64 + 2) ∧
      Nat.pow 2 64 ≤ Nat.pow 2 64 + 2 ∧
      (resolve counting.noting "city" "018446744073709551618").run [] =
        pure (.error (.resourceNotFound "city" "018446744073709551618"), []) := by
  have name : ¬ Reference.IsDigits "+2" := fun digits =>
    absurd (digits.2 '+' (List.mem_cons_self ..)) (by decide)
  have small : Reference.Numbers "0002" 2 := ⟨3, by decide⟩
  have within : 2 < Nat.pow 2 64 := by decide
  have large : Reference.Numbers "018446744073709551618" (Nat.pow 2 64 + 2) :=
    ⟨1, by decide +kernel⟩
  obtain ⟨answered, noted⟩ :=
    ((reference_asks_once_at_most counting "city" "0002" []).2.2 2 small).1 within
  refine ⟨⟨name, ((reference_asks_once_at_most counting "city" "+2" []).1 name).2⟩,
    ⟨small, within, noted, ?_⟩, large, Nat.le_add_right _ _,
    (((reference_asks_once_at_most counting "city" "018446744073709551618" []).2.2 _ large).2
      (Nat.le_add_right _ _)).2⟩
  rw [answered]
  rfl

end Directory

end FeatureService
