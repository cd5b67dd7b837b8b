import FeatureService.Json.Numeral

/-!
# Whole numbers are read back

A whole number is written as its sign and its decimal digits. It is read back
wherever the text behind it does not continue the numeral, and as the same
number if it lies within 64 bits.
-/

namespace FeatureService

/-- A whole number within 64 bits, signed or unsigned. -/
def Number.Whole : Number → Prop
  | .integer value => -(Nat.pow 2 63 : Nat) ≤ value ∧ value < (Nat.pow 2 64 : Nat)
  | .real _ => False

instance : DecidablePred Number.Whole
  | .integer value =>
      inferInstanceAs (Decidable (-(Nat.pow 2 63 : Nat) ≤ value ∧ value < (Nat.pow 2 64 : Nat)))
  | .real _ => inferInstanceAs (Decidable False)

namespace Numeral

/-- The text does not continue a numeral in front of it. -/
def Stops (rest : List Char) : Prop :=
  ∀ c, rest.head? = some c → c.isDigit = false ∧ c ≠ '.' ∧ c ≠ 'e' ∧ c ≠ 'E'

theorem stops_nil : Stops [] := by
  intro c first
  cases first

theorem stops_cons {c : Char} {rest : List Char}
    (other : c.isDigit = false ∧ c ≠ '.' ∧ c ≠ 'e' ∧ c ≠ 'E') : Stops (c :: rest) := by
  intro first isFirst
  obtain rfl := Option.some.inj isFirst
  exact other

/-! ## Digits -/

theorem natural_digits (value : Nat) : natural (digits value) = value :=
  Nat.ofDigitChars_ten_toDigits

theorem isDigit_of_mem_digits {value : Nat} {c : Char} (mem : c ∈ digits value) :
    c.isDigit = true :=
  Nat.isDigit_of_mem_toDigits (by decide) (by decide) mem

/-- Only zero is written with a zero in front. -/
theorem digits_of_zero_first {value : Nat} {rest : List Char}
    (zero : digits value = '0' :: rest) : rest = [] := by
  induction value using Nat.strongRecOn generalizing rest with
  | ind value ih =>
      unfold digits at zero ih
      rcases Nat.lt_or_ge value 10 with small | large
      · rw [Nat.toDigits_of_lt_base small] at zero
        exact (List.cons.inj zero).2.symm
      · rw [Nat.toDigits_of_base_le (by decide) large] at zero
        -- A zero in front of the leading digits would be all there is of them.
        obtain ⟨front, leading⟩ : ∃ front, Nat.toDigits 10 (value / 10) = '0' :: front := by
          obtain ⟨first, front, leading⟩ :=
            List.exists_cons_of_ne_nil (Nat.toDigits_ne_nil (n := value / 10) (b := 10))
          rw [leading] at zero
          obtain rfl := (List.cons.inj zero).1
          exact ⟨front, leading⟩
        have none : front = [] := ih (value / 10) (by omega) leading
        have number := natural_digits (value / 10)
        rw [digits, leading, none] at number
        have quotient : value / 10 = 0 := number.symm
        omega

theorem digitsOf_append {front rest : List Char} (all : ∀ c ∈ front, c.isDigit = true)
    (stops : Stops rest) : digitsOf (front ++ rest) = (front, rest) := by
  have none : rest.takeWhile Char.isDigit = [] ∧ rest.dropWhile Char.isDigit = rest := by
    cases rest with
    | nil => exact ⟨rfl, rfl⟩
    | cons c rest => simp [(stops c rfl).1]
  rw [digitsOf, List.takeWhile_append_of_pos all, List.dropWhile_append_of_pos all, none.1, none.2,
    List.append_nil]

/-! ## Numerals -/

variable {rest : List Char}

theorem readWhole_digits (value : Nat) (stops : Stops rest) :
    readWhole (digits value ++ rest) = some (digits value, rest) := by
  rw [readWhole, digitsOf_append (fun _ => isDigit_of_mem_digits) stops]
  split
  · rename_i empty
    exact absurd (Prod.mk.inj empty).1 Nat.toDigits_ne_nil
  · rename_i zero
    exact absurd (digits_of_zero_first (Prod.mk.inj zero).1) (List.cons_ne_nil _ _)
  · rfl

theorem readFraction_of_stops (stops : Stops rest) : readFraction rest = some (none, rest) := by
  unfold readFraction
  split
  · exact absurd rfl (stops _ rfl).2.1
  · rfl

theorem readExponent_of_stops (stops : Stops rest) : readExponent rest = some (none, rest) := by
  cases rest with
  | nil => rfl
  | cons c rest =>
      obtain ⟨_, _, small, capital⟩ := stops c rfl
      exact if_neg (not_or.mpr ⟨small, capital⟩)

theorem readUnsigned_digits (negative : Bool) (value : Nat) (stops : Stops rest) :
    readUnsigned negative (digits value ++ rest) =
      some (⟨negative, digits value, none, none⟩, rest) := by
  simp [readUnsigned, readWhole_digits value stops, readFraction_of_stops stops,
    readExponent_of_stops stops]

theorem chars_ofInt (value : Int) :
    (ofInt value).chars = (if value < 0 then ['-'] else []) ++ digits value.natAbs := by
  simp [ofInt, chars, exponentChars]

/-- A whole number starts with its sign or with a digit. -/
theorem chars_ofInt_eq_cons (value : Int) :
    ∃ first others, (ofInt value).chars = first :: others ∧
      (first = '-' ∨ first.isDigit = true) := by
  rw [chars_ofInt]
  by_cases negative : value < 0
  · rw [if_pos negative]
    exact ⟨'-', digits value.natAbs, rfl, .inl rfl⟩
  · obtain ⟨first, others, leading⟩ : ∃ first others, digits value.natAbs = first :: others :=
      List.exists_cons_of_ne_nil Nat.toDigits_ne_nil
    have mem : first ∈ digits value.natAbs := leading ▸ List.mem_cons_self ..
    rw [if_neg negative, List.nil_append]
    exact ⟨first, others, leading, .inr (isDigit_of_mem_digits mem)⟩

theorem read_of_digit {c : Char} (digit : c.isDigit = true) (text : List Char) :
    read (c :: text) = readUnsigned false (c :: text) := by
  have unsigned : c ≠ '-' := by
    rintro rfl
    exact absurd digit (by decide)
  simp [read, unsigned]

theorem read_ofInt (value : Int) (stops : Stops rest) :
    read ((ofInt value).chars ++ rest) = some (ofInt value, rest) := by
  have written := readUnsigned_digits (value < 0) value.natAbs stops
  rw [chars_ofInt]
  by_cases negative : value < 0
  · rw [if_pos negative]
    rw [decide_eq_true negative] at written
    simpa [read, ofInt, negative] using written
  · rw [if_neg negative, List.nil_append]
    rw [decide_eq_false negative] at written
    obtain ⟨first, others, leading⟩ : ∃ first others, digits value.natAbs = first :: others :=
      List.exists_cons_of_ne_nil Nat.toDigits_ne_nil
    have mem : first ∈ digits value.natAbs := leading ▸ List.mem_cons_self ..
    have digit : first.isDigit = true := isDigit_of_mem_digits mem
    rw [leading, List.cons_append, read_of_digit digit, ← List.cons_append, ← leading, written]
    simp [ofInt, negative]

theorem integer?_ofInt {value : Int} (whole : (Number.integer value).Whole) :
    (ofInt value).integer? = some value := by
  obtain ⟨low, high⟩ := whole
  simp only [integer?, ofInt, natural_digits, Option.isSome_none, Bool.or_self,
    Bool.false_eq_true, if_false, decide_eq_true_eq]
  by_cases negative : value < 0
  · rw [if_pos negative, if_pos (by omega)]
    congr 1
    omega
  · rw [if_neg negative, if_pos (by omega)]
    congr 1
    omega

theorem value?_ofInt {value : Int} (whole : (Number.integer value).Whole) :
    (ofInt value).value? = some (.integer value) := by
  rw [value?, integer?_ofInt whole]

end Numeral

end FeatureService
