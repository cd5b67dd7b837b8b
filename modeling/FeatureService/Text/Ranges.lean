/-!
# Ranges of code points

A class of characters is given by closed ranges of code points. Tables of
published character properties and the grammar of element names share this form.
-/

namespace FeatureService.Text

/-- Closed ranges of code points, ascending and apart. -/
abbrev Ranges := List (Nat × Nat)

def Ranges.covers (ranges : Ranges) (code : Nat) : Bool :=
  ranges.any fun range => range.1 ≤ code && code ≤ range.2

def Ranges.holds (ranges : Ranges) (c : Char) : Bool :=
  ranges.covers c.toNat

theorem Ranges.not_covers_nil (code : Nat) : Ranges.covers [] code = true ↔ False :=
  Bool.false_eq_true ▸ Iff.rfl

theorem Ranges.covers_cons_iff (range : Nat × Nat) (rest : Ranges) (code : Nat) :
    Ranges.covers (range :: rest) code = true ↔
      (range.1 ≤ code ∧ code ≤ range.2) ∨ rest.covers code = true := by
  simp [Ranges.covers]

theorem Ranges.covers_append (first second : Ranges) (code : Nat) :
    Ranges.covers (first ++ second) code = (first.covers code || second.covers code) := by
  simp [Ranges.covers]

end FeatureService.Text
