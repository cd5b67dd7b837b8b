import FeatureService.Binary64.Basic

/-!
# The shortest decimals that read back

A binary64 value stands for the reals that round to it. It is written with the
fewest decimal digits that name one of them, and among decimals of that length
with the nearest. On a grid of powers of ten only the two neighbours of the
value have to be tried, so the coarsest grid with a hit gives the digits.
-/

namespace FeatureService

/-- The decimal number `digits * 10 ^ exponent`. -/
structure Decimal where
  digits : Nat
  exponent : Int
  deriving DecidableEq

namespace Decimal

def compareBinary (d : Decimal) (count : Nat) (power : Int) : Ordering :=
  compare (d.digits * Nat.pow 10 d.exponent.toNat * Nat.pow 2 (-power).toNat)
    (count * Nat.pow 2 power.toNat * Nat.pow 10 (-d.exponent).toNat)

end Decimal

namespace Magnitude

/-- Whether a decimal lies among the reals that round to a positive value. The
lower end is half as far away below a power of two; the ends belong to the
values with even significand. -/
def readsBack (x : Magnitude) (d : Decimal) : Bool :=
  let narrow := x.significand == Nat.pow 2 52 && x.exponent != -1074
  let low := d.compareBinary (4 * x.significand - if narrow then 1 else 2) (x.exponent - 2)
  let high := d.compareBinary (4 * x.significand + 2) (x.exponent - 2)
  if x.significand % 2 == 0 then low != .lt && high != .gt else low == .gt && high == .lt

def gridBelow (x : Magnitude) (power : Int) : Decimal :=
  ⟨x.significand * Nat.pow 2 x.exponent.toNat * Nat.pow 10 (-power).toNat /
    (Nat.pow 2 (-x.exponent).toNat * Nat.pow 10 power.toNat), power⟩

/-- Of the two neighbours of a value on a grid, the one that reads back and, if
both do, the nearer; an exact half goes to the even digit. -/
def onGrid? (x : Magnitude) (power : Int) : Option Decimal :=
  let below := x.gridBelow power
  let above : Decimal := ⟨below.digits + 1, power⟩
  match x.readsBack below, x.readsBack above with
  | false, false => none
  | true, false => some below
  | false, true => some above
  | true, true =>
      let middle : Decimal := ⟨2 * below.digits + 1, power⟩
      match middle.compareBinary (2 * x.significand) x.exponent with
      | .gt => some below
      | .lt => some above
      | .eq => if below.digits % 2 = 0 then some below else some above

/-- Tries a number of grids, each ten times finer than the one before. -/
def search (x : Magnitude) : Nat → Int → Option Decimal
  | 0, _ => none
  | grids + 1, power =>
      match x.onGrid? power with
      | some d => some d
      | none => x.search grids (power - 1)

def exactDecimal (x : Magnitude) : Decimal :=
  if 0 ≤ x.exponent then ⟨x.significand * Nat.pow 2 x.exponent.toNat, 0⟩
  else ⟨x.significand * Nat.pow 5 (-x.exponent).toNat, x.exponent⟩

/-- The shortest decimal that reads back to a positive value. The search starts
at a power of ten above the value and takes in all grids of up to seventeen
digits. -/
def shortest (x : Magnitude) : Decimal :=
  let bits : Int := x.significand.log2 + x.exponent + 1
  (x.search 22 (bits * 30103 / 100000 + 1)).getD x.exactDecimal

example : (Magnitude.mk 1 (-1074)).shortest = ⟨5, -324⟩ := by decide +kernel
example : (Magnitude.mk (Nat.pow 2 52) (-52)).shortest = ⟨1, 0⟩ := by decide +kernel

end Magnitude

end FeatureService
