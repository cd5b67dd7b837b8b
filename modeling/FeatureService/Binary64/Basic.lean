/-!
# Binary64 magnitudes

Finite non-negative binary64 values as `significand * 2 ^ exponent`. A quotient
of naturals is rounded to the nearest value, a half to the even neighbour; the
product and the quotient of two values are the exact result rounded once.
-/

namespace FeatureService

/-- A finite non-negative binary64 value, `significand * 2 ^ exponent`. -/
structure Magnitude where
  significand : Nat
  exponent : Int
  deriving DecidableEq

namespace Magnitude

def zero : Magnitude := ⟨0, -1074⟩

/-- The quotient rounded to an integer, a half to the even neighbour. -/
def roundHalfEven (numerator denominator : Nat) : Nat :=
  let floor := numerator / denominator
  let double := 2 * (numerator % denominator)
  if double < denominator then floor
  else if denominator < double then floor + 1
  else if floor % 2 = 0 then floor
  else floor + 1

/-- The greatest power of two that is at most the quotient of two positive numbers. -/
def binaryLog (numerator denominator : Nat) : Int :=
  let guess : Int := numerator.log2 - denominator.log2
  if denominator * Nat.pow 2 guess.toNat ≤ numerator * Nat.pow 2 (-guess).toNat then guess
  else guess - 1

/-- The value nearest to a quotient, or nothing where the quotient rounds to
`2 ^ 1024` or more. -/
def ofQuotient? (numerator denominator : Nat) : Option Magnitude :=
  if numerator = 0 then some zero
  else
    let exponent := max (binaryLog numerator denominator - 52) (-1074)
    let significand := roundHalfEven (numerator * Nat.pow 2 (-exponent).toNat)
      (denominator * Nat.pow 2 exponent.toNat)
    let rounded : Magnitude :=
      if significand = Nat.pow 2 53 then ⟨Nat.pow 2 52, exponent + 1⟩ else ⟨significand, exponent⟩
    if rounded.exponent ≤ 971 then some rounded else none

def times? (first second : Magnitude) : Option Magnitude :=
  let exponent := first.exponent + second.exponent
  ofQuotient? (first.significand * second.significand * Nat.pow 2 exponent.toNat)
    (Nat.pow 2 (-exponent).toNat)

def over? (first second : Magnitude) : Option Magnitude :=
  let exponent := first.exponent - second.exponent
  ofQuotient? (first.significand * Nat.pow 2 exponent.toNat)
    (second.significand * Nat.pow 2 (-exponent).toNat)

def tenPower? (exponent : Nat) : Option Magnitude :=
  ofQuotient? (Nat.pow 10 exponent) 1

/-- The value of `digits * 10 ^ exponent`, in steps that are each rounded: the
digits become a value, which is multiplied or divided by the value of a power
of ten. A divisor beyond `10 ^ 308` is taken in two steps; one beyond
`10 ^ 616` leaves nothing of a number below `2 ^ 64`. -/
def scaled? (digits : Nat) (exponent : Int) : Option Magnitude := do
  if digits = 0 then some zero
  else
    let value ← ofQuotient? digits 1
    if 0 ≤ exponent then
      if exponent ≤ 308 then value.times? (← tenPower? exponent.toNat) else none
    else if -308 ≤ exponent then value.over? (← tenPower? (-exponent).toNat)
    else if -616 ≤ exponent then
      let reduced ← value.over? (← tenPower? 308)
      reduced.over? (← tenPower? (-exponent - 308).toNat)
    else some zero

example : scaled? 18446744073709551615 0 = some ⟨Nat.pow 2 52, 12⟩ := by decide +kernel
example : scaled? 5 (-324) = some ⟨1, -1074⟩ := by decide +kernel
example : scaled? 1 309 = none := by decide +kernel

end Magnitude

/-- A finite binary64 value. Zero has a sign. -/
structure Binary64 where
  negative : Bool
  magnitude : Magnitude
  deriving DecidableEq

end FeatureService
