import FeatureService.Binary64.Shortest
import FeatureService.Json.Value

/-!
# JSON numerals

A numeral is the written form of a number. Reading keeps whole numbers within
64 bits and takes every other numeral to a binary64 value. Writing uses plain
notation from `0.00001` up to sixteen places before the point, and otherwise an
exponent with a sign.
-/

namespace FeatureService

structure Exponent where
  negative : Bool
  digits : List Char
  deriving DecidableEq

/-- A number as it is written. -/
structure Numeral where
  negative : Bool
  whole : List Char
  fraction : Option (List Char)
  exponent : Option Exponent
  deriving DecidableEq

namespace Numeral

def natural (digits : List Char) : Nat :=
  Nat.ofDigitChars 10 digits 0

def digits (value : Nat) : List Char :=
  Nat.toDigits 10 value

/-! ## The number that a numeral names -/

/-- Appends decimal digits to a natural number as long as it stays below
`2 ^ 64`. Gives the number and the digits that were left out. -/
def absorb (value : Nat) : List Char → Nat × List Char
  | [] => (value, [])
  | digit :: rest =>
      let next := natural (digit :: []) + 10 * value
      if next < Nat.pow 2 64 then absorb next rest else (value, digit :: rest)

/-- The exponent of a numeral as an integer, zero where none is written. -/
def exponentValue (numeral : Numeral) : Int :=
  match numeral.exponent with
  | none => 0
  | some ⟨false, digits⟩ => natural digits
  | some ⟨true, digits⟩ => -(natural digits : Int)

/-- The binary64 magnitude of a numeral. The leading digits that fit 64 bits
count; digits left out before the point raise the exponent, and each digit
taken after the point lowers it. -/
def magnitude? (numeral : Numeral) : Option Magnitude :=
  let fraction := numeral.fraction.getD []
  let (leading, dropped) := absorb 0 numeral.whole
  let (taken, unused) := absorb leading fraction
  Magnitude.scaled? taken
    (numeral.exponentValue + dropped.length - (fraction.length - unused.length : Nat))

/-- The whole number that a numeral without fraction and exponent names, if it
lies within 64 bits, signed or unsigned. Minus zero is no whole number. -/
def integer? (numeral : Numeral) : Option Int :=
  if numeral.fraction.isSome || numeral.exponent.isSome then none
  else
    let value := natural numeral.whole
    if numeral.negative then
      if 0 < value ∧ value ≤ Nat.pow 2 63 then some (-value) else none
    else if value < Nat.pow 2 64 then some value else none

/-- The number that a numeral names, or nothing where it is too large. -/
def value? (numeral : Numeral) : Option Number :=
  match numeral.integer? with
  | some value => some (.integer value)
  | none => numeral.magnitude?.map fun magnitude => .real ⟨numeral.negative, magnitude⟩

/-! ## The numeral of a number -/

def ofInt (value : Int) : Numeral :=
  ⟨value < 0, digits value.natAbs, none, none⟩

def trimZeros (digits : List Char) : List Char :=
  (digits.reverse.dropWhile (· == '0')).reverse

/-- The numeral of a positive decimal. The point stands after `point` of its
digits. It is written plainly if it then has at most sixteen places before the
point and at most four zeros after it, otherwise with an exponent. -/
def ofDecimal (negative : Bool) (d : Decimal) : Numeral :=
  let all := digits d.digits
  let point := all.length + d.exponent
  let kept := trimZeros all
  if 0 < point ∧ point ≤ 16 then
    let whole := kept.take point.toNat ++ List.replicate (point.toNat - kept.length) '0'
    let rest := kept.drop point.toNat
    ⟨negative, whole, some (if rest.isEmpty then ['0'] else rest), none⟩
  else if -5 < point ∧ point ≤ 0 then
    ⟨negative, ['0'], some (List.replicate (-point).toNat '0' ++ kept), none⟩
  else
    let rest := kept.drop 1
    ⟨negative, kept.take 1, if rest.isEmpty then none else some rest,
      some ⟨point < 1, digits (point - 1).natAbs⟩⟩

def ofBinary64 (value : Binary64) : Numeral :=
  if value.magnitude.significand = 0 then ⟨value.negative, ['0'], some ['0'], none⟩
  else ofDecimal value.negative value.magnitude.shortest

def ofNumber : Number → Numeral
  | .integer value => ofInt value
  | .real value => ofBinary64 value

/-! ## The characters of a numeral -/

/-- The characters of an exponent. Its sign is always written. -/
def exponentChars : Option Exponent → List Char
  | none => []
  | some ⟨negative, digits⟩ => 'e' :: (if negative then '-' else '+') :: digits

def chars (numeral : Numeral) : List Char :=
  (if numeral.negative then ['-'] else []) ++ numeral.whole
    ++ (match numeral.fraction with
        | none => []
        | some digits => '.' :: digits)
    ++ exponentChars numeral.exponent

/-- A run of digits at the start of a text, and what follows it. -/
def digitsOf (text : List Char) : List Char × List Char :=
  (text.takeWhile Char.isDigit, text.dropWhile Char.isDigit)

/-- Reads the digits before the point: one or more, with no needless zero. -/
def readWhole (text : List Char) : Option (List Char × List Char) :=
  match digitsOf text with
  | ([], _) => none
  | ('0' :: _ :: _, _) => none
  | found => some found

/-- Reads a fraction, if a point follows. It has one digit or more. -/
def readFraction : List Char → Option (Option (List Char) × List Char)
  | '.' :: text =>
      match digitsOf text with
      | ([], _) => none
      | (digits, rest) => some (some digits, rest)
  | text => some (none, text)

def readExponentDigits (negative : Bool) (text : List Char) :
    Option (Option Exponent × List Char) :=
  match digitsOf text with
  | ([], _) => none
  | (digits, rest) => some (some ⟨negative, digits⟩, rest)

/-- Reads an exponent, if an `e` follows. Its sign may be left out. -/
def readExponent : List Char → Option (Option Exponent × List Char)
  | [] => some (none, [])
  | c :: text =>
      if c = 'e' ∨ c = 'E' then
        match text with
        | '-' :: digits => readExponentDigits true digits
        | '+' :: digits => readExponentDigits false digits
        | digits => readExponentDigits false digits
      else some (none, c :: text)

def readUnsigned (negative : Bool) (text : List Char) : Option (Numeral × List Char) := do
  let (whole, text) ← readWhole text
  let (fraction, text) ← readFraction text
  let (exponent, text) ← readExponent text
  some (⟨negative, whole, fraction, exponent⟩, text)

def read : List Char → Option (Numeral × List Char)
  | '-' :: text => readUnsigned true text
  | text => readUnsigned false text

end Numeral

end FeatureService
