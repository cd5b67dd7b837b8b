import FeatureService.Pattern.Basic
import FeatureService.Text.Caseless

/-!
# Values of fields

What a directive of a log filter may ask of the value of a field: to be a number,
or to be found by a pattern.
-/

namespace FeatureService.FieldValue

/-- A text without the sign at its start. -/
def unsigned : List Char → List Char
  | '+' :: rest | '-' :: rest => rest
  | text => text

/-- Whether a text is an exponent of ten or empty. -/
def isExponent : List Char → Bool
  | [] => true
  | mark :: text =>
      let digits := unsigned text
      (mark == 'e' || mark == 'E') && !digits.isEmpty && digits.all Char.isDigit

/-- Whether a text is a decimal number without a sign: digits with a point before,
between or behind them, and an exponent. -/
def isDecimal (text : List Char) : Bool :=
  let whole := text.takeWhile Char.isDigit
  match text.dropWhile Char.isDigit with
  | '.' :: rest =>
      !(whole.isEmpty && (rest.takeWhile Char.isDigit).isEmpty)
        && isExponent (rest.dropWhile Char.isDigit)
  | rest => !whole.isEmpty && isExponent rest

def numberWords : List String :=
  ["inf", "infinity", "nan"]

def isNumber (text : List Char) : Bool :=
  let text := unsigned text
  isDecimal text || numberWords.any (Text.equalIgnoringCase · (String.ofList text))

def isValid (text : List Char) : Bool :=
  isNumber text || Pattern.isPattern text

end FeatureService.FieldValue
