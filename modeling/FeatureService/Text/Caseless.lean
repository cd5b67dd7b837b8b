/-!
# Comparison ignoring ASCII case

Operation names and parameter keys are compared after replacing each ASCII
capital by its small letter; every other character stands for itself.
-/

namespace FeatureService.Text

/-- The characters of a text with ASCII capitals replaced by small letters. -/
def caseless (text : String) : List Char :=
  text.toList.map Char.toLower

/-- Whether two texts differ at most in the case of ASCII letters. -/
def equalIgnoringCase (first second : String) : Bool :=
  caseless first == caseless second

theorem equalIgnoringCase_iff (first second : String) :
    equalIgnoringCase first second = true ↔ caseless first = caseless second := by
  simp [equalIgnoringCase]

theorem equalIgnoringCase_refl (text : String) : equalIgnoringCase text text = true := by
  simp [equalIgnoringCase]

end FeatureService.Text
