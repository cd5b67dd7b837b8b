/-!
# Heights of patterns

How deep the parts of a pattern lie in each other. A part by itself is as high as
it is; several of them beside each other make one more.
-/

namespace FeatureService.Pattern

/-- Some parts beside each other: how many there are, and how high the highest is. -/
structure Parts where
  count : Nat := 0
  highest : Nat := 0
  deriving DecidableEq

namespace Parts

def add (parts : Parts) (height : Nat) : Parts :=
  ⟨parts.count + 1, max parts.highest height⟩

/-- How high some parts are together. -/
def height (parts : Parts) : Nat :=
  if parts.count ≤ 1 then parts.highest else parts.highest + 1

end Parts

end FeatureService.Pattern
