import FeatureService.Text.Caseless
import FeatureService.Text.Sorted
import Mathlib.Data.List.Sort
import Mathlib.Data.String.Basic

/-!
# How texts are compared

Texts are equal ignoring ASCII case in the way of an equivalence. They are
ordered by their code points, where the first difference counts, and a sorted
set of them depends on its members alone.
-/

namespace FeatureService.Text

/-! ## Ignoring letter case -/

theorem equalIgnoringCase_comm (first second : String) :
    equalIgnoringCase first second = equalIgnoringCase second first := by
  rw [Bool.eq_iff_iff, equalIgnoringCase_iff, equalIgnoringCase_iff, eq_comm]

/-- Texts that are equal ignoring ASCII case equal the same texts. -/
theorem equalIgnoringCase_eq_of_alike {first second : String}
    (alike : equalIgnoringCase first second = true) (other : String) :
    equalIgnoringCase first other = equalIgnoringCase second other := by
  rw [equalIgnoringCase_iff] at alike
  rw [equalIgnoringCase, equalIgnoringCase, alike]

theorem equalIgnoringCase_symm {first second : String}
    (alike : equalIgnoringCase first second = true) : equalIgnoringCase second first = true := by
  rwa [equalIgnoringCase_comm]

theorem equalIgnoringCase_trans {first second third : String}
    (alike : equalIgnoringCase first second = true)
    (further : equalIgnoringCase second third = true) :
    equalIgnoringCase first third = true := by
  rwa [equalIgnoringCase_eq_of_alike alike]

/-! ## By code points -/

def codePoints (text : String) : List Nat :=
  text.toList.map Char.toNat

theorem lex_codePoints {first second : String} (below : first < second) :
    List.Lex (· < ·) (codePoints first) (codePoints second) :=
  List.map_lt (fun _ _ less => less) (String.lt_iff.mp below)

theorem lex_codePoints_iff {first second : String} :
    List.Lex (· < ·) (codePoints first) (codePoints second) ↔ first < second := by
  refine ⟨fun lex => ?_, lex_codePoints⟩
  rcases Std.lt_trichotomy first second with below | rfl | above
  · exact below
  · exact absurd lex (List.lt_irrefl _)
  · exact absurd lex (List.lt_asymm (lex_codePoints above))

/-! ## Sorted sets -/

theorem sortedSet_eq_of_mem_iff {first second : List String}
    (same : ∀ text, text ∈ first ↔ text ∈ second) :
    sortedSet first = sortedSet second :=
  (pairwise_sortedSet first).eq_of_mem_iff (pairwise_sortedSet second) fun text => by
    rw [mem_sortedSet, mem_sortedSet, same]

/-- Each text comes before the next by the numbers of the characters, where the
first difference counts. -/
def StrictlyAscending (texts : List String) : Prop :=
  texts.Pairwise fun first second => List.Lex (· < ·) (codePoints first) (codePoints second)

theorem strictlyAscending_sortedSet (texts : List String) : StrictlyAscending (sortedSet texts) :=
  (pairwise_sortedSet texts).imp lex_codePoints

end FeatureService.Text
