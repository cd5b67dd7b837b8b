/-!
# Sorted sets of texts

Sets of texts are listed in ascending order of code points, each text once.
-/

namespace FeatureService.Text

/-- Inserts a text into an ascending list, unless it is there. -/
def insertSorted (text : String) : List String → List String
  | [] => [text]
  | first :: rest =>
      if text < first then text :: first :: rest
      else if text = first then first :: rest
      else first :: insertSorted text rest

/-- The texts of a list, ascending and each once. -/
def sortedSet (texts : List String) : List String :=
  texts.foldr insertSorted []

theorem mem_insertSorted (text other : String) (texts : List String) :
    other ∈ insertSorted text texts ↔ other = text ∨ other ∈ texts := by
  induction texts with
  | nil => simp [insertSorted]
  | cons first rest ih =>
      unfold insertSorted
      split
      · simp
      · split
        · rename_i h
          subst h
          simp
        · simp only [List.mem_cons, ih]
          constructor
          · rintro (h | h | h) <;> simp [h]
          · rintro (h | h | h) <;> simp [h]

@[simp] theorem mem_sortedSet (text : String) (texts : List String) :
    text ∈ sortedSet texts ↔ text ∈ texts := by
  induction texts with
  | nil => simp [sortedSet]
  | cons first rest ih =>
      simp only [sortedSet, List.foldr_cons, mem_insertSorted, List.mem_cons]
      rw [← sortedSet, ih]

theorem pairwise_insertSorted (text : String) {texts : List String}
    (ascending : texts.Pairwise (· < ·)) : (insertSorted text texts).Pairwise (· < ·) := by
  induction texts with
  | nil => exact List.pairwise_singleton _ _
  | cons first rest ih =>
      obtain ⟨below, tail⟩ := List.pairwise_cons.mp ascending
      unfold insertSorted
      split
      · rename_i less
        refine List.pairwise_cons.mpr ⟨fun other mem => ?_, ascending⟩
        rcases List.mem_cons.mp mem with rfl | mem
        · exact less
        · exact String.lt_trans less (below other mem)
      · rename_i notLess
        split
        · exact ascending
        · rename_i notEqual
          refine List.pairwise_cons.mpr ⟨fun other mem => ?_, ih tail⟩
          rcases (mem_insertSorted text other rest).mp mem with rfl | mem
          · rcases Std.lt_trichotomy other first with less | equal | greater
            · exact absurd less notLess
            · exact absurd equal notEqual
            · exact greater
          · exact below other mem

theorem pairwise_sortedSet (texts : List String) : (sortedSet texts).Pairwise (· < ·) := by
  induction texts with
  | nil => exact List.Pairwise.nil
  | cons first rest ih => exact pairwise_insertSorted first ih

end FeatureService.Text
