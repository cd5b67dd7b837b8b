import Mathlib.Data.List.Forall2

/-!
# Lists

What further laws on lists the others rest on: on searches and walks that end
early, on parts with a separator between them, and on dropping repetitions.
-/

namespace FeatureService

variable {α β : Type}

theorem find?_toList (found : Option α) (keep : α → Bool) :
    found.toList.find? keep = found.filter keep := by
  cases found with
  | none => rfl
  | some value => cases kept : keep value <;> simp [Option.filter, kept]

/-- A walk over a list succeeds exactly if it does so at each element. -/
theorem mapM_eq_some_iff {f : α → Option β} {list : List α} {results : List β} :
    list.mapM f = some results ↔
      List.Forall₂ (fun element result => f element = some result) list results := by
  induction list generalizing results with
  | nil =>
      rw [List.mapM_nil, List.forall₂_nil_left_iff]
      exact Option.some_inj.trans eq_comm
  | cons head rest ih =>
      rw [List.mapM_cons, List.forall₂_cons_left_iff]
      constructor
      · intro walked
        obtain ⟨result, first, walked⟩ := Option.bind_eq_some_iff.mp walked
        obtain ⟨others, further, together⟩ := Option.bind_eq_some_iff.mp walked
        exact ⟨result, others, first, ih.mp further, (Option.some.inj together).symm⟩
      · rintro ⟨result, others, first, further, rfl⟩
        rw [first, ih.mpr further]
        rfl

theorem intercalate_cons_eq_append_flatMap (separator first : List α)
    (rest : List (List α)) :
    separator.intercalate (first :: rest) = first ++ rest.flatMap (separator ++ ·) := by
  induction rest generalizing first with
  | nil => simp
  | cons second rest ih => rw [List.intercalate_cons_cons, ih, List.flatMap_cons]; simp

theorem eraseDups_append_singleton (names : List String) (name : String) :
    (names ++ [name]).eraseDups =
      if name ∈ names.eraseDups then names.eraseDups else names.eraseDups ++ [name] := by
  rw [List.eraseDups_append]
  by_cases known : name ∈ names
  · rw [if_pos (List.mem_eraseDups.mpr known)]
    simp [List.removeAll, known]
  · rw [if_neg (mt List.mem_eraseDups.mp known)]
    simp [List.removeAll, known]
    rfl

theorem eraseDups_of_nodup {names : List String} (distinct : names.Nodup) :
    names.eraseDups = names := by
  induction names with
  | nil => rfl
  | cons first rest ih =>
      obtain ⟨fresh, further⟩ := List.nodup_cons.mp distinct
      have others : (rest.filter fun other => !other == first) = rest := by
        refine List.filter_eq_self.mpr fun other mem => ?_
        have apart : other ≠ first := fun same => fresh (same ▸ mem)
        simpa using apart
      rw [List.eraseDups_cons, others, ih further]

end FeatureService
