/-!
# First failures in a list

Work that goes through a list and stops at the first element that fails. What
it gives depends on that element and on those before it alone.
-/

namespace FeatureService

variable {α β ε : Type}

/-- `first` is the first element of a list without a property, and `before` are
the elements before it. -/
structure FirstWithout (property : α → Prop) (list before : List α) (first : α) : Prop where
  split : ∃ after, list = before ++ first :: after
  holds : ∀ element ∈ before, property element
  fails : ¬ property first

theorem all_or_firstWithout (property : α → Prop) (list : List α) :
    (∀ element ∈ list, property element) ∨
      ∃ before first, FirstWithout property list before first := by
  induction list with
  | nil => exact .inl (by simp)
  | cons head rest ih =>
      by_cases holds : property head
      · rcases ih with all | ⟨before, first, failure⟩
        · exact .inl (List.forall_mem_cons.mpr ⟨holds, all⟩)
        · obtain ⟨after, split⟩ := failure.split
          exact .inr ⟨head :: before, first, ⟨after, by rw [split, List.cons_append]⟩,
            List.forall_mem_cons.mpr ⟨holds, failure.holds⟩, failure.fails⟩
      · exact .inr ⟨[], head, ⟨rest, rfl⟩, by simp, holds⟩

/-- A walk over a list succeeds exactly if it does so at each element. -/
theorem mapM_eq_ok_iff (f : α → Except ε β) (list : List α) (results : List β) :
    list.mapM f = .ok results ↔ list.map f = results.map .ok := by
  induction list generalizing results with
  | nil => cases results <;> simp [pure, Except.pure]
  | cons head rest ih =>
      rw [List.mapM_cons, List.map_cons]
      cases first : f head with
      | error error => cases results <;> simp [bind, Except.bind]
      | ok result =>
          cases walked : rest.mapM f with
          | error error => cases results <;> simp [bind, Except.bind, ← ih, walked]
          | ok others =>
              cases results <;> simp [bind, Except.bind, pure, Except.pure, ← ih, walked]

theorem exists_map_eq_ok {f : α → Except ε β} {list : List α}
    (succeeds : ∀ element ∈ list, ∃ result, f element = .ok result) :
    ∃ results : List β, list.map f = results.map .ok := by
  induction list with
  | nil => exact ⟨[], rfl⟩
  | cons head rest ih =>
      obtain ⟨⟨result, found⟩, further⟩ := List.forall_mem_cons.mp succeeds
      obtain ⟨results, walked⟩ := ih further
      exact ⟨result :: results, by rw [List.map_cons, found, walked, List.map_cons]⟩

/-- A walk over a list ends with the first error that it meets. -/
theorem mapM_eq_error {property : α → Prop} {f : α → Except ε β} {list before : List α} {first : α}
    {error : ε} (succeeds : ∀ element, property element → ∃ result, f element = .ok result)
    (failure : FirstWithout property list before first) (fails : f first = .error error) :
    list.mapM f = .error error := by
  obtain ⟨⟨after, rfl⟩, holds, _⟩ := failure
  induction before with
  | nil => simp [List.mapM_cons, fails, bind, Except.bind]
  | cons head others ih =>
      obtain ⟨here, further⟩ := List.forall_mem_cons.mp holds
      obtain ⟨result, found⟩ := succeeds head here
      rw [List.cons_append, List.mapM_cons, found, ih further]
      rfl

end FeatureService
