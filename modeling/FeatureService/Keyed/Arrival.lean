/-!
# Entries in order of arrival

A list of keyed entries in the order in which the keys first arrived. Setting a
key that is present changes its value and moves nothing.
-/

namespace FeatureService.Keyed

variable {α : Type}

/-- Sets the value of a key: in its place if the key is present, else at the end. -/
def put (key : String) (value : α) : List (String × α) → List (String × α)
  | [] => [(key, value)]
  | first :: rest =>
      if first.1 = key then (key, value) :: rest else first :: put key value rest

theorem keys_put (key : String) (value : α) (entries : List (String × α)) :
    (put key value entries).map Prod.fst =
      if key ∈ entries.map Prod.fst then entries.map Prod.fst
      else entries.map Prod.fst ++ [key] := by
  induction entries with
  | nil => simp [put]
  | cons first rest ih =>
      unfold put
      split
      · rename_i equal
        simp [equal]
      · rename_i notEqual
        have other : ¬ key = first.1 := fun equal => notEqual equal.symm
        simp only [List.map_cons, ih, List.mem_cons, other, false_or]
        split <;> simp

@[simp] theorem lookup_put_self (key : String) (value : α) (entries : List (String × α)) :
    (put key value entries).lookup key = some value := by
  induction entries with
  | nil => simp [put]
  | cons first rest ih =>
      obtain ⟨name, held⟩ := first
      unfold put
      split
      · simp
      · rename_i notEqual
        rw [List.lookup_cons, beq_eq_false_iff_ne.mpr (Ne.symm notEqual)]
        exact ih

theorem lookup_put_of_ne {key other : String} (value : α) (entries : List (String × α))
    (h : other ≠ key) : (put key value entries).lookup other = entries.lookup other := by
  have apart : (other == key) = false := beq_eq_false_iff_ne.mpr h
  induction entries with
  | nil => simp [put, List.lookup_cons, apart]
  | cons first rest ih =>
      obtain ⟨name, held⟩ := first
      unfold put
      split
      · rename_i equal
        have equal : name = key := equal
        subst equal
        simp [List.lookup_cons, apart]
      · simp only [List.lookup_cons, ih]

end FeatureService.Keyed
