/-!
# Entries in ascending order of their keys

A list of keyed entries that is kept ascending, so that each key occurs once and
equal contents are equal lists. Operation parameters and the members of a JSON
object are kept this way.
-/

namespace FeatureService.Keyed

variable {α : Type}

/-- The keys are strictly ascending by code point. -/
def Ascending (entries : List (String × α)) : Prop :=
  entries.Pairwise fun first second => first.1 < second.1

instance (entries : List (String × α)) : Decidable (Ascending entries) :=
  inferInstanceAs (Decidable (entries.Pairwise fun first second => first.1 < second.1))

/-- Sets the value of a key, in its place among ascending entries. -/
def insert (key : String) (value : α) : List (String × α) → List (String × α)
  | [] => [(key, value)]
  | first :: rest =>
      if key < first.1 then (key, value) :: first :: rest
      else if key = first.1 then (key, value) :: rest
      else first :: insert key value rest

theorem mem_insert {key : String} {value : α} {entries : List (String × α)} {entry : String × α}
    (h : entry ∈ insert key value entries) : entry = (key, value) ∨ entry ∈ entries := by
  induction entries with
  | nil => simpa [insert] using h
  | cons first rest ih =>
      unfold insert at h
      split at h
      · simpa using h
      · split at h
        · rcases List.mem_cons.mp h with h | h <;> simp [h]
        · rcases List.mem_cons.mp h with h | h
          · simp [h]
          · rcases ih h with h | h <;> simp [h]

theorem ascending_nil : Ascending ([] : List (String × α)) :=
  List.Pairwise.nil

theorem ascending_insert (key : String) (value : α) {entries : List (String × α)}
    (h : Ascending entries) : Ascending (insert key value entries) := by
  induction entries with
  | nil => simp [insert, Ascending]
  | cons first rest ih =>
      have ⟨below, tail⟩ := List.pairwise_cons.mp h
      unfold insert
      split
      · rename_i less
        refine List.pairwise_cons.mpr ⟨fun entry mem => ?_, h⟩
        rcases List.mem_cons.mp mem with rfl | mem
        · exact less
        · exact String.lt_trans less (below entry mem)
      · rename_i notLess
        split
        · rename_i equal
          exact List.pairwise_cons.mpr ⟨fun entry mem => equal ▸ below entry mem, tail⟩
        · rename_i notEqual
          refine List.pairwise_cons.mpr ⟨fun entry mem => ?_, ih tail⟩
          rcases mem_insert mem with rfl | mem
          · rcases Std.lt_trichotomy key first.1 with less | equal | greater
            · exact absurd less notLess
            · exact absurd equal notEqual
            · exact greater
          · exact below entry mem

@[simp] theorem lookup_insert_self (key : String) (value : α) (entries : List (String × α)) :
    (insert key value entries).lookup key = some value := by
  induction entries with
  | nil => simp [insert]
  | cons first rest ih =>
      obtain ⟨name, held⟩ := first
      unfold insert
      split
      · simp
      · split
        · simp
        · rename_i notEqual
          rw [List.lookup_cons, beq_eq_false_iff_ne.mpr notEqual]
          exact ih

theorem lookup_insert_of_ne {key other : String} (value : α) (entries : List (String × α))
    (h : other ≠ key) : (insert key value entries).lookup other = entries.lookup other := by
  have apart : (other == key) = false := beq_eq_false_iff_ne.mpr h
  induction entries with
  | nil => simp [insert, List.lookup_cons, apart]
  | cons first rest ih =>
      obtain ⟨name, held⟩ := first
      unfold insert
      split
      · simp [List.lookup_cons, apart]
      · split
        · rename_i equal
          have equal : key = name := equal
          subst equal
          simp [List.lookup_cons, apart]
        · simp only [List.lookup_cons, ih]

end FeatureService.Keyed
