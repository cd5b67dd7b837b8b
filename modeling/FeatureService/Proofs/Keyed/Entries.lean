import FeatureService.Keyed.Arrival
import FeatureService.Keyed.Ascending
import Mathlib.Data.List.Sort
import Mathlib.Data.String.Basic

/-!
# Keyed entries

Where the keys are distinct, what is under a key does not depend on the order of
the entries; where they are not, the last entry with a key is the first from the
end. Entries that are entered one by one in their own order come out as
they were: ascending entries in a list that is kept ascending, and entries with
distinct keys in a list that is kept in order of arrival.
-/

namespace FeatureService.Keyed

variable {α β : Type}

/-! ## Looking up -/

theorem Ascending.nodup_keys {entries : List (String × α)} (ascending : Ascending entries) :
    (entries.map Prod.fst).Nodup := by
  rw [List.Nodup, List.pairwise_map]
  refine ascending.imp fun {first second} below (same : first.1 = second.1) => ?_
  rw [same] at below
  exact String.lt_irrefl _ below

/-- What is under a key does not depend on the order of entries with distinct keys. -/
theorem lookup_eq_some_iff {entries : List (String × α)}
    (distinct : (entries.map Prod.fst).Nodup) (key : String) (value : α) :
    entries.lookup key = some value ↔ (key, value) ∈ entries := by
  rw [List.lookup_eq_some_iff]
  constructor
  · rintro ⟨before, after, rfl, _⟩
    exact List.mem_append_right _ (List.mem_cons_self ..)
  · intro mem
    obtain ⟨before, after, rfl⟩ := List.append_of_mem mem
    rw [List.map_append, List.nodup_append] at distinct
    refine ⟨before, after, rfl, fun entry earlier => bne_iff_ne.mpr (Ne.symm ?_)⟩
    exact distinct.2.2 _ (List.mem_map_of_mem earlier) _ (List.mem_cons_self ..)

theorem Ascending.lookup_eq_some_iff {entries : List (String × α)}
    (ascending : Ascending entries) (key : String) (value : α) :
    entries.lookup key = some value ↔ (key, value) ∈ entries :=
  Keyed.lookup_eq_some_iff ascending.nodup_keys key value

/-- Keys entered with one value are found where the other entries have none. -/
theorem lookup_append_keys (entries : List (String × α)) (keys : List String) (value : α)
    (key : String) :
    (entries ++ keys.map fun name => (name, value)).lookup key =
      (entries.lookup key).or (if key ∈ keys then some value else none) := by
  rw [List.lookup_append]
  congr 1
  induction keys with
  | nil => simp
  | cons first rest ih =>
      rw [List.map_cons, List.lookup_cons, ih]
      by_cases same : key = first
      · simp [same]
      · simp [same, beq_eq_false_iff_ne.mpr same]

theorem lookup_map (f : α → β) (key : String) (entries : List (String × α)) :
    (entries.map fun entry => (entry.1, f entry.2)).lookup key = (entries.lookup key).map f := by
  induction entries with
  | nil => rfl
  | cons first rest ih =>
      rw [List.map_cons, List.lookup_cons, List.lookup_cons, ih]
      split <;> rfl

/-- Look-ups in what is left of entries, in any order, when some keys are left out. -/
theorem lookup_of_left {entries left : List (String × α)} {omitted : List String}
    (distinct : (entries.map Prod.fst).Nodup)
    (perm : left.Perm (entries.filter fun entry => entry.1 ∉ omitted)) (key : String) :
    left.lookup key = if key ∈ omitted then none else entries.lookup key := by
  have leftDistinct : (left.map Prod.fst).Nodup :=
    (perm.map Prod.fst).nodup_iff.mpr ((List.filter_sublist.map Prod.fst).nodup distinct)
  apply Option.ext
  intro value
  rw [lookup_eq_some_iff leftDistinct, perm.mem_iff, List.mem_filter, decide_eq_true_eq]
  by_cases leftOut : key ∈ omitted
  · simp [leftOut]
  · rw [if_neg leftOut, lookup_eq_some_iff distinct]
    exact and_iff_left leftOut

theorem lookup_reverse_eq_some_iff (entries : List (String × α)) (key : String) (value : α) :
    entries.reverse.lookup key = some value ↔
      ∃ before after, entries = before ++ (key, value) :: after ∧ key ∉ after.map Prod.fst := by
  rw [List.lookup_eq_some_iff]
  constructor
  · rintro ⟨later, earlier, split, others⟩
    refine ⟨earlier.reverse, later.reverse, ?_, fun mem => ?_⟩
    · rw [← List.reverse_reverse entries, split, List.reverse_append, List.reverse_cons,
        List.append_assoc, List.singleton_append]
    · obtain ⟨entry, inLater, same⟩ := List.mem_map.mp mem
      exact bne_iff_ne.mp (others entry (List.mem_reverse.mp inLater)) same.symm
  · rintro ⟨before, after, rfl, last⟩
    refine ⟨after.reverse, before.reverse, ?_, fun entry mem => bne_iff_ne.mpr fun same => ?_⟩
    · rw [List.reverse_append, List.reverse_cons, List.append_assoc, List.singleton_append]
    · exact last (same ▸ List.mem_map_of_mem (List.mem_reverse.mp mem))

theorem lookup_reverse_eq_none_iff (entries : List (String × α)) (key : String) :
    entries.reverse.lookup key = none ↔ key ∉ entries.map Prod.fst := by
  rw [List.lookup_eq_none_iff, List.mem_map]
  constructor
  · rintro others ⟨entry, mem, same⟩
    exact bne_iff_ne.mp (others entry (List.mem_reverse.mpr mem)) same.symm
  · intro absent entry mem
    exact bne_iff_ne.mpr fun same => absent ⟨entry, List.mem_reverse.mp mem, same.symm⟩

/-- A search by key meets the entry that has been entered, or what it met before.
Which of the two does not depend on the value. -/
theorem find?_insert_cases (test : String → Bool) (key : String) (entries : List (String × α)) :
    (test key = true ∧ ∀ value,
      (insert key value entries).find? (fun entry => test entry.1) = some (key, value)) ∨
    ∀ value, (insert key value entries).find? (fun entry => test entry.1) =
      entries.find? fun entry => test entry.1 := by
  induction entries with
  | nil => cases passes : test key <;> simp [insert, passes]
  | cons first rest ih =>
      by_cases before : key < first.1
      · cases passes : test key <;> simp [insert, before, passes]
      · by_cases same : key = first.1
        · cases passes : test key <;> simp [insert, ← same, passes]
        · simp only [insert, if_neg before, if_neg same, List.find?_cons]
          cases test first.1 with
          | true => exact .inr fun _ => rfl
          | false => exact ih

/-! ## Entering -/

theorem Ascending.mem_insert_iff {entries : List (String × α)} (ascending : Ascending entries)
    (key : String) (value : α) (entry : String × α) :
    entry ∈ insert key value entries ↔
      entry = (key, value) ∨ entry ∈ entries ∧ entry.1 ≠ key := by
  have after := ascending_insert key value ascending
  obtain ⟨name, held⟩ := entry
  rw [← after.lookup_eq_some_iff, ← ascending.lookup_eq_some_iff]
  by_cases same : name = key
  · subst same
    rw [lookup_insert_self]
    simp [eq_comm]
  · rw [lookup_insert_of_ne value entries same]
    simp [same]

theorem Ascending.eq_of_mem_iff {entries others : List (String × α)} (ascending : Ascending entries)
    (othersAscending : Ascending others) (same : ∀ entry, entry ∈ entries ↔ entry ∈ others) :
    entries = others := by
  have : Std.Irrefl fun first second : String × α => first.1 < second.1 :=
    ⟨fun entry => lt_irrefl entry.1⟩
  have : Std.Antisymm fun first second : String × α => first.1 < second.1 :=
    ⟨fun _ _ below above => absurd above (lt_asymm below)⟩
  exact List.Pairwise.eq_of_mem_iff ascending othersAscending same

theorem nodup_keys_put {entries : List (String × α)}
    (distinct : (entries.map Prod.fst).Nodup) (key : String) (value : α) :
    ((put key value entries).map Prod.fst).Nodup := by
  rw [keys_put]
  split
  · exact distinct
  · rename_i fresh
    refine List.nodup_append.mpr ⟨distinct, by simp, ?_⟩
    rintro name mem last isLast rfl
    exact fresh (List.mem_singleton.mp isLast ▸ mem)

theorem nodup_keys_foldl_put {held : List (String × α)}
    (distinct : (held.map Prod.fst).Nodup) (entries : List (String × α)) :
    ((entries.foldl (fun held entry => put entry.1 entry.2 held) held).map Prod.fst).Nodup := by
  induction entries generalizing held with
  | nil => exact distinct
  | cons entry rest ih => exact ih (nodup_keys_put distinct entry.1 entry.2)

/-- Two keys can be set in either order if one of them is there. -/
theorem put_comm {key other : String} {entries : List (String × α)}
    (known : key ∈ entries.map Prod.fst) (apart : key ≠ other) (value further : α) :
    put other further (put key value entries) = put key value (put other further entries) := by
  induction entries with
  | nil => cases known
  | cons first rest ih =>
      by_cases isKey : first.1 = key
      · simp [put, isKey, apart]
      · have inRest : key ∈ rest.map Prod.fst := by
          rcases List.mem_cons.mp known with same | inRest
          · exact absurd same.symm isKey
          · exact inRest
        by_cases isOther : first.1 = other
        · simp [put, isOther, apart.symm]
        · simp only [put, if_neg isKey, if_neg isOther, ih inRest]

/-! ## Entering again -/

theorem insert_of_below {key : String} (value : α) {entries : List (String × α)}
    (below : ∀ entry ∈ entries, entry.1 < key) :
    insert key value entries = entries ++ [(key, value)] := by
  induction entries with
  | nil => rfl
  | cons first rest ih =>
      obtain ⟨less, further⟩ := List.forall_mem_cons.mp below
      have notBefore : ¬ key < first.1 := fun before =>
        String.lt_irrefl _ (String.lt_trans before less)
      have notSame : key ≠ first.1 := fun same => String.lt_irrefl _ (same ▸ less)
      rw [insert, if_neg notBefore, if_neg notSame, ih further, List.cons_append]

/-- Ascending entries are entered behind those before them. -/
theorem foldl_insert {front entries : List (String × α)}
    (ascending : Ascending (front ++ entries)) :
    entries.foldl (fun held entry => insert entry.1 entry.2 held) front = front ++ entries := by
  induction entries generalizing front with
  | nil => exact (List.append_nil front).symm
  | cons first rest ih =>
      have below : ∀ entry ∈ front, entry.1 < first.1 := fun entry mem =>
        (List.pairwise_append.mp ascending).2.2 entry mem first (List.mem_cons_self ..)
      rw [List.append_cons] at ascending ⊢
      rw [List.foldl_cons, insert_of_below first.2 below, ih ascending]

theorem put_of_fresh {key : String} (value : α) {entries : List (String × α)}
    (fresh : ∀ entry ∈ entries, entry.1 ≠ key) :
    put key value entries = entries ++ [(key, value)] := by
  induction entries with
  | nil => rfl
  | cons first rest ih =>
      obtain ⟨other, further⟩ := List.forall_mem_cons.mp fresh
      rw [put, if_neg other, ih further, List.cons_append]

theorem foldl_put {front entries : List (String × α)}
    (distinct : ((front ++ entries).map Prod.fst).Nodup) :
    entries.foldl (fun held entry => put entry.1 entry.2 held) front = front ++ entries := by
  induction entries generalizing front with
  | nil => exact (List.append_nil front).symm
  | cons first rest ih =>
      have fresh : ∀ entry ∈ front, entry.1 ≠ first.1 := by
        rw [List.map_append, List.nodup_append] at distinct
        intro entry mem
        exact distinct.2.2 _ (List.mem_map_of_mem mem) _ (List.mem_cons_self ..)
      rw [List.append_cons] at distinct ⊢
      rw [List.foldl_cons, put_of_fresh first.2 fresh, ih distinct]

end FeatureService.Keyed
