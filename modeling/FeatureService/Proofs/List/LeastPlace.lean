/-!
# Least places in a list

Of the elements of a list with a property, the one that stands first, and the
searches that find it or its place.
-/

namespace FeatureService

variable {α : Type}

/-- The element stands at the least place among those of a list with a property. -/
structure LeastWith (property : α → Prop) (list : List α) (place : Nat) (element : α) :
    Prop where
  there : list[place]? = some element
  holds : property element
  least : ∀ i other, list[i]? = some other → property other → place ≤ i

theorem LeastWith.mem {property : α → Prop} {list : List α} {place : Nat} {element : α}
    (first : LeastWith property list place element) : element ∈ list :=
  List.mem_of_getElem? first.there

theorem findIdx?_eq_some_iff_leastWith (keep : α → Bool) (list : List α) (place : Nat) :
    list.findIdx? keep = some place ↔
      ∃ element, LeastWith (fun other => keep other = true) list place element := by
  rw [List.findIdx?_eq_some_iff_getElem]
  constructor
  · rintro ⟨inside, kept, before⟩
    refine ⟨list[place], List.getElem?_eq_getElem inside, kept, fun i other there keeps => ?_⟩
    obtain ⟨_, rfl⟩ := List.getElem?_eq_some_iff.mp there
    exact Nat.le_of_not_lt fun earlier => before i earlier keeps
  · rintro ⟨element, there, kept, least⟩
    obtain ⟨inside, rfl⟩ := List.getElem?_eq_some_iff.mp there
    refine ⟨inside, kept, fun i earlier keeps => ?_⟩
    exact Nat.not_le_of_lt earlier (least i _ (List.getElem?_eq_getElem _) keeps)

/-- A search finds the element at the least place among those that it accepts. -/
theorem find?_eq_some_iff_leastWith (keep : α → Bool) (list : List α) (element : α) :
    list.find? keep = some element ↔
      ∃ place, LeastWith (fun other => keep other = true) list place element := by
  simp only [List.find?_eq_bind_findIdx?_getElem?, Option.bind_eq_some_iff,
    findIdx?_eq_some_iff_leastWith]
  constructor
  · rintro ⟨place, ⟨other, first⟩, there⟩
    obtain rfl := Option.some.inj (first.there.symm.trans there)
    exact ⟨place, first⟩
  · rintro ⟨place, first⟩
    exact ⟨place, ⟨element, first⟩, first.there⟩

end FeatureService
