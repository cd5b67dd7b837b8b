import FeatureService.Proofs.Keyed.Entries
import FeatureService.Registry

/-!
# Ownership of labels

A draft keeps its descriptors and an index from labels to places. Whatever
descriptors are offered to it, the index holds a label at a place exactly when
the descriptor there declares the label. So accepted descriptors have no label
in common, and a descriptor is refused exactly when one of its labels is taken.
-/

namespace FeatureService

namespace Descriptor

@[simp] theorem declares_iff (descriptor : Descriptor) (label : String) :
    descriptor.declares label = true ↔ label ∈ descriptor.aliases := by
  simp [declares]

/-- Two descriptors without a label in common. -/
def Apart (first second : Descriptor) : Prop :=
  ∀ label ∈ first.aliases, label ∉ second.aliases

end Descriptor

/-- An index holds a label at a place exactly when the descriptor there
declares it. -/
def Indexes (owners : List (String × Nat)) (descriptors : List Descriptor) : Prop :=
  ∀ label place, owners.lookup label = some place ↔
    ∃ descriptor, descriptors[place]? = some descriptor ∧ label ∈ descriptor.aliases

namespace Indexes

variable {owners : List (String × Nat)} {descriptors : List Descriptor}

theorem nil : Indexes [] [] := by
  intro label place
  simp

theorem place_lt (indexes : Indexes owners descriptors) {label : String} {place : Nat}
    (found : owners.lookup label = some place) : place < descriptors.length := by
  obtain ⟨descriptor, there, _⟩ := (indexes label place).mp found
  exact (List.getElem?_eq_some_iff.mp there).1

theorem place_eq (indexes : Indexes owners descriptors) {label : String} {i j : Nat}
    {first second : Descriptor}
    (firstAt : descriptors[i]? = some first) (firstDeclares : label ∈ first.aliases)
    (secondAt : descriptors[j]? = some second) (secondDeclares : label ∈ second.aliases) :
    i = j := by
  have atFirst := (indexes label i).mpr ⟨first, firstAt, firstDeclares⟩
  have atSecond := (indexes label j).mpr ⟨second, secondAt, secondDeclares⟩
  rw [atFirst] at atSecond
  exact Option.some.inj atSecond

theorem lookup_eq_none_iff (indexes : Indexes owners descriptors) (label : String) :
    owners.lookup label = none ↔ ∀ descriptor ∈ descriptors, label ∉ descriptor.aliases := by
  constructor
  · intro absent descriptor mem declares
    obtain ⟨place, there⟩ := List.mem_iff_getElem?.mp mem
    have found := (indexes label place).mpr ⟨descriptor, there, declares⟩
    rw [absent] at found
    cases found
  · intro undeclared
    cases found : owners.lookup label with
    | none => rfl
    | some place =>
        obtain ⟨descriptor, there, declares⟩ := (indexes label place).mp found
        exact absurd declares (undeclared descriptor (List.mem_of_getElem? there))

theorem pairwise_apart (indexes : Indexes owners descriptors) :
    descriptors.Pairwise Descriptor.Apart := by
  rw [List.pairwise_iff_getElem]
  intro i j hi hj before label inFirst inSecond
  have same := indexes.place_eq (List.getElem?_eq_getElem hi) inFirst
    (List.getElem?_eq_getElem hj) inSecond
  omega

end Indexes

namespace RegistryDraft

def Indexed (draft : RegistryDraft) : Prop :=
  Indexes draft.owners draft.descriptors

theorem taken?_eq_none_iff (draft : RegistryDraft) (descriptor : Descriptor) :
    draft.taken? descriptor = none ↔
      ∀ label ∈ descriptor.aliases, draft.owners.lookup label = none := by
  simp [taken?, List.findSome?_eq_none_iff]

/-- All that a call of `register` can do. -/
theorem register_cases (draft : RegistryDraft) (descriptor : Descriptor) :
    (draft.taken? descriptor = none ∧
      draft.register descriptor = (draft.extend descriptor, .ok ())) ∨
    ∃ label place, draft.taken? descriptor = some (label, place) ∧
      draft.register descriptor =
        (draft, .error (.duplicateAlias label
          (Descriptor.displayNameAt draft.descriptors place) descriptor.displayName)) := by
  unfold register
  cases taken : draft.taken? descriptor with
  | none => exact .inl ⟨rfl, rfl⟩
  | some found => exact .inr ⟨found.1, found.2, rfl, rfl⟩

theorem register_of_free {draft : RegistryDraft} {descriptor : Descriptor}
    (free : draft.taken? descriptor = none) :
    draft.register descriptor = (draft.extend descriptor, .ok ()) := by
  rw [register, free]

theorem register_accepts_iff (draft : RegistryDraft) (descriptor : Descriptor) :
    (draft.register descriptor).2 = .ok () ↔ draft.taken? descriptor = none := by
  rcases draft.register_cases descriptor with ⟨free, accepted⟩ | ⟨label, place, taken, refused⟩
  · simp [accepted, free]
  · simp [refused, taken]

theorem register_refused {draft : RegistryDraft} {descriptor : Descriptor}
    {error : RegistrationError} (refused : (draft.register descriptor).2 = .error error) :
    (draft.register descriptor).1 = draft := by
  rcases draft.register_cases descriptor with ⟨_, accepted⟩ | ⟨_, _, _, same⟩
  · rw [accepted] at refused
    cases refused
  · rw [same]

theorem Indexed.taken?_eq_none_iff {draft : RegistryDraft} (indexed : draft.Indexed)
    (descriptor : Descriptor) :
    draft.taken? descriptor = none ↔
      ∀ earlier ∈ draft.descriptors, descriptor.Apart earlier := by
  rw [RegistryDraft.taken?_eq_none_iff]
  constructor
  · intro free earlier mem label declares
    exact (indexed.lookup_eq_none_iff label).mp (free label declares) earlier mem
  · intro apart label declares
    exact (indexed.lookup_eq_none_iff label).mpr fun earlier mem => apart earlier mem label declares

theorem lookup_extend (draft : RegistryDraft) (descriptor : Descriptor) (label : String) :
    (draft.extend descriptor).owners.lookup label =
      (draft.owners.lookup label).or
        (if label ∈ descriptor.aliases then some draft.descriptors.length else none) :=
  Keyed.lookup_append_keys _ _ _ _

theorem getElem?_extend (draft : RegistryDraft) (descriptor other : Descriptor) (place : Nat) :
    (draft.extend descriptor).descriptors[place]? = some other ↔
      draft.descriptors[place]? = some other ∨
        (place = draft.descriptors.length ∧ other = descriptor) := by
  change (draft.descriptors ++ [descriptor])[place]? = some other ↔ _
  rcases Nat.lt_trichotomy place draft.descriptors.length with before | rfl | behind
  · rw [List.getElem?_append_left before]
    constructor
    · exact .inl
    · rintro (there | ⟨same, _⟩)
      · exact there
      · omega
  · simp [eq_comm]
  · rw [List.getElem?_eq_none (by simp; omega), List.getElem?_eq_none (by omega)]
    constructor
    · intro impossible
      cases impossible
    · rintro (impossible | ⟨same, _⟩)
      · cases impossible
      · omega

theorem Indexed.extend {draft : RegistryDraft} (indexed : draft.Indexed) {descriptor : Descriptor}
    (free : draft.taken? descriptor = none) : (draft.extend descriptor).Indexed := by
  intro label place
  rw [lookup_extend]
  simp only [getElem?_extend]
  by_cases declares : label ∈ descriptor.aliases
  · have absent := (draft.taken?_eq_none_iff descriptor).mp free label declares
    have elsewhere := (indexed.lookup_eq_none_iff label).mp absent
    rw [absent, if_pos declares, Option.none_or]
    constructor
    · intro same
      obtain rfl := Option.some.inj same
      exact ⟨descriptor, .inr ⟨rfl, rfl⟩, declares⟩
    · rintro ⟨other, there | ⟨rfl, _⟩, inOther⟩
      · exact absurd inOther (elsewhere other (List.mem_of_getElem? there))
      · rfl
  · rw [if_neg declares, Option.or_none, indexed label place]
    constructor
    · rintro ⟨other, there, inOther⟩
      exact ⟨other, .inl there, inOther⟩
    · rintro ⟨other, there | ⟨_, rfl⟩, inOther⟩
      · exact ⟨other, there, inOther⟩
      · exact absurd inOther declares

/-! ## Runs of calls -/

theorem Indexed.register {draft : RegistryDraft} (indexed : draft.Indexed)
    (descriptor : Descriptor) : (draft.register descriptor).1.Indexed := by
  rcases draft.register_cases descriptor with ⟨free, accepted⟩ | ⟨_, _, _, refused⟩
  · rw [accepted]
    exact indexed.extend free
  · rw [refused]
    exact indexed

theorem Indexed.offerAll {draft : RegistryDraft} (indexed : draft.Indexed)
    (calls : List Descriptor) : (draft.offerAll calls).Indexed := by
  induction calls generalizing draft with
  | nil => exact indexed
  | cons descriptor rest ih => exact ih (indexed.register descriptor)

theorem indexed_empty : RegistryDraft.empty.Indexed :=
  Indexes.nil

theorem indexed_offerAll_empty (calls : List Descriptor) :
    (RegistryDraft.empty.offerAll calls).Indexed :=
  indexed_empty.offerAll calls

theorem descriptors_offerAll (draft : RegistryDraft) (calls : List Descriptor) :
    (draft.offerAll calls).descriptors = draft.descriptors ++ draft.accepted calls := by
  induction calls generalizing draft with
  | nil => simp [offerAll, accepted]
  | cons descriptor rest ih =>
      change ((draft.register descriptor).1.offerAll rest).descriptors = _
      rw [ih, accepted]
      rcases draft.register_cases descriptor with ⟨_, accepted⟩ | ⟨_, _, _, refused⟩
      · simp [accepted, extend]
      · simp [refused]

/-- The descriptors that are accepted are accepted without the others too, and
leave the same draft. -/
theorem registerUntil_accepted (draft : RegistryDraft) (calls : List Descriptor) :
    draft.registerUntil (draft.accepted calls) = (draft.offerAll calls, .ok ()) := by
  induction calls generalizing draft with
  | nil => rfl
  | cons descriptor rest ih =>
      change _ = ((draft.register descriptor).1.offerAll rest, _)
      rw [accepted]
      rcases draft.register_cases descriptor with ⟨_, accepted⟩ | ⟨_, _, _, refused⟩
      · simp only [accepted, registerUntil]
        exact ih (draft.extend descriptor)
      · simp only [refused]
        exact ih draft

theorem registerAll_accepted (draft : RegistryDraft) (calls : List Descriptor) :
    draft.registerAll (draft.accepted calls) = .ok (draft.offerAll calls) := by
  rw [registerAll, registerUntil_accepted]

/-- Where no descriptor is refused, registering them all is offering them all. -/
theorem offerAll_of_registerUntil {draft after : RegistryDraft} {descriptors : List Descriptor}
    (registered : draft.registerUntil descriptors = (after, .ok ())) :
    draft.offerAll descriptors = after := by
  induction descriptors generalizing draft with
  | nil => exact congrArg Prod.fst registered
  | cons descriptor rest ih =>
      change (draft.register descriptor).1.offerAll rest = after
      unfold registerUntil at registered
      rcases draft.register_cases descriptor with ⟨_, accepted⟩ | ⟨_, _, _, refused⟩
      · rw [accepted] at registered ⊢
        exact ih registered
      · rw [refused] at registered
        cases registered

theorem offerAll_of_registerAll {draft after : RegistryDraft} {descriptors : List Descriptor}
    (registered : draft.registerAll descriptors = .ok after) :
    draft.offerAll descriptors = after := by
  apply offerAll_of_registerUntil
  unfold registerAll at registered
  split at registered
  · rename_i extended registers
    rw [registers, Except.ok.inj registered]
  · cases registered

end RegistryDraft

end FeatureService
