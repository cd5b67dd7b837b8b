import FeatureService.Proofs.List.FirstFailure
import FeatureService.Proofs.Registry.Ownership
import Mathlib.Data.List.Induction

/-!
# Registration of whole lists

A list of descriptors is registered exactly if no two of them share a label.
Otherwise the first descriptor that shares a label with an earlier one is
refused, for the first of its labels that is taken.
-/

namespace FeatureService

namespace Descriptor

theorem Apart.symm {first second : Descriptor} (apart : first.Apart second) :
    second.Apart first :=
  fun label inSecond inFirst => apart label inFirst inSecond

/-- None of the descriptors declares the label. -/
def Free (earlier : List Descriptor) (label : String) : Prop :=
  ∀ descriptor ∈ earlier, label ∉ descriptor.aliases

/-- The error for a descriptor that shares a label with earlier ones: it names
the first label of the descriptor that is not free and the only earlier
descriptor that declares it. -/
inductive Clash (earlier : List Descriptor) (descriptor : Descriptor) :
    RegistrationError → Prop where
  | taken {free : List String} {label : String} {place : Nat} {owner : Descriptor}
      (first : FirstWithout (Free earlier) descriptor.aliases free label)
      (owned : earlier[place]? = some owner) (declared : label ∈ owner.aliases)
      (only : ∀ i other, earlier[i]? = some other → label ∈ other.aliases → i = place) :
      Clash earlier descriptor
        (.duplicateAlias label owner.displayName descriptor.displayName)

end Descriptor

namespace RegistryDraft

variable {draft : RegistryDraft}

theorem Indexed.taken?_of_first (indexed : draft.Indexed) {descriptor owner : Descriptor}
    {free : List String} {label : String} {place : Nat}
    (first : FirstWithout (Descriptor.Free draft.descriptors) descriptor.aliases free label)
    (owned : draft.descriptors[place]? = some owner) (declared : label ∈ owner.aliases) :
    draft.taken? descriptor = some (label, place) := by
  obtain ⟨after, split⟩ := first.split
  rw [taken?, List.findSome?_eq_some_iff]
  refine ⟨free, label, after, split, ?_, fun other mem => ?_⟩
  · rw [(indexed label place).mpr ⟨owner, owned, declared⟩, Option.map_some]
  · rw [(indexed.lookup_eq_none_iff other).mpr (first.holds other mem), Option.map_none]

theorem Indexed.register_of_clash (indexed : draft.Indexed) {descriptor : Descriptor}
    {error : RegistrationError} (clash : descriptor.Clash draft.descriptors error) :
    draft.register descriptor = (draft, .error error) := by
  cases clash with
  | taken first owned declared only =>
      have taken := indexed.taken?_of_first first owned declared
      simp only [RegistryDraft.register, taken, Descriptor.displayNameAt_of_getElem? owned]

theorem Indexed.register_of_apart (indexed : draft.Indexed) {descriptor : Descriptor}
    (apart : ∀ earlier ∈ draft.descriptors, descriptor.Apart earlier) :
    draft.register descriptor = (draft.extend descriptor, .ok ()) :=
  register_of_free ((indexed.taken?_eq_none_iff descriptor).mpr apart)

/-- A descriptor that is not apart from all registered ones clashes with one of them. -/
theorem Indexed.exists_clash (indexed : draft.Indexed) {descriptor : Descriptor}
    (shares : ¬ ∀ other ∈ draft.descriptors, descriptor.Apart other) :
    ∃ error, descriptor.Clash draft.descriptors error := by
  rcases all_or_firstWithout (Descriptor.Free draft.descriptors) descriptor.aliases with
    free | ⟨before, label, first⟩
  · exact absurd (fun other mem label declared => free label declared other mem) shares
  · have taken := first.fails
    simp only [Descriptor.Free, Classical.not_forall, Classical.not_not] at taken
    obtain ⟨owner, mem, declared⟩ := taken
    obtain ⟨place, owned⟩ := List.mem_iff_getElem?.mp mem
    exact ⟨_, .taken first owned declared fun i other there declares =>
      indexed.place_eq there declares owned declared⟩

/-- Descriptors that are apart from each other and from the registered ones are
accepted one after the other. -/
theorem Indexed.registers_of_apart (indexed : draft.Indexed) (descriptors : List Descriptor)
    (apart : (draft.descriptors ++ descriptors).Pairwise Descriptor.Apart) :
    ∃ after : RegistryDraft, after.Indexed ∧ after.descriptors = draft.descriptors ++ descriptors ∧
      ∀ rest, draft.registerUntil (descriptors ++ rest) = after.registerUntil rest := by
  induction descriptors generalizing draft with
  | nil => exact ⟨draft, indexed, by simp, fun rest => rfl⟩
  | cons descriptor others ih =>
      obtain ⟨_, _, across⟩ := List.pairwise_append.mp apart
      have free : ∀ earlier ∈ draft.descriptors, descriptor.Apart earlier := fun earlier mem =>
        (across earlier mem descriptor (List.mem_cons_self ..)).symm
      have extended := indexed.extend ((indexed.taken?_eq_none_iff descriptor).mpr free)
      have same : draft.descriptors ++ descriptor :: others =
          (draft.extend descriptor).descriptors ++ others := by simp [RegistryDraft.extend]
      rw [same] at apart
      obtain ⟨after, fits, whole, runs⟩ := ih extended apart
      refine ⟨after, fits, whole.trans same.symm, fun rest => ?_⟩
      rw [List.cons_append, registerUntil, indexed.register_of_apart free]
      exact runs rest

theorem registers_of_apart (descriptors : List Descriptor)
    (apart : descriptors.Pairwise Descriptor.Apart) :
    ∃ draft : RegistryDraft, draft.Indexed ∧ draft.descriptors = descriptors ∧
      ∀ rest, empty.registerUntil (descriptors ++ rest) = draft.registerUntil rest :=
  indexed_empty.registers_of_apart descriptors apart

theorem registerAll_of_apart {descriptors : List Descriptor}
    (apart : descriptors.Pairwise Descriptor.Apart) :
    ∃ draft, empty.registerAll descriptors = .ok draft ∧ draft.Indexed ∧
      draft.descriptors = descriptors := by
  obtain ⟨draft, indexed, whole, runs⟩ := registers_of_apart descriptors apart
  have run := runs []
  rw [List.append_nil] at run
  exact ⟨draft, by rw [registerAll, run, registerUntil], indexed, whole⟩

/-- The first descriptor that clashes with an earlier one ends the registration. -/
theorem registerAll_of_clash {before : List Descriptor} {descriptor : Descriptor}
    {error : RegistrationError} (apart : before.Pairwise Descriptor.Apart)
    (clash : descriptor.Clash before error) (after : List Descriptor) :
    empty.registerAll (before ++ descriptor :: after) = .error error := by
  obtain ⟨draft, indexed, whole, runs⟩ := registers_of_apart before apart
  have refused := indexed.register_of_clash (whole ▸ clash)
  rw [registerAll, runs, registerUntil, refused]

theorem apart_or_clash (descriptors : List Descriptor) :
    descriptors.Pairwise Descriptor.Apart ∨
      ∃ before descriptor after error, descriptors = before ++ descriptor :: after ∧
        before.Pairwise Descriptor.Apart ∧ descriptor.Clash before error := by
  induction descriptors using List.reverseRecOn with
  | nil => exact .inl .nil
  | append_singleton others last ih =>
      rcases ih with apart | ⟨before, descriptor, after, error, rfl, apart, clash⟩
      · by_cases free : ∀ other ∈ others, last.Apart other
        · refine .inl (List.pairwise_append.mpr ⟨apart, by simp, fun other mem final isLast => ?_⟩)
          obtain rfl := List.mem_singleton.mp isLast
          exact (free other mem).symm
        · obtain ⟨draft, _, indexed, rfl⟩ := registerAll_of_apart apart
          obtain ⟨error, clash⟩ := indexed.exists_clash free
          exact .inr ⟨_, last, [], error, rfl, apart, clash⟩
      · exact .inr ⟨before, descriptor, after ++ [last], error, by simp, apart, clash⟩

theorem exists_registerAll_iff (descriptors : List Descriptor) :
    (∃ draft, empty.registerAll descriptors = .ok draft) ↔
      descriptors.Pairwise Descriptor.Apart := by
  constructor
  · rintro ⟨draft, registered⟩
    rcases apart_or_clash descriptors with
      apart | ⟨before, descriptor, after, error, rfl, apart, clash⟩
    · exact apart
    · rw [registerAll_of_clash apart clash after] at registered
      cases registered
  · intro apart
    obtain ⟨draft, registered, _⟩ := registerAll_of_apart apart
    exact ⟨draft, registered⟩

theorem indexed_of_registerAll {descriptors : List Descriptor}
    (registered : empty.registerAll descriptors = .ok draft) :
    draft.Indexed ∧ draft.descriptors = descriptors := by
  have apart := (exists_registerAll_iff descriptors).mp ⟨draft, registered⟩
  obtain ⟨other, same, indexed⟩ := registerAll_of_apart apart
  obtain rfl := Except.ok.inj (same.symm.trans registered)
  exact indexed

end RegistryDraft

end FeatureService
