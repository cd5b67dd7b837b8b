import FeatureService.Proofs.Encoder.Derivation
import FeatureService.Proofs.List.FirstFailure
import FeatureService.Proofs.Registry.Construction

/-!
# Publishable encoders

A draft becomes a registry exactly if all its descriptors are publishable. Else
the first one that is not ends the construction, and what was reported on those
before it stays.
-/

namespace FeatureService

namespace Encoder

theorem Derived.unique {first second : Encoder} (firstDerived : first.Derived)
    (secondDerived : second.Derived) (same : first.descriptor = second.descriptor) :
    first = second := by
  obtain ⟨descriptor, identifier⟩ := first
  obtain ⟨_, other⟩ := second
  cases same
  have equal : identifier = other :=
    Except.ok.inj (firstDerived.symm.trans secondDerived)
  rw [equal]

end Encoder

namespace RegistryDraft

variable {draft : RegistryDraft} {registry : Registry}

/-- The encoders of a registry are those that its descriptors yield. -/
theorem Builds.mem_encoders_iff (builds : draft.Builds registry) (encoder : Encoder) :
    encoder ∈ registry.encoders ↔ encoder.descriptor ∈ draft.descriptors ∧ encoder.Derived := by
  rw [← builds.descriptors]
  constructor
  · intro mem
    exact ⟨List.mem_map_of_mem mem, builds.derived encoder mem⟩
  · rintro ⟨described, derived⟩
    obtain ⟨other, mem, same⟩ := List.mem_map.mp described
    rw [derived.unique (builds.derived other mem) same.symm]
    exact mem

theorem exists_derived {descriptors : List Descriptor}
    (publishable : ∀ descriptor ∈ descriptors, descriptor.Publishable) :
    ∃ encoders : List Encoder, encoders.map Encoder.descriptor = descriptors ∧
      ∀ encoder ∈ encoders, encoder.Derived := by
  rcases derived_or_first_error descriptors with
    found | ⟨encoders, descriptor, rest, error, split, _, underived⟩
  · exact found
  · have named := publishable descriptor (by simp [split])
    obtain ⟨identifier, derived⟩ := descriptor.derivation.publishable_iff.mp named
    rw [underived] at derived
    cases derived

theorem builds_of_publishable
    (publishable : ∀ descriptor ∈ draft.descriptors, descriptor.Publishable) :
    ∃ registry, draft.Builds registry := by
  obtain ⟨encoders, descriptors, derived⟩ := exists_derived publishable
  exact ⟨⟨encoders, draft.owners⟩, descriptors, rfl, derived⟩

theorem build_of_firstWithout {before : List Descriptor} {descriptor : Descriptor}
    (failure : FirstWithout Descriptor.Publishable draft.descriptors before descriptor) :
    ∃ encoders : List Encoder, encoders.map Encoder.descriptor = before ∧
      (∀ encoder ∈ encoders, encoder.Derived) ∧
      draft.build =
        ⟨Construction.empty.reportsOnAll encoders ++ descriptor.overrideReport,
          .error (.invalidIdentifier descriptor.primaryAlias descriptor.unpublishableReason)⟩ := by
  obtain ⟨⟨after, split⟩, publishable, unpublishable⟩ := failure
  obtain ⟨encoders, rfl, derived⟩ := exists_derived publishable
  have refused := descriptor.derivation.eq_of_not_publishable unpublishable
  refine ⟨encoders, rfl, derived, ?_⟩
  rw [build_of_split split derived, List.zipIdx_cons,
    Construction.run_of_error _ _ _ _ (congrArg Reported.outcome refused), refused]
  rfl

theorem exists_build_iff (draft : RegistryDraft) :
    (∃ registry, draft.build.outcome = .ok registry) ↔
      ∀ descriptor ∈ draft.descriptors, descriptor.Publishable := by
  constructor
  · rintro ⟨registry, built⟩ descriptor mem
    have builds := (draft.build_outcome_eq_ok_iff registry).mp built
    rw [← builds.descriptors] at mem
    obtain ⟨encoder, inside, rfl⟩ := List.mem_map.mp mem
    exact encoder.descriptor.derivation.publishable_iff.mpr ⟨_, builds.derived encoder inside⟩
  · intro publishable
    obtain ⟨registry, builds⟩ := builds_of_publishable publishable
    exact ⟨registry, (draft.build_outcome_eq_ok_iff registry).mpr builds⟩

end RegistryDraft

end FeatureService
