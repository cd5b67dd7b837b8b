import FeatureService.Proofs.Negotiation.Choice
import FeatureService.Proofs.Registry.Publication
import FeatureService.Proofs.Registry.Registration
import FeatureService.Proofs.Text.Comparison

/-!
# Order of registration

Descriptors can be registered in any order with the same success, and the
registries that result hold the same encoders. What they list, who owns a label
and who serves an operation that names a format depend on nothing else.
-/

namespace FeatureService

namespace Registry

/-- Two registries hold the same encoders, in whatever order. -/
def SameEncoders (first second : Registry) : Prop :=
  ∀ encoder, encoder ∈ first.encoders ↔ encoder ∈ second.encoders

namespace SameEncoders

variable {first second : Registry}

theorem get?_eq (same : first.SameEncoders second) (firstIndexed : first.Indexed)
    (secondIndexed : second.Indexed) (label : String) : first.get? label = second.get? label := by
  apply Option.ext
  intro encoder
  rw [firstIndexed.get?_eq_some_iff, secondIndexed.get?_eq_some_iff, same encoder]

theorem publishableIdentifiers_eq (same : first.SameEncoders second) :
    first.publishableIdentifiers = second.publishableIdentifiers := by
  apply Text.sortedSet_eq_of_mem_iff
  intro label
  simp only [List.mem_filter, List.mem_flatMap, same _]

theorem elementNames_eq (same : first.SameEncoders second) :
    first.elementNames = second.elementNames := by
  apply Text.sortedSet_eq_of_mem_iff
  intro name
  simp only [List.mem_flatMap, same _]

end SameEncoders

end Registry

namespace RegistryDraft

theorem exists_registerAll_iff_of_perm {descriptors reordered : List Descriptor}
    (same : descriptors.Perm reordered) :
    (∃ draft, empty.registerAll descriptors = .ok draft) ↔
      ∃ draft, empty.registerAll reordered = .ok draft := by
  rw [exists_registerAll_iff, exists_registerAll_iff]
  exact same.pairwise_iff Descriptor.Apart.symm

variable {draft other : RegistryDraft}

theorem exists_build_iff_of_perm (same : draft.descriptors.Perm other.descriptors) :
    (∃ registry, draft.build.outcome = .ok registry) ↔
      ∃ registry, other.build.outcome = .ok registry := by
  rw [exists_build_iff, exists_build_iff]
  simp only [same.mem_iff]

theorem Builds.sameEncoders {first second : Registry} (builds : draft.Builds first)
    (otherBuilds : other.Builds second) (same : draft.descriptors.Perm other.descriptors) :
    first.SameEncoders second := by
  intro encoder
  rw [builds.mem_encoders_iff, otherBuilds.mem_encoders_iff, same.mem_iff]

end RegistryDraft

/-- The order of registration does not decide whether a registry results, what
it lists, who owns a label or who serves an operation that names a format. -/
theorem registration_order (descriptors reordered : List Descriptor)
    (same : descriptors.Perm reordered) :
    ((∃ draft, RegistryDraft.empty.registerAll descriptors = .ok draft) ↔
      ∃ draft, RegistryDraft.empty.registerAll reordered = .ok draft) ∧
    ∀ draft other, RegistryDraft.empty.registerAll descriptors = .ok draft →
      RegistryDraft.empty.registerAll reordered = .ok other →
      ((∃ registry, draft.build.outcome = .ok registry) ↔
        ∃ registry, other.build.outcome = .ok registry) ∧
      ∀ first second, draft.build.outcome = .ok first → other.build.outcome = .ok second →
        first.publishableIdentifiers = second.publishableIdentifiers ∧
        first.elementNames = second.elementNames ∧
        (∀ label, first.get? label = second.get? label) ∧
        ∀ recognized operation, operation.outputFormat? ≠ none →
          (Negotiator.mk first recognized).negotiate operation =
            (Negotiator.mk second recognized).negotiate operation := by
  refine ⟨RegistryDraft.exists_registerAll_iff_of_perm same, ?_⟩
  intro draft other registered otherRegistered
  obtain ⟨indexed, whole⟩ := RegistryDraft.indexed_of_registerAll registered
  obtain ⟨otherIndexed, otherWhole⟩ := RegistryDraft.indexed_of_registerAll otherRegistered
  have reorders : draft.descriptors.Perm other.descriptors := by
    rw [whole, otherWhole]
    exact same
  refine ⟨RegistryDraft.exists_build_iff_of_perm reorders, ?_⟩
  intro first second built otherBuilt
  have sameEncoders := ((draft.build_outcome_eq_ok_iff first).mp built).sameEncoders
    ((other.build_outcome_eq_ok_iff second).mp otherBuilt) reorders
  have fits := Registry.indexed_of_built indexed built
  have otherFits := Registry.indexed_of_built otherIndexed otherBuilt
  have owners := sameEncoders.get?_eq fits otherFits
  refine ⟨sameEncoders.publishableIdentifiers_eq, sameEncoders.elementNames_eq, owners, ?_⟩
  intro recognized operation names
  obtain ⟨format, named⟩ := Option.ne_none_iff_exists'.mp names
  exact Negotiator.negotiate_eq_of_owner_eq fits otherFits recognized named (owners format)

/-- In either order `csv` serves a query that names it, and a query that names no
format goes to the encoder that comes first. -/
theorem registration_order_csv_first :
    let draft := RegistryDraft.empty.offerAll [BuiltIn.gml2, BuiltIn.csv]
    let other := RegistryDraft.empty.offerAll [BuiltIn.csv, BuiltIn.gml2]
    let first : Registry := ⟨[⟨BuiltIn.gml2, "GML2"⟩, ⟨BuiltIn.csv, "csv"⟩], draft.owners⟩
    let second : Registry := ⟨[⟨BuiltIn.csv, "csv"⟩, ⟨BuiltIn.gml2, "GML2"⟩], other.owners⟩
    let named := Negotiator.textQuery "topp:states"
    [BuiltIn.gml2, BuiltIn.csv].Perm [BuiltIn.csv, BuiltIn.gml2] ∧
      RegistryDraft.empty.registerAll [BuiltIn.gml2, BuiltIn.csv] = .ok draft ∧
      RegistryDraft.empty.registerAll [BuiltIn.csv, BuiltIn.gml2] = .ok other ∧
      draft.build.outcome = .ok first ∧ other.build.outcome = .ok second ∧
      first.elementNames = second.elementNames ∧
      named.outputFormat? ≠ none ∧
      (Negotiator.mk first [.getFeature]).negotiate named =
        (Negotiator.mk second [.getFeature]).negotiate named ∧
      (Negotiator.mk first [.getFeature]).negotiate (Negotiator.openQuery "topp:states") =
        .ok ⟨BuiltIn.gml2, "GML2"⟩ ∧
      (Negotiator.mk second [.getFeature]).negotiate (Negotiator.openQuery "topp:states") =
        .ok ⟨BuiltIn.csv, "csv"⟩ := by
  intro draft other first second named
  have swapped : [BuiltIn.gml2, BuiltIn.csv].Perm [BuiltIn.csv, BuiltIn.gml2] := .swap _ _ _
  have names : named.outputFormat? ≠ none := by decide
  obtain ⟨_, elements, _, served⟩ :=
    ((registration_order _ _ swapped).2 draft other rfl rfl).2 first second rfl rfl
  exact ⟨swapped, rfl, rfl, rfl, rfl, elements, names, served [.getFeature] named names, rfl, rfl⟩

end FeatureService
