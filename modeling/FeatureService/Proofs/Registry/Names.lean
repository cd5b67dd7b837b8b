import FeatureService.Proofs.Registry.Advertising
import FeatureService.Proofs.Registry.Publication
import FeatureService.Proofs.Registry.Reports

/-!
# Names that are published

Whatever a registry publishes is an element name: identifiers are derived as
such, and of the aliases only element names are published.
-/

namespace FeatureService

namespace Encoder

variable {encoder : Encoder}

theorem Derived.isValid (derived : encoder.Derived) :
    ElementName.isValid encoder.identifier = true :=
  encoder.descriptor.derivation.isValid derived

theorem Derived.isValid_of_mem_elementNames (derived : encoder.Derived) {name : String}
    (advertised : name ∈ encoder.elementNames) : ElementName.isValid name = true := by
  rcases (encoder.mem_elementNames name).mp advertised with ⟨_, published⟩ | ⟨_, rfl⟩
  · exact ((mem_publishableAliases _ name).mp published).2
  · exact derived.isValid

end Encoder

namespace Registry

variable {registry : Registry} {name : String}

theorem mem_elementNames_iff (registry : Registry) (name : String) :
    name ∈ registry.elementNames ↔
      ∃ encoder ∈ registry.encoders, name ∈ encoder.elementNames := by
  rw [elementNames, Text.mem_sortedSet, List.mem_flatMap]

theorem isValid_of_mem_elementNames (derived : ∀ encoder ∈ registry.encoders, encoder.Derived)
    (advertised : name ∈ registry.elementNames) : ElementName.isValid name = true := by
  obtain ⟨encoder, mem, byEncoder⟩ := (registry.mem_elementNames_iff name).mp advertised
  exact (derived encoder mem).isValid_of_mem_elementNames byEncoder

theorem isValid_of_mem_publishableIdentifiers (listed : name ∈ registry.publishableIdentifiers) :
    ElementName.isValid name = true :=
  ((registry.mem_publishableIdentifiers name).mp listed).2

end Registry

end FeatureService
