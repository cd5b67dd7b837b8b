import FeatureService.Proofs.Encoder.Labels
import FeatureService.Service.Settings
import Mathlib.Data.List.Forall2

/-!
# What a format says of its encoder

The settings of a format carry over to the descriptor of its encoder, field by
field, and what a format leaves open has a default. No other descriptor comes of
a format than the one that these fields give.
-/

namespace FeatureService

namespace FormatSettings

/-- The descriptor is what the format says of its encoder. -/
structure Yields (format : FormatSettings) (descriptor : Descriptor) : Prop where
  labels : FirstPlaces format.aliases descriptor.aliases
  identifierOverride : descriptor.identifierOverride = format.identifier
  typeName : descriptor.typeName = format.typeName
  mimeType : descriptor.mimeType = format.mimeType.getD "text/xml"
  publishMode : descriptor.publishMode = if format.publishAllAliases then .allAliases else .primary
  predicate : descriptor.predicate = format.requiresParameter.elim .acceptAll .requiresParameter

theorem descriptor_eq_ok_iff (format : FormatSettings) (descriptor : Descriptor) :
    format.descriptor = .ok descriptor ↔ format.Yields descriptor := by
  have predicate : format.draft.predicate =
      format.requiresParameter.elim .acceptAll .requiresParameter := by
    unfold draft
    cases format.requiresParameter <;> rfl
  rw [FormatSettings.descriptor, DescriptorDraft.build_eq_ok_iff, predicate]
  constructor
  · rintro ⟨labels, accepts, override, typeName, mimeType, publishMode⟩
    exact ⟨labels, override, typeName, mimeType, publishMode, accepts⟩
  · rintro ⟨labels, override, typeName, mimeType, publishMode, accepts⟩
    exact ⟨labels, accepts, override, typeName, mimeType, publishMode⟩

end FormatSettings

/-- The descriptors are what the formats say of their encoders, in order. -/
def Describe (formats : List FormatSettings) (configured : List Descriptor) : Prop :=
  List.Forall₂ FormatSettings.Yields formats configured

theorem describe_iff (formats : List FormatSettings) (configured : List Descriptor) :
    Describe formats configured ↔ formats.map FormatSettings.descriptor = configured.map .ok := by
  rw [← List.forall₂_eq_eq_eq, List.forall₂_map_left_iff, List.forall₂_map_right_iff]
  simp only [FormatSettings.descriptor_eq_ok_iff]
  rfl

end FeatureService
