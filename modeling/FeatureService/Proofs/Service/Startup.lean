import FeatureService.Proofs.Registry.Publication
import FeatureService.Proofs.Registry.Registration
import FeatureService.Proofs.Service.Formats
import FeatureService.Service.Startup

/-!
# What comes of a start

A service starts, or it is kept from starting by one of three faults. A format
without labels comes before a label that is taken, and that before an encoder
without an identifier, wherever they stand in the settings. Within one kind of
fault the first in order counts.
-/

namespace FeatureService

namespace FormatSettings

def Labelled (format : FormatSettings) : Prop :=
  ∃ label ∈ format.aliases, label ≠ ""

theorem exists_descriptor_of_labelled {format : FormatSettings} (labelled : format.Labelled) :
    ∃ descriptor, format.descriptor = .ok descriptor :=
  DescriptorDraft.exists_build_of_labelled labelled

theorem descriptor_of_not_labelled {format : FormatSettings} (unlabelled : ¬ format.Labelled) :
    format.descriptor = .error (.emptyAliases (format.typeName.getD "<unnamed>")) :=
  DescriptorDraft.build_of_not_labelled unlabelled

end FormatSettings

/-- What comes of a start with these formats: the descriptors of all encoders,
or the fault that keeps the service from starting. -/
inductive Start (formats : List FormatSettings) :
    Except RegistrationError (List Descriptor) → Prop where
  | unlabelled {before : List FormatSettings} {format : FormatSettings}
      (first : FirstWithout FormatSettings.Labelled formats before format) :
      Start formats (.error (.emptyAliases (format.typeName.getD "<unnamed>")))
  | clash {configured before after : List Descriptor} {descriptor : Descriptor}
      {error : RegistrationError} (described : Describe formats configured)
      (split : BuiltIn.descriptors ++ configured = before ++ descriptor :: after)
      (apart : before.Pairwise Descriptor.Apart) (clash : descriptor.Clash before error) :
      Start formats (.error error)
  | unpublishable {configured before : List Descriptor} {descriptor : Descriptor}
      (described : Describe formats configured)
      (apart : (BuiltIn.descriptors ++ configured).Pairwise Descriptor.Apart)
      (first : FirstWithout Descriptor.Publishable (BuiltIn.descriptors ++ configured) before
        descriptor) :
      Start formats (.error
        (.invalidIdentifier descriptor.primaryAlias descriptor.unpublishableReason))
  | started {configured : List Descriptor} (described : Describe formats configured)
      (apart : (BuiltIn.descriptors ++ configured).Pairwise Descriptor.Apart)
      (publishable : ∀ descriptor ∈ BuiltIn.descriptors ++ configured, descriptor.Publishable) :
      Start formats (.ok (BuiltIn.descriptors ++ configured))

namespace Settings

variable {settings : Settings}

theorem descriptors_eq_ok_iff (settings : Settings) (configured : List Descriptor) :
    settings.descriptors = .ok configured ↔ Describe settings.formats configured := by
  rw [describe_iff]
  exact mapM_eq_ok_iff _ _ _

theorem registry_of_unlabelled {before : List FormatSettings} {format : FormatSettings}
    (first : FirstWithout FormatSettings.Labelled settings.formats before format) :
    settings.registry = ⟨[], .error (.emptyAliases (format.typeName.getD "<unnamed>"))⟩ := by
  have refused : settings.descriptors = _ :=
    mapM_eq_error (fun _ => FormatSettings.exists_descriptor_of_labelled) first
      (FormatSettings.descriptor_of_not_labelled first.fails)
  rw [registry, refused]

theorem registry_of_described {configured : List Descriptor}
    (described : Describe settings.formats configured) :
    settings.registry = registryOf configured := by
  rw [registry, (settings.descriptors_eq_ok_iff configured).mpr described]

theorem registry_of_clash {configured before after : List Descriptor} {descriptor : Descriptor}
    {error : RegistrationError} (described : Describe settings.formats configured)
    (split : BuiltIn.descriptors ++ configured = before ++ descriptor :: after)
    (apart : before.Pairwise Descriptor.Apart) (clash : descriptor.Clash before error) :
    settings.registry = ⟨[], .error error⟩ := by
  rw [registry_of_described described, registryOf, split,
    RegistryDraft.registerAll_of_clash apart clash]

theorem registry_of_apart {configured : List Descriptor}
    (described : Describe settings.formats configured)
    (apart : (BuiltIn.descriptors ++ configured).Pairwise Descriptor.Apart) :
    ∃ draft : RegistryDraft, draft.Indexed ∧
      draft.descriptors = BuiltIn.descriptors ++ configured ∧ settings.registry = draft.build := by
  obtain ⟨draft, registered, indexed, whole⟩ := RegistryDraft.registerAll_of_apart apart
  exact ⟨draft, indexed, whole, by rw [registry_of_described described, registryOf, registered]⟩

end Settings

namespace Start

/-- One of the four cases applies, whatever the formats are. -/
theorem exists_start (formats : List FormatSettings) : ∃ outcome, Start formats outcome := by
  rcases all_or_firstWithout FormatSettings.Labelled formats with
    labelled | ⟨before, format, first⟩
  · obtain ⟨configured, described⟩ := exists_map_eq_ok fun format mem =>
      FormatSettings.exists_descriptor_of_labelled (labelled format mem)
    rw [← describe_iff] at described
    rcases RegistryDraft.apart_or_clash (BuiltIn.descriptors ++ configured) with
      apart | ⟨before, descriptor, after, error, split, apart, clash⟩
    · rcases all_or_firstWithout Descriptor.Publishable (BuiltIn.descriptors ++ configured) with
        publishable | ⟨before, descriptor, first⟩
      · exact ⟨_, .started described apart publishable⟩
      · exact ⟨_, .unpublishable described apart first⟩
    · exact ⟨_, .clash described split apart clash⟩
  · exact ⟨_, .unlabelled first⟩

variable {settings : Settings}

theorem outcome_eq {outcome : Except RegistrationError (List Descriptor)}
    (start : Start settings.formats outcome) :
    (settings.registry.outcome.map fun registry => registry.encoders.map Encoder.descriptor) =
      outcome := by
  cases start with
  | unlabelled first => rw [Settings.registry_of_unlabelled first]; rfl
  | clash described split apart clash =>
      rw [Settings.registry_of_clash described split apart clash]
      rfl
  | unpublishable described apart first =>
      obtain ⟨draft, _, whole, same⟩ := Settings.registry_of_apart described apart
      obtain ⟨_, _, _, built⟩ := RegistryDraft.build_of_firstWithout (whole ▸ first)
      rw [same, built]
      rfl
  | started described apart publishable =>
      obtain ⟨draft, _, whole, same⟩ := Settings.registry_of_apart described apart
      obtain ⟨registry, builds⟩ := RegistryDraft.builds_of_publishable (whole ▸ publishable)
      rw [same, builds.build_eq, ← whole, ← builds.descriptors]
      rfl

/-- A fault in the labels is found before anything is reported. -/
theorem diagnostics_eq_nil {error : RegistrationError}
    (start : Start settings.formats (.error error))
    (labels : ∀ primaryAlias reason, error ≠ .invalidIdentifier primaryAlias reason) :
    settings.registry.diagnostics = [] := by
  cases start with
  | unlabelled first => rw [Settings.registry_of_unlabelled first]
  | clash described split apart clash =>
      rw [Settings.registry_of_clash described split apart clash]
  | unpublishable => exact absurd rfl (labels _ _)

end Start

/-- What comes of a start is exactly what the formats call for. Where a label is
missing or taken, nothing is reported beside the error. -/
theorem startup_outcome (settings : Settings) :
    (∀ outcome,
      (settings.registry.outcome.map fun registry => registry.encoders.map Encoder.descriptor) =
        outcome ↔ Start settings.formats outcome) ∧
    (∀ typeName, settings.registry.outcome = .error (.emptyAliases typeName) →
      settings.registry.diagnostics = []) ∧
    ∀ label first second, settings.registry.outcome = .error (.duplicateAlias label first second) →
      settings.registry.diagnostics = [] := by
  have exact_outcome (outcome : Except RegistrationError (List Descriptor)) :
      (settings.registry.outcome.map fun registry => registry.encoders.map Encoder.descriptor) =
        outcome ↔ Start settings.formats outcome := by
    constructor
    · intro same
      obtain ⟨other, start⟩ := Start.exists_start settings.formats
      rwa [← same, start.outcome_eq]
    · exact Start.outcome_eq
  have silent (error : RegistrationError) (failed : settings.registry.outcome = .error error)
      (labels : ∀ primaryAlias reason, error ≠ .invalidIdentifier primaryAlias reason) :
      settings.registry.diagnostics = [] :=
    ((exact_outcome (.error error)).mp (by rw [failed]; rfl)).diagnostics_eq_nil labels
  refine ⟨exact_outcome, fun typeName failed => ?_, fun label first second failed => ?_⟩
  · exact silent _ failed (by simp)
  · exact silent _ failed (by simp)

/-- Settings with three faults: an encoder without an identifier, labels that are
taken, and formats without labels. -/
def faultySettings (unlabelled : List FormatSettings) : Settings where
  formats := { aliases := ["text/plain"] } :: { aliases := ["spreadsheet", "json", "csv"] } ::
    unlabelled

/-- Settings with a format of which everything is given. -/
def keyholeSettings : Settings where
  formats :=
    [{ aliases := ["kml", "", "application/kml", "kml"]
       identifier := some "KML"
       mimeType := some "application/kml"
       publishAllAliases := true
       typeName := some "formats::Keyhole"
       requiresParameter := some "height" }]

def keyhole : Descriptor where
  aliases := ["kml", "application/kml"]
  predicate := .requiresParameter "height"
  identifierOverride := some "KML"
  typeName := some "formats::Keyhole"
  mimeType := "application/kml"
  publishMode := .allAliases

/-- Formats without labels count first, then labels that are taken, then encoders
without an identifier. A service without a fault starts. -/
theorem startup_outcome_in_each_case :
    let clash : RegistrationError := .duplicateAlias "json"
      "application/json (geoformat_runtime::formats::GeoJsonOutputFormat)" "spreadsheet"
    let unlabelled : RegistrationError := .emptyAliases "kml"
    let unpublishable : RegistrationError :=
      .invalidIdentifier "text/plain" Descriptor.noTypeNameReason
    let empty : List FormatSettings :=
      [{ aliases := [""], typeName := some "kml" }, { aliases := [] }]
    let plain : Settings := { formats := [{ aliases := ["text/plain"] }] }
    (faultySettings empty).registry.outcome = .error unlabelled ∧
      Start (faultySettings empty).formats (.error unlabelled) ∧
      (faultySettings empty).registry.diagnostics = [] ∧
      (faultySettings []).registry.outcome = .error clash ∧
      Start (faultySettings []).formats (.error clash) ∧
      (faultySettings []).registry.diagnostics = [] ∧
      plain.registry.outcome = .error unpublishable ∧
      Start plain.formats (.error unpublishable) ∧
      (keyholeSettings.registry.outcome.map fun registry =>
        registry.encoders.map Encoder.descriptor) = .ok (BuiltIn.descriptors ++ [keyhole]) ∧
      Start keyholeSettings.formats (.ok (BuiltIn.descriptors ++ [keyhole])) := by
  intro clash unlabelled unpublishable empty plain
  have lacks : (faultySettings empty).registry.outcome = .error unlabelled := rfl
  have clashes : (faultySettings []).registry.outcome = .error clash := rfl
  have nameless : plain.registry.outcome = .error unpublishable := rfl
  have starts : (keyholeSettings.registry.outcome.map fun registry =>
      registry.encoders.map Encoder.descriptor) = .ok (BuiltIn.descriptors ++ [keyhole]) := rfl
  obtain ⟨emptyOutcome, emptySilent, _⟩ := startup_outcome (faultySettings empty)
  obtain ⟨outcome, _, clashSilent⟩ := startup_outcome (faultySettings [])
  obtain ⟨plainOutcome, _⟩ := startup_outcome plain
  obtain ⟨keyholeOutcome, _⟩ := startup_outcome keyholeSettings
  exact ⟨lacks, (emptyOutcome _).mp (by rw [lacks]; rfl), emptySilent _ lacks,
    clashes, (outcome _).mp (by rw [clashes]; rfl), clashSilent _ _ _ clashes,
    nameless, (plainOutcome _).mp (by rw [nameless]; rfl), starts, (keyholeOutcome _).mp starts⟩

end FeatureService
