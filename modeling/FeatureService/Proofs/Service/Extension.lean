import FeatureService.Proofs.Negotiation.Choice
import FeatureService.Proofs.Service.Startup

/-!
# Formats that are added

A service that starts also starts with fewer formats, as long as the first ones
are kept. Whatever the smaller service serves, the larger one serves with the
same encoder: formats are added behind those that are there, and no label of
theirs is given away.
-/

namespace FeatureService

namespace Registry

/-- Every encoder of the first registry is in the second. -/
def Extends (first second : Registry) : Prop :=
  ∀ encoder ∈ first.encoders, encoder ∈ second.encoders

theorem Extends.get?_eq {first second : Registry} (extension : first.Extends second)
    (firstIndexed : first.Indexed) (secondIndexed : second.Indexed) {label : String}
    (owned : ∃ encoder ∈ first.encoders, label ∈ encoder.descriptor.aliases) :
    first.get? label = second.get? label := by
  obtain ⟨encoder, mem, declared⟩ := owned
  rw [(firstIndexed.get?_eq_some_iff label encoder).mpr ⟨mem, declared⟩,
    (secondIndexed.get?_eq_some_iff label encoder).mpr ⟨extension encoder mem, declared⟩]

end Registry

namespace Settings

/-- What is known of a service that started. -/
structure Started (settings : Settings) (configured : List Descriptor) (registry : Registry) :
    Prop where
  described : Describe settings.formats configured
  apart : (BuiltIn.descriptors ++ configured).Pairwise Descriptor.Apart
  publishable : ∀ descriptor ∈ BuiltIn.descriptors ++ configured, descriptor.Publishable
  indexed : registry.Indexed
  descriptors : registry.encoders.map Encoder.descriptor = BuiltIn.descriptors ++ configured
  mem_encoders_iff : ∀ encoder, encoder ∈ registry.encoders ↔
    encoder.descriptor ∈ BuiltIn.descriptors ++ configured ∧ encoder.Derived

variable {settings : Settings} {configured : List Descriptor} {registry : Registry}

theorem exists_started (described : Describe settings.formats configured)
    (apart : (BuiltIn.descriptors ++ configured).Pairwise Descriptor.Apart)
    (publishable : ∀ descriptor ∈ BuiltIn.descriptors ++ configured, descriptor.Publishable) :
    ∃ registry, settings.registry.outcome = .ok registry ∧
      settings.Started configured registry := by
  obtain ⟨draft, indexed, whole, same⟩ := registry_of_apart described apart
  obtain ⟨registry, builds⟩ := RegistryDraft.builds_of_publishable (whole ▸ publishable)
  have built := (draft.build_outcome_eq_ok_iff registry).mpr builds
  exact ⟨registry, by rw [same, built], described, apart, publishable,
    Registry.indexed_of_built indexed built, builds.descriptors.trans whole,
    fun encoder => whole ▸ builds.mem_encoders_iff encoder⟩

theorem started_of_outcome (outcome : settings.registry.outcome = .ok registry) :
    ∃ configured, settings.Started configured registry := by
  obtain ⟨other, start⟩ := Start.exists_start settings.formats
  have same := start.outcome_eq
  rw [outcome] at same
  cases start with
  | unlabelled | clash | unpublishable => cases same
  | @started configured described apart publishable =>
      obtain ⟨found, built, started⟩ := exists_started described apart publishable
      obtain rfl := Except.ok.inj (outcome.symm.trans built)
      exact ⟨configured, started⟩

/-- The first encoder of every service writes GML2. -/
theorem Started.first (started : settings.Started configured registry) :
    ∃ others, registry.encoders = ⟨BuiltIn.gml2, "GML2"⟩ :: others := by
  have descriptors := started.descriptors
  obtain ⟨first, others, split, described, _⟩ := List.map_eq_cons_iff.mp descriptors
  have derived := ((started.mem_encoders_iff first).mp (by simp [split])).2
  have known : (Encoder.mk BuiltIn.gml2 "GML2").Derived := rfl
  exact ⟨others, by rw [split, derived.unique known described]⟩

/-- A service that starts also starts with its first formats alone, and it has
all their encoders. -/
theorem Started.of_leading (started : settings.Started configured registry)
    {formats : List FormatSettings} (leading : formats <+: settings.formats) :
    ∃ few leadingDescriptors, { settings with formats }.registry.outcome = .ok few ∧
      { settings with formats }.Started leadingDescriptors few ∧ few.Extends registry := by
  obtain ⟨rest, split⟩ := leading
  have described := started.described
  rw [describe_iff, ← split, List.map_append] at described
  obtain ⟨firsts, others, rfl, leadingDescribed, _⟩ := List.map_eq_append_iff.mp described.symm
  have kept : BuiltIn.descriptors ++ firsts <+: BuiltIn.descriptors ++ (firsts ++ others) :=
    ⟨others, by rw [List.append_assoc]⟩
  have apart := started.apart.sublist kept.sublist
  have publishable : ∀ descriptor ∈ BuiltIn.descriptors ++ firsts, descriptor.Publishable :=
    fun descriptor mem => started.publishable descriptor (kept.subset mem)
  have leadingDescribed : Describe { settings with formats }.formats firsts :=
    (describe_iff _ _).mpr leadingDescribed.symm
  obtain ⟨few, outcome, fewStarted⟩ := exists_started leadingDescribed apart publishable
  refine ⟨few, firsts, outcome, fewStarted, fun encoder mem => ?_⟩
  obtain ⟨declared, derived⟩ := (fewStarted.mem_encoders_iff encoder).mp mem
  exact (started.mem_encoders_iff encoder).mpr ⟨kept.subset declared, derived⟩

theorem negotiator_outcome_eq_ok_iff (settings : Settings) (negotiator : Negotiator) :
    settings.negotiator.outcome = .ok negotiator ↔
      ∃ registry, settings.registry.outcome = .ok registry ∧
        negotiator = settings.negotiatorOver registry := by
  rw [Settings.negotiator]
  cases settings.registry.outcome with
  | error error => simp [Except.map]
  | ok registry => simp [Except.map, eq_comm]

/-- An operation that names no format is served by the first built-in encoder. -/
theorem Started.negotiate_unnamed (started : settings.Started configured registry)
    {operation : Operation}
    (known : (settings.negotiatorOver registry).recognizes operation.kind = true)
    (asks : operation.resultType = .results) (unnamed : operation.outputFormat? = none) :
    (settings.negotiatorOver registry).negotiate operation = .ok ⟨BuiltIn.gml2, "GML2"⟩ := by
  obtain ⟨others, first⟩ := started.first
  exact Negotiator.negotiate_unnamed known asks unnamed first rfl

variable {formats : List FormatSettings} {leading : List Descriptor} {few : Registry}

/-- An operation that names a label of the smaller service fares alike in both. -/
theorem Started.negotiate_named (started : settings.Started configured registry)
    (fewStarted : { settings with formats }.Started leading few) (extension : few.Extends registry)
    {operation : Operation} {format : String} (named : operation.outputFormat? = some format)
    (owned : ∃ encoder ∈ few.encoders, encoder.descriptor.declares format = true) :
    (settings.negotiatorOver few).negotiate operation =
      (settings.negotiatorOver registry).negotiate operation := by
  simp only [Descriptor.declares_iff] at owned
  exact Negotiator.negotiate_eq_of_owner_eq fewStarted.indexed started.indexed _ named
    (extension.get?_eq fewStarted.indexed started.indexed owned)

/-- What the smaller service serves, the larger one serves with the same encoder. -/
theorem Started.negotiate_of_served (started : settings.Started configured registry)
    (fewStarted : { settings with formats }.Started leading few) (extension : few.Extends registry)
    {operation : Operation} {encoder : Encoder}
    (served : (settings.negotiatorOver few).negotiate operation = .ok encoder) :
    (settings.negotiatorOver registry).negotiate operation = .ok encoder := by
  obtain ⟨known, asks⟩ := Negotiator.eligible_of_served served
  obtain ⟨mem, offered, _⟩ := Negotiator.offers_of_served served
  cases format : operation.outputFormat? with
  | none =>
      have byFirst : (settings.negotiatorOver few).negotiate operation = _ :=
        fewStarted.negotiate_unnamed known asks format
      obtain rfl := Except.ok.inj (byFirst.symm.trans served)
      exact started.negotiate_unnamed known asks format
  | some label =>
      rw [format] at offered
      rw [← started.negotiate_named fewStarted extension format ⟨encoder, mem, offered⟩]
      exact served

end Settings

/-! ## Services with more formats -/

/-- Formats can be added to a service that starts, and none takes over what an
earlier one serves. Operations that name no format stay with GML2. -/
theorem added_formats_take_nothing_over (settings : Settings) (full : Negotiator)
    (starts : settings.negotiator.outcome = .ok full) :
    (∀ formats, formats <+: settings.formats →
      ∃ few, { settings with formats }.negotiator.outcome = .ok few ∧
        (∀ operation encoder, few.negotiate operation = .ok encoder →
          full.negotiate operation = .ok encoder) ∧
        ∀ operation format, operation.outputFormat? = some format →
          (∃ encoder ∈ few.registry.encoders, encoder.descriptor.declares format = true) →
          few.negotiate operation = full.negotiate operation) ∧
    ∀ operation, full.recognizes operation.kind = true → operation.resultType = .results →
      operation.outputFormat? = none →
      full.negotiate operation = .ok ⟨BuiltIn.gml2, "GML2"⟩ := by
  obtain ⟨registry, outcome, rfl⟩ := (settings.negotiator_outcome_eq_ok_iff full).mp starts
  obtain ⟨configured, started⟩ := Settings.started_of_outcome outcome
  refine ⟨fun formats leading => ?_, fun operation known asks unnamed =>
    started.negotiate_unnamed known asks unnamed⟩
  obtain ⟨few, firsts, fewOutcome, fewStarted, extension⟩ := started.of_leading leading
  refine ⟨settings.negotiatorOver few,
    (Settings.negotiator_outcome_eq_ok_iff _ _).mpr ⟨few, fewOutcome, rfl⟩, ?_, ?_⟩
  · intro operation encoder served
    exact started.negotiate_of_served fewStarted extension served
  · intro operation format named owned
    exact started.negotiate_named fewStarted extension named owned

def mapSettings : Settings where
  formats := [{ aliases := ["kml", "application/kml"] }]

def builtInRegistry : Registry where
  encoders :=
    [⟨BuiltIn.gml2, "GML2"⟩, ⟨BuiltIn.gml3, "GML3"⟩, ⟨BuiltIn.geoJson, "GeoJsonOutputFormat"⟩,
     ⟨BuiltIn.csv, "csv"⟩, ⟨BuiltIn.shapeZip, "SHAPE-ZIP"⟩]
  owners := (RegistryDraft.empty.offerAll BuiltIn.descriptors).owners

/-- With one more format, `csv` still serves a query for it, and GML2 serves a
query that names no format. -/
theorem added_formats_take_nothing_over_kml :
    ∃ full, mapSettings.negotiator.outcome = .ok full ∧ [] <+: mapSettings.formats ∧
      (mapSettings.negotiatorOver builtInRegistry).negotiate (Negotiator.textQuery "topp:states") =
        .ok ⟨BuiltIn.csv, "csv"⟩ ∧
      full.negotiate (Negotiator.textQuery "topp:states") = .ok ⟨BuiltIn.csv, "csv"⟩ ∧
      full.recognizes .getFeature = true ∧
      full.negotiate (Negotiator.openQuery "topp:states") = .ok ⟨BuiltIn.gml2, "GML2"⟩ := by
  obtain ⟨full, starts⟩ : ∃ full, mapSettings.negotiator.outcome = .ok full := ⟨_, rfl⟩
  have known : full.recognizes .getFeature = true := by
    obtain ⟨registry, _, rfl⟩ := (mapSettings.negotiator_outcome_eq_ok_iff full).mp starts
    rfl
  have leading : [] <+: mapSettings.formats := List.nil_prefix
  have builtIn : { mapSettings with formats := [] }.negotiator.outcome =
      .ok (mapSettings.negotiatorOver builtInRegistry) := rfl
  have byCsv : (mapSettings.negotiatorOver builtInRegistry).negotiate
      (Negotiator.textQuery "topp:states") = .ok ⟨BuiltIn.csv, "csv"⟩ := rfl
  obtain ⟨onlyAdds, unnamed⟩ := added_formats_take_nothing_over mapSettings full starts
  obtain ⟨few, fewStarts, serves, _⟩ := onlyAdds [] leading
  obtain rfl := Except.ok.inj (builtIn.symm.trans fewStarts)
  exact ⟨full, starts, leading, byCsv, serves _ _ byCsv, known, unnamed _ known rfl rfl⟩

end FeatureService
