import FeatureService.Proofs.Negotiation.Dependence
import FeatureService.Proofs.Service.Extension

/-!
# Parameters that count

The settings of a service say which parameters its negotiations look at. All
others may be added, changed or left out, and every operation fares as before.
-/

namespace FeatureService

namespace FormatSettings

/-- The encoder of a configured format looks at the parameter that the format
requires, if it requires one. -/
theorem Yields.looksOnlyAt {format : FormatSettings} {descriptor : Descriptor}
    (yields : format.Yields descriptor) :
    descriptor.predicate.LooksOnlyAt format.requiresParameter.toList := by
  rw [yields.predicate]
  cases format.requiresParameter with
  | none => trivial
  | some key => exact List.mem_singleton_self key

end FormatSettings

namespace Predicate

theorem LooksOnlyAt.mono {predicate : Predicate} {keys others : List String}
    (looks : predicate.LooksOnlyAt keys) (among : keys ⊆ others) :
    predicate.LooksOnlyAt others := by
  cases predicate with
  | acceptAll => trivial
  | singleFeatureType => exact among looks
  | requiresParameter key => exact among looks
  | custom accepts => cases looks

end Predicate

namespace BuiltIn

/-- The built-in encoders look at the feature types at most. -/
theorem looksOnlyAt {descriptor : Descriptor} (builtIn : descriptor ∈ descriptors) :
    descriptor.predicate.LooksOnlyAt [Predicate.typeNameKey] := by
  simp only [descriptors, List.mem_cons, List.not_mem_nil, or_false] at builtIn
  rcases builtIn with rfl | rfl | rfl | rfl | rfl
  · trivial
  · trivial
  · trivial
  · exact List.mem_singleton_self _
  · trivial

end BuiltIn

namespace Settings

/-- The keys under which the negotiations of a service look for parameters. -/
def askedKeys (settings : Settings) : List String :=
  Operation.outputFormatKey :: Predicate.typeNameKey ::
    settings.formats.filterMap FormatSettings.requiresParameter

/-- The key equals, ignoring ASCII case, one that is asked for. -/
def Relevant (settings : Settings) (key : String) : Prop :=
  ∃ asked ∈ settings.askedKeys, Text.equalIgnoringCase key asked = true

variable {settings : Settings} {configured : List Descriptor} {registry : Registry}

theorem Started.looksOnlyAt (started : settings.Started configured registry) {encoder : Encoder}
    (mem : encoder ∈ registry.encoders) :
    encoder.descriptor.predicate.LooksOnlyAt settings.askedKeys := by
  have described := ((started.mem_encoders_iff encoder).mp mem).1
  rcases List.mem_append.mp described with builtIn | fromSettings
  · refine (BuiltIn.looksOnlyAt builtIn).mono fun key asked => ?_
    rw [List.mem_singleton.mp asked]
    exact List.mem_cons_of_mem _ (List.mem_cons_self ..)
  · have built : Except.ok encoder.descriptor ∈ settings.formats.map FormatSettings.descriptor := by
      rw [(describe_iff _ _).mp started.described]
      exact List.mem_map_of_mem fromSettings
    obtain ⟨format, isFormat, same⟩ := List.mem_map.mp built
    have yields := (format.descriptor_eq_ok_iff _).mp same
    refine yields.looksOnlyAt.mono fun key required => ?_
    exact List.mem_cons_of_mem _ (List.mem_cons_of_mem _
      (List.mem_filterMap.mpr ⟨format, isFormat, Option.mem_toList.mp required⟩))

/-- Operations of one kind that ask for the same and agree on all relevant
parameters fare alike. -/
theorem Started.negotiate_eq_of_agree (started : settings.Started configured registry)
    (recognized : List OperationKind) {first second : Operation}
    (kind : first.kind = second.kind) (asks : first.resultType = second.resultType)
    (agree : ∀ key, settings.Relevant key →
      first.parameters.valueAt? key = second.parameters.valueAt? key) :
    (Negotiator.mk registry recognized).negotiate first =
      (Negotiator.mk registry recognized).negotiate second := by
  have lookups : ∀ key ∈ settings.askedKeys, first.parameter? key = second.parameter? key :=
    fun key asked => Parameters.AgreeOn.get?_eq fun other alike => agree other ⟨key, asked, alike⟩
  have named : first.outputFormat? = second.outputFormat? := by
    rw [Operation.outputFormat?, Operation.outputFormat?,
      lookups Operation.outputFormatKey (List.mem_cons_self ..)]
  exact Negotiator.negotiate_eq_of_same_kind kind asks named fun encoder mem =>
    (started.looksOnlyAt mem).accepts_eq lookups

end Settings

/-- Parameters that are not relevant to a service do not count: operations that
agree on the relevant ones fare alike, so that others can be set to anything or
left out. -/
theorem irrelevant_parameters_do_not_count (settings : Settings) (registry : Registry)
    (starts : settings.registry.outcome = .ok registry) (recognized : List OperationKind) :
    let negotiator : Negotiator := ⟨registry, recognized⟩
    (∀ first second : Operation, first.kind = second.kind →
      first.resultType = second.resultType →
      (∀ key, settings.Relevant key →
        first.parameters.valueAt? key = second.parameters.valueAt? key) →
      negotiator.negotiate first = negotiator.negotiate second) ∧
    (∀ (operation : Operation) (key : String) (value : Json), ¬ settings.Relevant key →
      negotiator.negotiate (operation.withParameter key value) = negotiator.negotiate operation) ∧
    ∀ (operation : Operation) (keep : String → Bool),
      (∀ key, settings.Relevant key → keep key = true) →
      negotiator.negotiate { operation with parameters := operation.parameters.only keep } =
        negotiator.negotiate operation := by
  intro negotiator
  obtain ⟨configured, started⟩ := Settings.started_of_outcome starts
  refine ⟨?_, ?_, ?_⟩
  · intro first second kind asks agree
    exact started.negotiate_eq_of_agree recognized kind asks agree
  · intro operation key value irrelevant
    refine started.negotiate_eq_of_agree recognized rfl rfl fun other relevant => ?_
    have apart : other ≠ key := by
      rintro rfl
      exact irrelevant relevant
    exact Parameters.valueAt?_set_of_ne value operation.parameters apart
  · intro operation keep kept
    refine started.negotiate_eq_of_agree recognized rfl rfl fun key relevant => ?_
    exact Parameters.valueAt?_only (kept key relevant) operation.parameters

/-- Settings with two formats that require parameters, one of them a parameter
that a built-in format looks at in other letter case. -/
def filterSettings : Settings where
  formats :=
    [{ aliases := ["kml"], requiresParameter := some "Filter" },
     { aliases := ["svg"], requiresParameter := some "TYPENAME" }]

/-- A query for a format that requires a parameter, which is there. -/
def filteredQuery : Operation :=
  ((Operation.new .getFeature .results).withParameter "outputFormat" (.text "kml"))
    |>.withParameter "FILTER" (.text "population > 0")

/-- A parameter that no format requires neither helps nor harms a query, and the
parameter that its format requires is relevant in any letter case. -/
theorem irrelevant_parameters_do_not_count_filter :
    ∃ registry, filterSettings.registry.outcome = .ok registry ∧
      ¬ filterSettings.Relevant "srsName" ∧ filterSettings.Relevant "FILTER" ∧
      let negotiator : Negotiator := ⟨registry, [.getFeature]⟩
      ∃ encoder, encoder.identifier = "kml" ∧
        (∀ value, negotiator.negotiate (filteredQuery.withParameter "srsName" value) =
          .ok encoder) ∧
        negotiator.negotiate
          { filteredQuery with parameters := filteredQuery.parameters.only (· != "srsName") } =
          .ok encoder := by
  obtain ⟨registry, starts, encoder, named, served⟩ : ∃ registry,
      filterSettings.registry.outcome = .ok registry ∧ ∃ encoder, encoder.identifier = "kml" ∧
      (Negotiator.mk registry [.getFeature]).negotiate filteredQuery = .ok encoder :=
    ⟨_, rfl, _, rfl, rfl⟩
  have irrelevant : ¬ filterSettings.Relevant "srsName" := by
    rintro ⟨asked, mem, alike⟩
    have apart : ∀ key ∈ filterSettings.askedKeys,
        Text.equalIgnoringCase "srsName" key = false := by decide
    rw [apart asked mem] at alike
    cases alike
  have relevant : filterSettings.Relevant "FILTER" := ⟨"Filter", by decide, by decide⟩
  obtain ⟨_, others, dropped⟩ :=
    irrelevant_parameters_do_not_count filterSettings registry starts [.getFeature]
  refine ⟨registry, starts, irrelevant, relevant, encoder, named, fun value => ?_, ?_⟩
  · exact (others filteredQuery "srsName" value irrelevant).trans served
  · refine (dropped filteredQuery _ fun key isRelevant => bne_iff_ne.mpr ?_).trans served
    rintro rfl
    exact irrelevant isRelevant

end FeatureService
