import FeatureService.Proofs.Json.Compact
import FeatureService.Proofs.Negotiation.Choice
import FeatureService.Proofs.Negotiation.Interchange
import FeatureService.Service.BuiltIn

/-!
# Formats that are not given as text

The format of an operation may be any value. One that is no text stands for the
text that it is written as, so encoders are found as if that text had been
given, and only those that declare it. Null stands for no format and hides the
format under a key in other letter case: the operation fares as if no such key
were there.
-/

namespace FeatureService

namespace Operation

variable {value : Json}

theorem formatLabel?_of_not_text (notNull : value ≠ .null) (notText : ∀ text, value ≠ .text text) :
    formatLabel? value = some value.render := by
  cases value with
  | null => exact absurd rfl notNull
  | text text => exact absurd rfl (notText text)
  | boolean _ | number _ | array _ | object _ => rfl

/-- A value other than null can be given as the text that it is written as. -/
theorem interchangeable_render (notNull : value ≠ .null) (notText : ∀ text, value ≠ .text text) :
    value.Interchangeable outputFormatKey (.text value.render) where
  presence := by
    cases value with
    | null => exact absurd rfl notNull
    | boolean _ | number _ | text _ | array _ | object _ => rfl
  types isType := absurd isType (by decide)
  format _ := formatLabel?_of_not_text notNull notText

theorem outputFormat?_withParameter (operation : Operation) (value : Json) :
    (operation.withParameter outputFormatKey value).outputFormat? = formatLabel? value := by
  rw [outputFormat?, parameter?_withParameter_self, Option.bind_some]

/-- The operation without the parameters whose keys equal the key of the format
ignoring ASCII case. -/
def withoutFormat (operation : Operation) : Operation :=
  { operation with
    parameters := operation.parameters.only fun key => !Text.equalIgnoringCase key outputFormatKey }

theorem outputFormat?_withoutFormat (operation : Operation) :
    operation.withoutFormat.outputFormat? = none := by
  have absent := operation.parameters.get?_only_unlike outputFormatKey
  rw [outputFormat?, parameter?, withoutFormat, absent, Option.bind_none]

theorem parameter?_withoutFormat {asked : String}
    (apart : Text.equalIgnoringCase asked outputFormatKey = false) (operation : Operation)
    (value : Json) :
    (operation.withParameter outputFormatKey value).parameter? asked =
      operation.withoutFormat.parameter? asked := by
  apply Parameters.AgreeOn.get?_eq
  intro other isAlike
  have unlike : Text.equalIgnoringCase other outputFormatKey = false :=
    (Text.equalIgnoringCase_eq_of_alike isAlike _).trans apart
  have different : other ≠ outputFormatKey := by
    rintro rfl
    rw [Text.equalIgnoringCase_refl] at unlike
    cases unlike
  exact (Parameters.valueAt?_set_of_ne value operation.parameters different).trans
    (Parameters.valueAt?_only (by rw [unlike, Bool.not_false]) operation.parameters).symm

end Operation

namespace Negotiator

open Operation (outputFormatKey)

variable {negotiator : Negotiator}

/-- An encoder offers a format that is given by a value if it declares the text
that the value is written as. -/
theorem offers_value_iff {value : Json} (notNull : value ≠ .null)
    (notText : ∀ text, value ≠ .text text) (operation : Operation) (encoder : Encoder) :
    offers (operation.withParameter outputFormatKey value).outputFormat? encoder = true ↔
      value.render ∈ encoder.descriptor.aliases := by
  rw [Operation.outputFormat?_withParameter, Operation.formatLabel?_of_not_text notNull notText]
  exact Descriptor.declares_iff ..

/-- Null for the format is as good as no key for it. -/
theorem negotiate_null_format
    (standard : ∀ encoder ∈ negotiator.registry.encoders, encoder.descriptor.predicate.Standard)
    (unneeded : ∀ encoder ∈ negotiator.registry.encoders, ∀ key,
      encoder.descriptor.predicate = .requiresParameter key →
        Text.equalIgnoringCase key outputFormatKey = false)
    (operation : Operation) :
    negotiator.negotiate (operation.withParameter outputFormatKey .null) =
      negotiator.negotiate operation.withoutFormat := by
  have unnamed : (operation.withParameter outputFormatKey .null).outputFormat? =
      operation.withoutFormat.outputFormat? := by
    rw [Operation.outputFormat?_withParameter, Operation.outputFormat?_withoutFormat]
    rfl
  refine negotiate_eq_of_same_kind rfl rfl unnamed fun encoder mem => ?_
  apply (standard encoder mem).accepts_eq
  · rw [Operation.parameter?_withoutFormat (by decide)]
  · intro key required
    rw [Operation.parameter?_withoutFormat (unneeded encoder mem key required)]

/-- A format that is neither null nor a text stands for the compact text of its
value: every negotiation ends as if the text had been given, and encoders are
found that declare exactly this text, for a whole number its decimal text. Null
for the format is as good as no key for it, as long as no encoder requires one. -/
theorem formats_match_by_text (negotiator : Negotiator)
    (standard : ∀ encoder ∈ negotiator.registry.encoders, encoder.descriptor.predicate.Standard)
    (operation : Operation) :
    Json.Compact Json.render ∧
    (∀ value : Json, value ≠ .null → (∀ text, value ≠ .text text) →
      let given := operation.withParameter outputFormatKey value
      negotiator.negotiate given =
          negotiator.negotiate (operation.withParameter outputFormatKey (.text value.render)) ∧
        (∀ encoder, offers given.outputFormat? encoder = true ↔
          value.render ∈ encoder.descriptor.aliases) ∧
        ∀ encoder, negotiator.negotiate given = .ok encoder →
          value.render ∈ encoder.descriptor.aliases) ∧
    (∀ (number : Int) (encoder : Encoder),
      negotiator.negotiate
          (operation.withParameter outputFormatKey (.number (.integer number))) = .ok encoder →
        toString number ∈ encoder.descriptor.aliases) ∧
    ((∀ encoder ∈ negotiator.registry.encoders, ∀ key,
        encoder.descriptor.predicate = .requiresParameter key →
          Text.equalIgnoringCase key outputFormatKey = false) →
      negotiator.negotiate (operation.withParameter outputFormatKey .null) =
        negotiator.negotiate operation.withoutFormat) := by
  have declared (value : Json) (notNull : value ≠ .null) (notText : ∀ text, value ≠ .text text)
      (encoder : Encoder)
      (served : negotiator.negotiate (operation.withParameter outputFormatKey value) =
        .ok encoder) : value.render ∈ encoder.descriptor.aliases :=
    (offers_value_iff notNull notText operation encoder).mp (offers_of_served served).2.1
  refine ⟨Json.compact_render, fun value notNull notText => ⟨?_, ?_, ?_⟩,
    fun number encoder served => ?_, fun unneeded => ?_⟩
  · exact negotiate_eq_of_interchangeable standard
      (Operation.interchangeable_render notNull notText) operation
  · exact offers_value_iff notNull notText operation
  · exact declared value notNull notText
  · rw [← Json.compact_render.integer]
    exact declared (.number (.integer number)) nofun nofun encoder served
  · exact negotiate_null_format standard unneeded operation

/-- An encoder whose aliases are texts of other values. -/
def numbered : Descriptor :=
  { BuiltIn.gml3 with
    aliases := ["1", "[1,true]"]
    aliases_ne_nil := by decide
    aliases_nodup := by decide
    empty_not_mem := by decide }

/-- Encoders for one feature type, for GML 2 and for versions by number. -/
def versioned : Negotiator :=
  ⟨⟨[⟨BuiltIn.csv, "csv"⟩, ⟨BuiltIn.gml2, "GML2"⟩, ⟨numbered, "GML3"⟩], []⟩, [.getFeature]⟩

def shoutedQuery : Operation :=
  (Operation.new .getFeature .results).withParameter "OUTPUTFORMAT" (.text "csv")

def listedFormat : Json :=
  .array [.number (.integer 1), .boolean true]

theorem standard_versioned :
    ∀ encoder ∈ versioned.registry.encoders, encoder.descriptor.predicate.Standard := by
  intro encoder mem
  simp only [versioned, List.mem_cons, List.not_mem_nil, or_false] at mem
  rcases mem with rfl | rfl | rfl
  · exact .singleFeatureType
  · exact .acceptAll
  · exact .acceptAll

/-- A number and a list find the encoder that declares their texts, another number
finds none, and null finds the first encoder that accepts, in spite of the key
in capitals. -/
theorem formats_match_by_text_versions :
    versioned.negotiate (shoutedQuery.withParameter "outputFormat" listedFormat) =
        .ok ⟨numbered, "GML3"⟩ ∧
      listedFormat.render ∈ numbered.aliases ∧
      versioned.negotiate (shoutedQuery.withParameter "outputFormat" (.number (.integer 1))) =
        .ok ⟨numbered, "GML3"⟩ ∧
      toString (1 : Int) ∈ numbered.aliases ∧
      versioned.negotiate (shoutedQuery.withParameter "outputFormat" (.number (.integer 2))) =
        .error ⟨"GetFeature", some "2", .noAcceptingEncoder⟩ ∧
      versioned.negotiate (shoutedQuery.withParameter "outputFormat" .null) =
        .ok ⟨BuiltIn.gml2, "GML2"⟩ := by
  obtain ⟨_, rendered, numbers, null⟩ :=
    formats_match_by_text versioned standard_versioned shoutedQuery
  obtain ⟨asText, _, declares⟩ := rendered listedFormat nofun nofun
  obtain ⟨otherAsText, _, _⟩ := rendered (.number (.integer 2)) nofun nofun
  have byList : versioned.negotiate (shoutedQuery.withParameter "outputFormat" listedFormat) =
      .ok ⟨numbered, "GML3"⟩ := asText.trans rfl
  have byNumber :
      versioned.negotiate (shoutedQuery.withParameter "outputFormat" (.number (.integer 1))) =
        .ok ⟨numbered, "GML3"⟩ := rfl
  refine ⟨byList, declares _ byList, byNumber, numbers 1 _ byNumber, otherAsText.trans rfl,
    (null fun encoder mem key required => ?_).trans rfl⟩
  simp only [versioned, List.mem_cons, List.not_mem_nil, or_false] at mem
  rcases mem with rfl | rfl | rfl <;> cases required

end Negotiator

end FeatureService
