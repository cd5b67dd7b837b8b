import FeatureService.Proofs.Negotiation.Dependence

/-!
# Values that cannot be told apart

A negotiation looks at parameters through a few questions: whether a value is
null, whether it names one feature type and which format it stands for. Under
one key, values that give the same answers can take each other's place, whatever
else an operation holds and in whatever letter case its keys are written.
-/

namespace FeatureService

namespace Predicate

/-- The predicates that are told by a name, and not by a function. -/
inductive Standard : Predicate → Prop where
  | acceptAll : Standard .acceptAll
  | singleFeatureType : Standard .singleFeatureType
  | requiresParameter (key : String) : Standard (.requiresParameter key)

/-- Standard predicates ask for one feature type or for a value other than null. -/
theorem Standard.accepts_eq {predicate : Predicate} (standard : predicate.Standard)
    {first second : Operation}
    (types : (first.parameter? typeNameKey).any namesOneType =
      (second.parameter? typeNameKey).any namesOneType)
    (present : ∀ key, predicate = .requiresParameter key →
      (first.parameter? key).any (fun value => !value.isNull) =
        (second.parameter? key).any fun value => !value.isNull) :
    predicate.accepts first = predicate.accepts second := by
  cases standard with
  | acceptAll => rfl
  | singleFeatureType => exact types
  | requiresParameter key => exact present key rfl

end Predicate

/-- Under a key, a negotiation gets the same answers from both values. -/
structure Json.Interchangeable (key : String) (first second : Json) : Prop where
  presence : first.isNull = second.isNull
  types : Text.equalIgnoringCase key Predicate.typeNameKey = true →
    Predicate.namesOneType first = Predicate.namesOneType second
  format : Text.equalIgnoringCase key Operation.outputFormatKey = true →
    Operation.formatLabel? first = Operation.formatLabel? second

/-- What is asked of a parameter has the same answer for two values of a key if it
has for the values themselves, as far as the key can be meant. -/
theorem Operation.asked_eq {β : Type} (ask : Option Json → β) {key asked : String}
    {first second : Json} (operation : Operation)
    (same : Text.equalIgnoringCase key asked = true → ask (some first) = ask (some second)) :
    ask ((operation.withParameter key first).parameter? asked) =
      ask ((operation.withParameter key second).parameter? asked) := by
  simp only [parameter?, withParameter]
  rcases operation.parameters.get?_set_cases key asked with ⟨isAlike, found⟩ | kept
  · rw [found, found, same isAlike]
  · rw [kept, kept]

namespace Negotiator

variable {negotiator : Negotiator} {key : String} {first second : Json}

theorem negotiate_eq_of_interchangeable
    (standard : ∀ encoder ∈ negotiator.registry.encoders, encoder.descriptor.predicate.Standard)
    (same : first.Interchangeable key second) (operation : Operation) :
    negotiator.negotiate (operation.withParameter key first) =
      negotiator.negotiate (operation.withParameter key second) := by
  have named : (operation.withParameter key first).outputFormat? =
      (operation.withParameter key second).outputFormat? :=
    operation.asked_eq (·.bind Operation.formatLabel?) same.format
  refine negotiate_eq_of_same_kind rfl rfl named fun encoder mem => ?_
  apply (standard encoder mem).accepts_eq
  · exact operation.asked_eq (·.any Predicate.namesOneType) same.types
  · intro required _
    refine operation.asked_eq (·.any fun value => !value.isNull) fun _ => ?_
    rw [Option.any_some, Option.any_some, same.presence]

end Negotiator

end FeatureService
