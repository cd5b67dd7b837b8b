import FeatureService.Proofs.List.LeastPlace
import FeatureService.Proofs.Negotiation.NamedFormat

/-!
# The outcome of a negotiation

An operation is served by the encoder at the least place among those that
declare its format and accept it. Otherwise it is refused, and of the reasons
the first that applies is given: the kind of the operation, then what it asks
for, then the encoders. Which reason that is depends on no encoder unless the
operation is a query for results.
-/

namespace FeatureService

/-! ## Who can serve an operation -/

/-- The encoder declares the format of the operation, where one is named, and
accepts the operation. -/
structure Encoder.Suits (encoder : Encoder) (operation : Operation) : Prop where
  declares : ∀ format, operation.outputFormat? = some format →
    format ∈ encoder.descriptor.aliases
  accepts : encoder.descriptor.predicate.accepts operation = true

namespace Negotiator

variable {negotiator : Negotiator} {operation : Operation}

theorem suits_iff (encoder : Encoder) (operation : Operation) :
    encoder.Suits operation ↔
      offers operation.outputFormat? encoder = true ∧
        encoder.descriptor.accepts operation = true := by
  rw [offers, Option.all_eq_true]
  simp only [Descriptor.declares_iff]
  constructor
  · rintro ⟨declares, accepts⟩
    exact ⟨declares, accepts⟩
  · rintro ⟨declares, accepts⟩
    exact ⟨declares, accepts⟩

/-- The kind equals one that is recognized, ignoring ASCII case. -/
def Recognizes (negotiator : Negotiator) (kind : OperationKind) : Prop :=
  ∃ known ∈ negotiator.recognized, Text.equalIgnoringCase known.name kind.name = true

theorem recognizes_iff (negotiator : Negotiator) (kind : OperationKind) :
    negotiator.recognizes kind = true ↔ negotiator.Recognizes kind :=
  List.any_eq_true

/-- The encoder is the one that serves the operation. -/
structure Serves (negotiator : Negotiator) (operation : Operation) (encoder : Encoder) :
    Prop where
  known : negotiator.Recognizes operation.kind
  asks : operation.resultType = .results
  chosen : ∃ place, LeastWith (fun other : Encoder => other.Suits operation)
    negotiator.registry.encoders place encoder

/-- The reason for which the operation is refused. -/
inductive Refuses (negotiator : Negotiator) (operation : Operation) : MismatchReason → Prop where
  | unrecognized (unknown : ¬ negotiator.Recognizes operation.kind) :
      Refuses negotiator operation .unrecognizedOperation
  | nonResult (known : negotiator.Recognizes operation.kind)
      (asks : operation.resultType ≠ .results) : Refuses negotiator operation .nonResultRequest
  | unsuited (known : negotiator.Recognizes operation.kind) (asks : operation.resultType = .results)
      (nobody : ∀ encoder ∈ negotiator.registry.encoders, ¬ encoder.Suits operation) :
      Refuses negotiator operation .noAcceptingEncoder

def firstSuited? (negotiator : Negotiator) (operation : Operation) : Option Encoder :=
  (negotiator.registry.encoders.filter (offers operation.outputFormat?)).find? fun encoder =>
    encoder.descriptor.accepts operation

theorem firstSuited?_eq_some_iff (encoder : Encoder) :
    negotiator.firstSuited? operation = some encoder ↔
      ∃ place, LeastWith (fun other : Encoder => other.Suits operation)
        negotiator.registry.encoders place encoder := by
  rw [firstSuited?, List.find?_filter, find?_eq_some_iff_leastWith]
  simp only [decide_eq_true_eq, ← suits_iff]

theorem firstSuited?_eq_none_iff :
    negotiator.firstSuited? operation = none ↔
      ∀ encoder ∈ negotiator.registry.encoders, ¬ encoder.Suits operation := by
  rw [firstSuited?, List.find?_filter, List.find?_eq_none]
  simp only [decide_eq_true_eq, ← suits_iff]

theorem negotiate_of_query (known : negotiator.Recognizes operation.kind)
    (asks : operation.resultType = .results) :
    negotiator.negotiate operation = (negotiator.firstSuited? operation).elim
      (.error ⟨operation.kind.name, operation.outputFormat?, .noAcceptingEncoder⟩) .ok :=
  negotiate_of_eligible negotiator operation ((negotiator.recognizes_iff _).mpr known) asks

theorem Serves.negotiate_eq {encoder : Encoder} (serves : negotiator.Serves operation encoder) :
    negotiator.negotiate operation = .ok encoder := by
  have found := (firstSuited?_eq_some_iff encoder).mpr serves.chosen
  rw [negotiate_of_query serves.known serves.asks, found, Option.elim_some]

theorem Refuses.negotiate_eq {reason : MismatchReason}
    (refuses : negotiator.Refuses operation reason) :
    negotiator.negotiate operation =
      .error ⟨operation.kind.name, operation.outputFormat?, reason⟩ := by
  cases refuses with
  | unrecognized unknown =>
      rw [← recognizes_iff, Bool.not_eq_true] at unknown
      simp only [negotiate, unknown, Bool.not_false, if_true]
  | nonResult known asks =>
      rw [← recognizes_iff] at known
      simp only [negotiate, known, Bool.not_true, Bool.false_eq_true, if_false, ne_eq, asks,
        not_false_eq_true, if_true]
  | unsuited known asks nobody =>
      rw [negotiate_of_query known asks, firstSuited?_eq_none_iff.mpr nobody, Option.elim_none]

theorem serves_or_refuses (negotiator : Negotiator) (operation : Operation) :
    (∃ encoder, negotiator.Serves operation encoder) ∨
      ∃ reason, negotiator.Refuses operation reason := by
  by_cases known : negotiator.Recognizes operation.kind
  · by_cases asks : operation.resultType = .results
    · cases found : negotiator.firstSuited? operation with
      | some encoder =>
          exact .inl ⟨encoder, known, asks, (firstSuited?_eq_some_iff encoder).mp found⟩
      | none => exact .inr ⟨_, .unsuited known asks (firstSuited?_eq_none_iff.mp found)⟩
    · exact .inr ⟨_, .nonResult known asks⟩
  · exact .inr ⟨_, .unrecognized known⟩

/-- An operation is served by the encoder at the least place among those that
suit it, and else refused for the first reason that applies, with its kind and
its format as they are. -/
theorem negotiation_outcome (negotiator : Negotiator) (operation : Operation) :
    (∀ encoder, negotiator.negotiate operation = .ok encoder ↔
      negotiator.Serves operation encoder) ∧
    ∀ error, negotiator.negotiate operation = .error error ↔
      error.kind = operation.kind.name ∧ error.outputFormat = operation.outputFormat? ∧
        negotiator.Refuses operation error.reason := by
  refine ⟨fun encoder => ⟨fun served => ?_, Serves.negotiate_eq⟩,
    fun error => ⟨fun refused => ?_, ?_⟩⟩
  · rcases negotiator.serves_or_refuses operation with ⟨other, serves⟩ | ⟨reason, refuses⟩
    · obtain rfl := Except.ok.inj (serves.negotiate_eq.symm.trans served)
      exact serves
    · cases refuses.negotiate_eq.symm.trans served
  · rcases negotiator.serves_or_refuses operation with ⟨encoder, serves⟩ | ⟨reason, refuses⟩
    · cases serves.negotiate_eq.symm.trans refused
    · obtain rfl := Except.error.inj (refuses.negotiate_eq.symm.trans refused)
      exact ⟨rfl, rfl, refuses⟩
  · obtain ⟨kind, format, reason⟩ := error
    rintro ⟨rfl, rfl, refuses⟩
    exact refuses.negotiate_eq

/-- The encoders for one feature type, for GML 2 and for GML 3. -/
def tableFirst : Negotiator :=
  ⟨⟨[⟨BuiltIn.csv, "csv"⟩, ⟨BuiltIn.gml2, "GML2"⟩, ⟨BuiltIn.gml3, "GML3"⟩], []⟩, [.getFeature]⟩

/-- A query for two feature types, its kind in capitals, that names no format. -/
def twoTypes : Operation :=
  (Operation.new ⟨"GETFEATURE"⟩ .results).withParameter "typeName"
    (.text "topp:states,topp:roads")

/-- A request of another kind that asks for a number and names a format by one. -/
def foreignCount : Operation :=
  (Operation.new ⟨"DescribeFeature"⟩ .hits).withParameter "OUTPUTFORMAT" (.number (.integer 7))

/-- A query for two types passes over the first encoder and does not reach the
third. Where all reasons for a refusal apply, the kind of the operation counts. -/
theorem negotiation_outcome_tableFirst :
    tableFirst.negotiate twoTypes = .ok ⟨BuiltIn.gml2, "GML2"⟩ ∧
      tableFirst.negotiate foreignCount =
        .error ⟨"DescribeFeature", some "7", .unrecognizedOperation⟩ := by
  constructor
  · have unnamed : twoTypes.outputFormat? = none := rfl
    have suits : Encoder.Suits ⟨BuiltIn.gml2, "GML2"⟩ twoTypes := by
      refine ⟨fun format named => ?_, rfl⟩
      rw [unnamed] at named
      cases named
    refine ((negotiation_outcome tableFirst _).1 _).mpr
      ⟨⟨.getFeature, by decide, by decide⟩, rfl, 1, rfl, suits, fun i other there otherSuits => ?_⟩
    cases i with
    | zero =>
        obtain rfl := Option.some.inj there
        exact absurd otherSuits.accepts (by decide)
    | succ i => exact Nat.le_add_left 1 i
  · refine ((negotiation_outcome tableFirst foreignCount).2 _).mpr ⟨rfl, rfl, .unrecognized ?_⟩
    rintro ⟨known, mem, alike⟩
    obtain rfl := List.mem_singleton.mp mem
    exact absurd alike (by decide)

end Negotiator

end FeatureService
