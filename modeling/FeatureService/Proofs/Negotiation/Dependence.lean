import FeatureService.Proofs.Negotiation.NamedFormat
import FeatureService.Proofs.Operation.Lookup
import Mathlib.Data.List.Find

/-!
# What a negotiation depends on

Of an operation a negotiation asks whether its kind is recognized, what it asks
for, which format it names and which encoders accept it. Operations that agree
in these fare alike, apart from the kind that an error repeats.
-/

namespace FeatureService

namespace Predicate

/-- The predicate looks at no more of an operation than the parameters that
these keys name. -/
def LooksOnlyAt (keys : List String) : Predicate → Prop
  | acceptAll => True
  | singleFeatureType => typeNameKey ∈ keys
  | requiresParameter key => key ∈ keys
  | custom _ => False

theorem LooksOnlyAt.accepts_eq {predicate : Predicate} {keys : List String}
    (looks : predicate.LooksOnlyAt keys) {first second : Operation}
    (same : ∀ key ∈ keys, first.parameter? key = second.parameter? key) :
    predicate.accepts first = predicate.accepts second := by
  cases predicate with
  | acceptAll => rfl
  | singleFeatureType => rw [accepts, accepts, same typeNameKey looks]
  | requiresParameter key => rw [accepts, accepts, same key looks]
  | custom accepts => cases looks

end Predicate

namespace Negotiator

variable {negotiator : Negotiator} {first second operation : Operation}

/-- An error repeats the kind of the operation as it is written. -/
theorem kind_of_refused {error : NegotiationError}
    (refused : negotiator.negotiate operation = .error error) :
    error.kind = operation.kind.name := by
  unfold negotiate at refused
  dsimp only at refused
  split at refused
  · rw [← Except.error.inj refused]
  · split at refused
    · rw [← Except.error.inj refused]
    · split at refused
      · cases refused
      · rw [← Except.error.inj refused]

/-- Operations that a negotiator cannot tell apart fare alike, and errors differ
at most in the kind that they repeat. -/
theorem negotiate_eq_mapError
    (known : negotiator.recognizes first.kind = negotiator.recognizes second.kind)
    (asks : first.resultType = second.resultType)
    (named : first.outputFormat? = second.outputFormat?)
    (accepted : ∀ encoder ∈ negotiator.registry.encoders,
      encoder.descriptor.accepts first = encoder.descriptor.accepts second) :
    negotiator.negotiate first =
      (negotiator.negotiate second).mapError fun error => { error with kind := first.kind.name } := by
  have chosen : (negotiator.registry.encoders.filter (offers second.outputFormat?)).find?
        (fun encoder => encoder.descriptor.accepts first) =
      (negotiator.registry.encoders.filter (offers second.outputFormat?)).find?
        (fun encoder => encoder.descriptor.accepts second) :=
    List.find?_congr fun encoder mem => accepted encoder (List.mem_filter.mp mem).1
  unfold negotiate
  simp only [known, asks, named, chosen]
  split
  · rfl
  · split
    · rfl
    · split
      · rfl
      · rfl

/-- Operations of one kind that a negotiator cannot tell apart fare alike. -/
theorem negotiate_eq_of_same_kind (kind : first.kind = second.kind)
    (asks : first.resultType = second.resultType)
    (named : first.outputFormat? = second.outputFormat?)
    (accepted : ∀ encoder ∈ negotiator.registry.encoders,
      encoder.descriptor.accepts first = encoder.descriptor.accepts second) :
    negotiator.negotiate first = negotiator.negotiate second := by
  rw [negotiate_eq_mapError (by rw [kind]) asks named accepted]
  cases outcome : negotiator.negotiate second with
  | ok encoder => rfl
  | error error =>
      have repeated : first.kind.name = error.kind := by rw [kind, kind_of_refused outcome]
      rw [repeated]
      rfl

end Negotiator

end FeatureService
