import FeatureService.Proofs.Negotiation.NamedFormat

/-!
# The encoder that is chosen

What is known of an operation that is served and of the encoder that serves it,
and which encoder serves an operation that names no format.
-/

namespace FeatureService.Negotiator

variable {negotiator : Negotiator} {operation : Operation} {encoder : Encoder}

/-- Only recognized operations that ask for results are served. -/
theorem eligible_of_served (served : negotiator.negotiate operation = .ok encoder) :
    negotiator.recognizes operation.kind = true ∧ operation.resultType = .results := by
  unfold negotiate at served
  dsimp only at served
  split at served
  · cases served
  · rename_i known
    split at served
    · cases served
    · rename_i asks
      exact ⟨by simpa using known, Classical.not_not.mp asks⟩

/-- The encoder that serves an operation offers the format that it names and
accepts it. -/
theorem offers_of_served (served : negotiator.negotiate operation = .ok encoder) :
    encoder ∈ negotiator.registry.encoders ∧ offers operation.outputFormat? encoder = true ∧
      encoder.descriptor.accepts operation = true := by
  obtain ⟨known, asks⟩ := eligible_of_served served
  rw [negotiate_of_eligible negotiator operation known asks] at served
  cases found : (negotiator.registry.encoders.filter (offers operation.outputFormat?)).find?
      fun encoder => encoder.descriptor.accepts operation with
  | none =>
      rw [found] at served
      cases served
  | some chosen =>
      rw [found] at served
      obtain rfl := Except.ok.inj served
      obtain ⟨mem, offered⟩ := List.mem_filter.mp (List.mem_of_find?_eq_some found)
      have accepted := List.find?_some found
      exact ⟨mem, offered, accepted⟩

/-- An operation that names no format is served by the first encoder, if that
one accepts it. -/
theorem negotiate_unnamed {others : List Encoder}
    (known : negotiator.recognizes operation.kind = true) (asks : operation.resultType = .results)
    (unnamed : operation.outputFormat? = none)
    (first : negotiator.registry.encoders = encoder :: others)
    (accepts : encoder.descriptor.accepts operation = true) :
    negotiator.negotiate operation = .ok encoder := by
  have offered : offers operation.outputFormat? encoder = true := by
    rw [unnamed]
    rfl
  rw [negotiate_of_eligible negotiator operation known asks, first,
    List.filter_cons_of_pos offered, List.find?_cons, accepts, Option.elim_some]

/-- A query for the given feature types in text form that names no format. -/
def openQuery (types : String) : Operation :=
  (Operation.new .getFeature .results).withParameter "typeName" (.text types)

end FeatureService.Negotiator
