import FeatureService.Proofs.Negotiation.Dependence

/-!
# Letter case in operations

The kind of an operation and the keys of its parameters may be written in any
letter case. Each place that reads them folds the case by itself: recognition,
the look-up of parameters and the predicates. Together they see no difference,
as long as the keys of an operation are told apart by more than their case.
-/

namespace FeatureService

namespace Predicate

/-- Accepts operations of a kind, which may be written in any letter case. -/
def kindNamed (name : String) : Predicate :=
  .custom fun operation => operation.kind.isNamed name

/-- Predicates that read kinds and keys in any letter case. -/
inductive IgnoresCase : Predicate → Prop where
  | acceptAll : IgnoresCase .acceptAll
  | singleFeatureType : IgnoresCase .singleFeatureType
  | requiresParameter (key : String) : IgnoresCase (.requiresParameter key)
  | kindNamed (name : String) : IgnoresCase (kindNamed name)

theorem IgnoresCase.accepts_eq {predicate : Predicate} (ignores : predicate.IgnoresCase)
    {first second : Operation}
    (kind : Text.equalIgnoringCase first.kind.name second.kind.name = true)
    (same : ∀ key, first.parameter? key = second.parameter? key) :
    predicate.accepts first = predicate.accepts second := by
  cases ignores with
  | acceptAll => rfl
  | singleFeatureType => rw [accepts, accepts, same]
  | requiresParameter key => rw [accepts, accepts, same]
  | kindNamed name => exact Text.equalIgnoringCase_eq_of_alike kind name

end Predicate

namespace Operation

/-- The operation with its kind and the keys of its parameters written otherwise. -/
def rewritten (kind : String) (rewrite : String → String) (operation : Operation) : Operation :=
  { operation with kind := ⟨kind⟩, parameters := operation.parameters.rekey rewrite }

variable {operation : Operation} {rewrite : String → String}

theorem parameter?_rewritten (unambiguous : operation.parameters.Unambiguous)
    (sameKeys : ∀ key, Text.equalIgnoringCase (rewrite key) key = true) (kind key : String) :
    (operation.rewritten kind rewrite).parameter? key = operation.parameter? key :=
  unambiguous.get?_rekey sameKeys key

theorem outputFormat?_rewritten (unambiguous : operation.parameters.Unambiguous)
    (sameKeys : ∀ key, Text.equalIgnoringCase (rewrite key) key = true) (kind : String) :
    (operation.rewritten kind rewrite).outputFormat? = operation.outputFormat? := by
  rw [outputFormat?, outputFormat?, parameter?_rewritten unambiguous sameKeys]

end Operation

namespace Negotiator

theorem recognizes_eq_of_alike (negotiator : Negotiator) {kind other : OperationKind}
    (alike : Text.equalIgnoringCase kind.name other.name = true) :
    negotiator.recognizes kind = negotiator.recognizes other := by
  have named (known : OperationKind) : known.isNamed kind.name = known.isNamed other.name := by
    rw [OperationKind.isNamed, Text.equalIgnoringCase_comm,
      Text.equalIgnoringCase_eq_of_alike alike, Text.equalIgnoringCase_comm]
    rfl
  simp only [recognizes, named]

/-- The letter case of the kind and of the keys does not change which encoder
serves an operation, nor the format and the reason in an error. -/
theorem negotiate_in_any_case (registry : Registry) (recognized : List OperationKind)
    (operation : Operation) (kind : String) (rewrite : String → String)
    (ignores : ∀ encoder ∈ registry.encoders, encoder.descriptor.predicate.IgnoresCase)
    (unambiguous : operation.parameters.Unambiguous)
    (sameKind : Text.equalIgnoringCase kind operation.kind.name = true)
    (sameKeys : ∀ key, Text.equalIgnoringCase (rewrite key) key = true) :
    let negotiator : Negotiator := ⟨registry, recognized⟩
    negotiator.negotiate (operation.rewritten kind rewrite) =
      (negotiator.negotiate operation).mapError fun error => { error with kind } := by
  intro negotiator
  have lookups := Operation.parameter?_rewritten unambiguous sameKeys kind
  exact negotiate_eq_mapError (negotiator.recognizes_eq_of_alike sameKind) rfl
    (Operation.outputFormat?_rewritten unambiguous sameKeys kind)
    fun encoder mem => (ignores encoder mem).accepts_eq sameKind lookups

def lockWriter : Descriptor where
  aliases := ["lock"]
  predicate := .kindNamed "getfeaturewithlock"
  identifierOverride := none
  typeName := none
  mimeType := "text/xml"
  publishMode := .primary

/-- Writes two keys otherwise, so that they change places in the order. -/
def swapCase (key : String) : String :=
  if key = "OUTPUTFORMAT" then "outputFormat"
  else if key = "typeName" then "TYPENAME"
  else key

theorem swapCase_alike (key : String) : Text.equalIgnoringCase (swapCase key) key = true := by
  unfold swapCase
  split
  · rename_i same
    subst same
    rfl
  · split
    · rename_i same
      subst same
      rfl
    · exact Text.equalIgnoringCase_refl key

theorem unambiguous_textQuery (types : String) : (textQuery types).parameters.Unambiguous := by
  have entries : (textQuery types).parameters.entries =
      [("OUTPUTFORMAT", .text "text/csv"), ("typeName", .text types)] := rfl
  have apart : Text.equalIgnoringCase "OUTPUTFORMAT" "typeName" = false := by decide
  have apartBack : Text.equalIgnoringCase "typeName" "OUTPUTFORMAT" = false := by decide
  intro first held second otherHeld alike
  rw [entries] at held otherHeld
  simp only [List.mem_cons, List.not_mem_nil, or_false] at held otherHeld
  rcases held with rfl | rfl <;> rcases otherHeld with rfl | rfl <;> simp_all

/-- A query in other letter case is served or refused as before, though its
parameters stand in another order. -/
theorem negotiate_in_any_case_csv :
    let draft := RegistryDraft.empty.offerAll [lockWriter, BuiltIn.csv]
    let registry : Registry := ⟨[⟨lockWriter, "lock"⟩, ⟨BuiltIn.csv, "csv"⟩], draft.owners⟩
    let negotiator : Negotiator := ⟨registry, [.getFeature]⟩
    draft.build.outcome = .ok registry ∧
      (∀ encoder ∈ registry.encoders, encoder.descriptor.predicate.IgnoresCase) ∧
      (∀ types, (textQuery types).parameters.Unambiguous ∧
        (textQuery types).parameters.entries.map Prod.fst = ["OUTPUTFORMAT", "typeName"] ∧
        ((textQuery types).rewritten "GETFEATURE" swapCase).parameters.entries.map Prod.fst =
          ["TYPENAME", "outputFormat"]) ∧
      negotiator.negotiate ((textQuery "topp:states").rewritten "GETFEATURE" swapCase) =
        .ok ⟨BuiltIn.csv, "csv"⟩ ∧
      negotiator.negotiate ((textQuery "topp:states,topp:roads").rewritten "GETFEATURE" swapCase) =
        .error ⟨"GETFEATURE", some "text/csv", .noAcceptingEncoder⟩ := by
  intro draft registry negotiator
  have ignores : ∀ encoder ∈ registry.encoders, encoder.descriptor.predicate.IgnoresCase := by
    intro encoder mem
    rcases List.mem_cons.mp mem with rfl | mem
    · exact .kindNamed _
    · obtain rfl := List.mem_singleton.mp mem
      exact .singleFeatureType
  have sameKind : Text.equalIgnoringCase "GETFEATURE" "GetFeature" = true := by decide
  have fares (types : String) := negotiate_in_any_case registry [.getFeature] (textQuery types)
    "GETFEATURE" swapCase ignores (unambiguous_textQuery types) sameKind swapCase_alike
  refine ⟨rfl, ignores, fun types => ⟨unambiguous_textQuery types, rfl, ?_⟩, fares _, fares _⟩
  have written : (textQuery types).parameters.entries.map
      (fun entry => (swapCase entry.1, entry.2)) =
      [("outputFormat", .text "text/csv"), ("TYPENAME", .text types)] := rfl
  rw [Operation.rewritten, Parameters.rekey, written]
  rfl

end Negotiator

end FeatureService
