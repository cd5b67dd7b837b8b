import FeatureService.Json.Document
import FeatureService.Operation.Basic

/-!
# Operations as documents
-/

namespace FeatureService

instance : Document OperationKind where
  toJson kind := .text kind.name
  read levels tree := (Reader.text levels tree).map OperationKind.mk

instance : Document ResultType where
  toJson resultType := .text resultType.name
  read := Reader.word (ResultType.all.map fun resultType => (resultType.name, resultType))

instance : Document Parameters where
  toJson parameters := .object parameters.entries
  read levels tree := (Reader.members Reader.json levels tree).map Parameters.ofList

instance : Document Operation where
  toJson operation := .object
    [("kind", Document.toJson operation.kind),
     ("parameters", Document.toJson operation.parameters),
     ("result_type", Document.toJson operation.resultType)]
  read levels tree := do
    let fields ← Fields.read ["kind", "parameters", "result_type"] levels tree
    let kind ← fields.required "kind" Document.read
    let parameters ← fields.withDefault "parameters" Document.read .empty
    let resultType ← fields.withDefault "result_type" Document.read .results
    some ⟨kind, parameters, resultType⟩

end FeatureService
