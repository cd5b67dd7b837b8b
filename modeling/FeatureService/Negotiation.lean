import FeatureService.Registry

/-!
# Negotiation

The choice of the encoder that writes the result of a feature query. Only
recognized operations that ask for results are served. The first encoder in the
order of registration serves the operation that declares the requested format,
where one is named, and whose predicate accepts the operation.
-/

namespace FeatureService

inductive MismatchReason where
  | unrecognizedOperation
  | nonResultRequest
  | noAcceptingEncoder
  deriving DecidableEq

namespace MismatchReason

def message : MismatchReason → String
  | unrecognizedOperation => "operation is not a feature query"
  | nonResultRequest => "request does not ask for results"
  | noAcceptingEncoder => "no registered encoder accepts it"

end MismatchReason

structure NegotiationError where
  kind : String
  outputFormat : Option String
  reason : MismatchReason
  deriving DecidableEq

namespace NegotiationError

def message (error : NegotiationError) : String :=
  "No compatible encoder for " ++ error.kind ++ " (format: "
    ++ error.outputFormat.getD "<any>" ++ "): " ++ error.reason.message

end NegotiationError

/-- A registry with the kinds of operations that are feature queries. -/
structure Negotiator where
  registry : Registry
  recognized : List OperationKind

namespace Negotiator

def defaultRecognized : List String :=
  [OperationKind.getFeature.name, OperationKind.getFeatureWithLock.name]

def recognizes (negotiator : Negotiator) (kind : OperationKind) : Bool :=
  negotiator.recognized.any fun known => known.isNamed kind.name

/-- Whether an encoder declares the requested format, where one is named. -/
def offers (format : Option String) (encoder : Encoder) : Bool :=
  format.all encoder.descriptor.declares

def negotiate (negotiator : Negotiator) (operation : Operation) :
    Except NegotiationError Encoder :=
  let format := operation.outputFormat?
  let refuse (reason : MismatchReason) : Except NegotiationError Encoder :=
    .error ⟨operation.kind.name, format, reason⟩
  if !negotiator.recognizes operation.kind then refuse .unrecognizedOperation
  else if operation.resultType ≠ .results then refuse .nonResultRequest
  else
    match (negotiator.registry.encoders.filter (offers format)).find? fun encoder =>
        encoder.descriptor.accepts operation with
    | some encoder => .ok encoder
    | none => refuse .noAcceptingEncoder

end Negotiator

end FeatureService
