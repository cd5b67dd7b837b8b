import FeatureService.Json.Layout
import FeatureService.Operation.Parameters
import FeatureService.Text.Lowercase

/-!
# Operations

An incoming operation as far as the choice of an encoder depends on it: its
kind, its parameters and what it asks for. The requested output format is the
textual form of one parameter.
-/

namespace FeatureService

structure OperationKind where
  name : String
  deriving DecidableEq

namespace OperationKind

def getFeature : OperationKind := ⟨"GetFeature"⟩

def getFeatureWithLock : OperationKind := ⟨"GetFeatureWithLock"⟩

/-- Kinds are compared ignoring ASCII case. -/
def isNamed (kind : OperationKind) (name : String) : Bool :=
  Text.equalIgnoringCase kind.name name

end OperationKind

inductive ResultType where
  /-- The features themselves. -/
  | results
  /-- Only the number of matching features. -/
  | hits
  /-- A check of the request, without output. -/
  | validate
  deriving DecidableEq

/-- A word that names no result type, in lower case. -/
structure UnknownResultType where
  word : String
  deriving DecidableEq

namespace UnknownResultType

def message (error : UnknownResultType) : String :=
  "unknown result type: " ++ error.word

end UnknownResultType

namespace ResultType

def name : ResultType → String
  | results => "results"
  | hits => "hits"
  | validate => "validate"

def all : List ResultType := [results, hits, validate]

/-- The result type that a word names after full lower-casing. -/
def parse (word : String) : Except UnknownResultType ResultType :=
  let small := Text.lowercase word
  match all.find? fun resultType => resultType.name == small with
  | some resultType => .ok resultType
  | none => .error ⟨small⟩

end ResultType

structure Operation where
  kind : OperationKind
  parameters : Parameters
  resultType : ResultType

namespace Operation

def outputFormatKey : String := "outputFormat"

def new (kind : OperationKind) (resultType : ResultType) : Operation :=
  ⟨kind, .empty, resultType⟩

def withParameter (operation : Operation) (key : String) (value : Json) : Operation :=
  { operation with parameters := operation.parameters.set key value }

def parameter? (operation : Operation) (key : String) : Option Json :=
  operation.parameters.get? key

/-- The label that a value of the format parameter stands for: a text stands for
itself and null for no label; every other value is written out. -/
def formatLabel? : Json → Option String
  | .null => none
  | .text label => some label
  | value => some value.render

def outputFormat? (operation : Operation) : Option String :=
  (operation.parameter? outputFormatKey).bind formatLabel?

end Operation

end FeatureService
