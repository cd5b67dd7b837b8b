import FeatureService.Operation.Basic

/-!
# Predicates

A predicate decides whether an encoder can serve an operation beyond the format
that the operation names.
-/

namespace FeatureService

inductive Predicate where
  | acceptAll
  /-- Operations that query exactly one feature type. -/
  | singleFeatureType
  /-- Operations with a value other than null for a parameter. -/
  | requiresParameter (key : String)
  /-- Operations that a function accepts. -/
  | custom (accepts : Operation → Bool)

namespace Predicate

def typeNameKey : String := "typeName"

/-- Whether a value names one feature type: a text without a comma, or an array
of one item. -/
def namesOneType : Json → Bool
  | .text names => !names.toList.isEmpty && !names.toList.contains ','
  | .array names => names.length == 1
  | _ => false

def accepts : Predicate → Operation → Bool
  | acceptAll, _ => true
  | singleFeatureType, operation => (operation.parameter? typeNameKey).any namesOneType
  | requiresParameter key, operation => (operation.parameter? key).any fun value => !value.isNull
  | custom accepts, operation => accepts operation

end Predicate

end FeatureService
