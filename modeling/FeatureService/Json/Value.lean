import FeatureService.Binary64.Basic
import FeatureService.Keyed.Ascending

/-!
# JSON values

A value as the service holds it. Whole numbers within 64 bits stay whole; every
other number is a binary64 value. The members of an object are kept ascending.
-/

namespace FeatureService

inductive Number where
  | integer (value : Int)
  | real (value : Binary64)
  deriving DecidableEq

inductive Json where
  | null
  | boolean (value : Bool)
  | number (value : Number)
  | text (value : String)
  | array (items : List Json)
  | object (members : List (String × Json))
  deriving Inhabited

namespace Json

def isNull : Json → Bool
  | null => true
  | _ => false

mutual

/-- Every object in the value has its members ascending. -/
def Sorted : Json → Prop
  | null | boolean _ | number _ | text _ => True
  | array items => AllSorted items
  | object members => Keyed.Ascending members ∧ MembersSorted members

def AllSorted : List Json → Prop
  | [] => True
  | item :: rest => item.Sorted ∧ AllSorted rest

def MembersSorted : List (String × Json) → Prop
  | [] => True
  | (_, value) :: rest => value.Sorted ∧ MembersSorted rest

end

mutual

/-- How many arrays and objects are nested in the value. -/
def depth : Json → Nat
  | null | boolean _ | number _ | text _ => 0
  | array items => itemsDepth items + 1
  | object members => membersDepth members + 1

def itemsDepth : List Json → Nat
  | [] => 0
  | item :: rest => max item.depth (itemsDepth rest)

def membersDepth : List (String × Json) → Nat
  | [] => 0
  | (_, value) :: rest => max value.depth (membersDepth rest)

end

end Json

end FeatureService
