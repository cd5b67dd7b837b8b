import FeatureService.Json.Tree

/-!
# Reading values and records from JSON trees

A reader takes a tree to a value of some type. It is told how many levels of
arrays and objects may still be opened; a field that no reader looks at may be
nested without limit.

A record is written as an object or as an array of its fields in order. An
object may hold further members, which are passed over; a field may occur once.
An array may end early and may not hold more items than there are fields.
-/

namespace FeatureService

/-- Takes a tree to a value, with a number of levels that may be opened. -/
abbrev Reader (α : Type) := Nat → Tree → Option α

namespace Reader

variable {α : Type}

/-- How many levels of arrays and objects a document may have. -/
def levelLimit : Nat := 127

def text : Reader String
  | _, .text value => value
  | _, _ => none

def flag : Reader Bool
  | _, .boolean value => some value
  | _, _ => none

/-- Reads a natural number below `2 ^ 64`. -/
def natural : Reader Nat
  | _, .numeral numeral =>
      match numeral.integer? with
      | some value => if 0 ≤ value then some value.toNat else none
      | none => none
  | _, _ => none

/-- Reads null as nothing. -/
def optional (read : Reader α) : Reader (Option α)
  | _, .null => some none
  | levels, tree => (read levels tree).map some

def list (read : Reader α) : Reader (List α)
  | levels + 1, .array items => items.mapM (read levels)
  | _, _ => none

/-- Reads the members of an object in their order, with repeats. -/
def members (read : Reader α) : Reader (List (String × α))
  | levels + 1, .object members =>
      members.mapM fun (name, tree) => do some (← name, ← read levels tree)
  | _, _ => none

/-- Reads one of several words. A word may also be the only member of an
object, with the value null. -/
def word (words : List (String × α)) : Reader α
  | _, .text value => value.bind fun word => List.lookup word words
  | _ + 1, .object [(name, .null)] => name.bind fun word => List.lookup word words
  | _, _ => none

/-- Reads any value. Of members with the same name the last one counts. -/
def json : Nat → Tree → Option Json
  | _, .null => some .null
  | _, .boolean value => some (.boolean value)
  | _, .numeral numeral => numeral.value?.map .number
  | _, .text value => value.map .text
  | levels + 1, .array items => (items.mapM (json levels)).map .array
  | levels + 1, .object members => do
      let read ← members.mapM fun (name, tree) => do some (← name, ← json levels tree)
      some (.object (read.foldl (fun held (name, value) => Keyed.insert name value held) []))
  | 0, .array _ => none
  | 0, .object _ => none

end Reader

/-- The fields that a record gives, and the levels that they may open. -/
structure Fields where
  levels : Nat
  given : List (String × Tree)

namespace Fields

variable {α : Type}

/-- The fields of a record with the given field names. -/
def read (names : List String) : Reader Fields
  | levels + 1, .object members => do
      let named ← members.mapM fun (name, tree) => do some (← name, tree)
      let known := named.filter fun (name, _) => names.contains name
      if (known.map Prod.fst).Nodup then some ⟨levels, known⟩ else none
  | levels + 1, .array items =>
      if items.length ≤ names.length then some ⟨levels, names.zip items⟩ else none
  | _, _ => none

/-- A field that has to be given. -/
def required (fields : Fields) (name : String) (read : Reader α) : Option α :=
  (fields.given.lookup name).bind (read fields.levels)

/-- A field with a value to take where it is not given. -/
def withDefault (fields : Fields) (name : String) (read : Reader α) (default : α) : Option α :=
  match fields.given.lookup name with
  | none => some default
  | some tree => read fields.levels tree

end Fields

end FeatureService
