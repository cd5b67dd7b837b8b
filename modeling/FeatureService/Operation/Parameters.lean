import FeatureService.Json.Value
import FeatureService.Text.Caseless

/-!
# Operation parameters

The parameters of an operation, ascending by key. Keys are written in any case:
a look-up takes the key as given if it is there, and otherwise the least key
that differs only in ASCII case.
-/

namespace FeatureService

structure Parameters where
  entries : List (String × Json)
  ascending : Keyed.Ascending entries

namespace Parameters

def empty : Parameters := ⟨[], Keyed.ascending_nil⟩

def set (key : String) (value : Json) (parameters : Parameters) : Parameters :=
  ⟨Keyed.insert key value parameters.entries, Keyed.ascending_insert key value parameters.ascending⟩

/-- Sets parameters from left to right. -/
def ofList (entries : List (String × Json)) : Parameters :=
  entries.foldl (fun parameters (key, value) => parameters.set key value) empty

/-- The value under exactly this key. -/
def valueAt? (key : String) (parameters : Parameters) : Option Json :=
  parameters.entries.lookup key

/-- The value of the first key that equals this one ignoring ASCII case. -/
def firstAlike? (key : String) (parameters : Parameters) : Option Json :=
  (parameters.entries.find? fun entry => Text.equalIgnoringCase entry.1 key).map Prod.snd

def get? (key : String) (parameters : Parameters) : Option Json :=
  match parameters.valueAt? key with
  | some value => some value
  | none => parameters.firstAlike? key

@[simp] theorem valueAt?_set_self (key : String) (value : Json) (parameters : Parameters) :
    (parameters.set key value).valueAt? key = some value :=
  Keyed.lookup_insert_self key value parameters.entries

theorem valueAt?_set_of_ne {key other : String} (value : Json) (parameters : Parameters)
    (h : other ≠ key) : (parameters.set key value).valueAt? other = parameters.valueAt? other :=
  Keyed.lookup_insert_of_ne value parameters.entries h

end Parameters

end FeatureService
