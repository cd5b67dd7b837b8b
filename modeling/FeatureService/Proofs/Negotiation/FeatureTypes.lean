import FeatureService.Proofs.Negotiation.Interchange
import FeatureService.Service.BuiltIn

/-!
# Feature types as one text or as a list

The feature types of a query are given as an array or as one text with commas
between the names. Whether there is one type is asked of an array by its length
and of a text by its commas. Names that are not empty and hold no comma give the
same answer in either form, so no negotiation tells the forms apart.
-/

namespace FeatureService

namespace Predicate

variable {names : List String}

theorem namesOneType_array (names : List String) :
    namesOneType (.array (names.map .text)) = true ↔ names.length = 1 := by
  rw [namesOneType, beq_iff_eq, List.length_map]

/-- Names that are not empty and hold no comma are counted by the commas between
them. -/
theorem namesOneType_joined (named : ∀ name ∈ names, name ≠ "" ∧ ',' ∉ name.toList) :
    namesOneType (.text (",".intercalate names)) = true ↔ names.length = 1 := by
  simp only [namesOneType, Bool.and_eq_true, Bool.not_eq_true', List.isEmpty_eq_false_iff,
    List.contains_eq_mem, decide_eq_false_iff_not]
  cases names with
  | nil => simp
  | cons first rest =>
      cases rest with
      | nil =>
          obtain ⟨nonempty, whole⟩ := named first (List.mem_cons_self ..)
          simp [nonempty, whole]
      | cons second rest => simp

theorem interchangeable_names (named : ∀ name ∈ names, name ≠ "" ∧ ',' ∉ name.toList) :
    Json.Interchangeable typeNameKey (.text (",".intercalate names))
      (.array (names.map .text)) where
  presence := rfl
  types _ := by rw [Bool.eq_iff_iff, namesOneType_joined named, namesOneType_array]
  format isFormat := absurd isFormat (by decide)

theorem singleFeatureType_accepts (operation : Operation) (value : Json) :
    singleFeatureType.accepts (operation.withParameter typeNameKey value) = namesOneType value := by
  rw [accepts, Operation.parameter?_withParameter_self, Option.any_some]

end Predicate

namespace Negotiator

/-- Feature types can be given as one text or as an array: every negotiation ends
alike, and either form counts as one feature type exactly if there is one name. -/
theorem feature_types_in_either_form (negotiator : Negotiator)
    (standard : ∀ encoder ∈ negotiator.registry.encoders, encoder.descriptor.predicate.Standard)
    (operation : Operation) (names : List String)
    (named : ∀ name ∈ names, name ≠ "" ∧ ',' ∉ name.toList) :
    let joined := operation.withParameter Predicate.typeNameKey (.text (",".intercalate names))
    let listed := operation.withParameter Predicate.typeNameKey (.array (names.map .text))
    negotiator.negotiate joined = negotiator.negotiate listed ∧
      (Predicate.singleFeatureType.accepts joined = true ↔ names.length = 1) ∧
      (Predicate.singleFeatureType.accepts listed = true ↔ names.length = 1) := by
  intro joined listed
  refine ⟨?_, ?_, ?_⟩
  · exact negotiate_eq_of_interchangeable standard (Predicate.interchangeable_names named) operation
  · rw [Predicate.singleFeatureType_accepts, Predicate.namesOneType_joined named]
  · rw [Predicate.singleFeatureType_accepts, Predicate.namesOneType_array]

/-- An encoder that wants feature types to be named, by a key in capitals. -/
def typeLister : Descriptor :=
  { BuiltIn.csv with
    aliases := ["types"]
    predicate := .requiresParameter "TYPENAME"
    aliases_ne_nil := by decide
    aliases_nodup := by decide
    empty_not_mem := by decide }

/-- The encoder for one feature type in front of the one for any number of them. -/
def typeWriters : Negotiator :=
  ⟨⟨[⟨BuiltIn.csv, "csv"⟩, ⟨typeLister, "types"⟩], []⟩, [.getFeature]⟩

/-- A query with nothing under the key in small letters. -/
def untypedQuery : Operation :=
  (Operation.new .getFeature .results).withParameter "typename" .null

def joinedQuery (names : List String) : Operation :=
  untypedQuery.withParameter "typeName" (.text (",".intercalate names))

def listedQuery (names : List String) : Operation :=
  untypedQuery.withParameter "typeName" (.array (names.map .text))

theorem standard_typeWriters :
    ∀ encoder ∈ typeWriters.registry.encoders, encoder.descriptor.predicate.Standard := by
  intro encoder mem
  rcases List.mem_cons.mp mem with rfl | mem
  · exact .singleFeatureType
  · obtain rfl := List.mem_singleton.mp mem
    exact .requiresParameter _

/-- One type, two types and no type at all, in either form: the first is served by
the encoder for one type, the others by the one behind it. -/
theorem feature_types_in_either_form_counts :
    Predicate.singleFeatureType.accepts (joinedQuery ["topp:states"]) = true ∧
      typeWriters.negotiate (joinedQuery ["topp:states"]) = .ok ⟨BuiltIn.csv, "csv"⟩ ∧
      typeWriters.negotiate (listedQuery ["topp:states"]) = .ok ⟨BuiltIn.csv, "csv"⟩ ∧
      Predicate.singleFeatureType.accepts (joinedQuery ["topp:states", "topp:roads"]) = false ∧
      typeWriters.negotiate (joinedQuery ["topp:states", "topp:roads"]) =
        .ok ⟨typeLister, "types"⟩ ∧
      typeWriters.negotiate (listedQuery ["topp:states", "topp:roads"]) =
        .ok ⟨typeLister, "types"⟩ ∧
      typeWriters.negotiate (joinedQuery []) = .ok ⟨typeLister, "types"⟩ ∧
      typeWriters.negotiate (listedQuery []) = .ok ⟨typeLister, "types"⟩ := by
  have fares (names : List String) (named : ∀ name ∈ names, name ≠ "" ∧ ',' ∉ name.toList) :=
    feature_types_in_either_form typeWriters standard_typeWriters untypedQuery names named
  obtain ⟨one, oneJoined, _⟩ := fares ["topp:states"] (by decide)
  obtain ⟨two, twoJoined, _⟩ := fares ["topp:states", "topp:roads"] (by decide)
  obtain ⟨no, _, _⟩ := fares [] (by decide)
  refine ⟨oneJoined.mpr rfl, one.trans rfl, rfl, ?_, two.trans rfl, rfl, no.trans rfl, rfl⟩
  rw [← Bool.not_eq_true]
  exact mt twoJoined.mp (by decide)

end Negotiator

end FeatureService
