import FeatureService.Proofs.Json.Reader
import Mathlib.Data.List.Count
import Mathlib.Data.List.Perm.Subperm

/-!
# Records

The fields that a record gives, from its tree and from its written members. A
field that is given is read from its own member, in whatever order the members
stand and whichever others are left out; a field that is not given takes its
default. A record that gives a field twice is none.
-/

namespace FeatureService

variable {α : Type} {reader : Reader α} {value : α} {levels available : Nat} {document : Json}
  {names omitted : List String} {members kept : List (String × Json)} {name : String}

/-! ## From the tree -/

namespace Fields

/-- The members that are named after fields. -/
def known (names : List String) (named : List (String × Tree)) : List (String × Tree) :=
  named.filter fun member => names.contains member.1

theorem named_iff {trees : List (Option String × Tree)} {named : List (String × Tree)} :
    List.Forall₂ (fun tree member => tree = (some member.1, member.2)) trees named ↔
      trees = named.map fun member => (some member.1, member.2) := by
  rw [← List.forall₂_eq_eq_eq, List.forall₂_map_right_iff]

/-- An object is a record if each member has a name and each field one member at most. -/
theorem read_object_iff {trees : List (Option String × Tree)} {fields : Fields} :
    Fields.read names levels (.object trees) = some fields ↔
      ∃ others named, levels = others + 1 ∧
        trees = named.map (fun member => (some member.1, member.2)) ∧
        ((known names named).map Prod.fst).Nodup ∧ fields = ⟨others, known names named⟩ := by
  cases levels with
  | zero => simp [Fields.read]
  | succ others =>
      rw [Fields.read]
      constructor
      · intro read
        obtain ⟨named, walked, kept⟩ := Option.bind_eq_some_iff.mp read
        obtain ⟨once, same⟩ := Option.ite_none_right_eq_some.mp kept
        refine ⟨others, named, rfl, named_iff.mp ((mapM_eq_some_iff.mp walked).imp ?_), once,
          (Option.some.inj same).symm⟩
        rintro ⟨found, tree⟩ member given
        cases found with
        | none => cases given
        | some name => rw [← Option.some.inj given]
      · rintro ⟨_, named, same, rfl, once, rfl⟩
        obtain rfl := Nat.succ.inj same
        refine Option.bind_eq_some_iff.mpr ⟨named, mapM_eq_some_iff.mpr ?_, if_pos once⟩
        exact List.forall₂_map_left_iff.mpr (List.forall₂_same.mpr fun _ _ => rfl)

theorem read_array_iff {items : List Tree} {fields : Fields} :
    Fields.read names levels (.array items) = some fields ↔
      ∃ others, levels = others + 1 ∧ items.length ≤ names.length ∧
        fields = ⟨others, names.zip items⟩ := by
  cases levels with
  | zero => simp [Fields.read]
  | succ others => simp [Fields.read, eq_comm]

end Fields

namespace Tree

/-- A record gives a field as the member of its name, or as the item in its place. -/
def Gives (names : List String) (record : Tree) (name : String) (value : Tree) : Prop :=
  match record with
  | .object members => (some name, value) ∈ members
  | .array items => (name, value) ∈ names.zip items
  | _ => False

/-- An object in which a field occurs more than once. -/
def Repeats (names : List String) (tree : Tree) : Prop :=
  ∃ members name, tree = .object members ∧ name ∈ names ∧
    1 < (members.map Prod.fst).count (some name)

end Tree

namespace Fields

variable {tree found : Tree} {fields : Fields}

theorem mem_known {named : List (String × Tree)} {member : String × Tree} :
    member ∈ known names named ↔ member ∈ named ∧ member.1 ∈ names := by
  rw [known, List.mem_filter, List.contains_iff_mem]

theorem keys_known (names : List String) (named : List (String × Tree)) :
    (known names named).map Prod.fst = (named.map Prod.fst).filter names.contains := by
  rw [known, List.filter_map]
  rfl

theorem not_repeats (read : Fields.read names levels tree = some fields) :
    ¬ tree.Repeats names := by
  rintro ⟨members, name, rfl, isField, twice⟩
  obtain ⟨_, named, _, rfl, once, _⟩ := read_object_iff.mp read
  have keys : (named.map fun member => (some member.1, member.2)).map Prod.fst =
      (named.map Prod.fst).map some := by
    rw [List.map_map, List.map_map]
    rfl
  rw [keys_known, List.nodup_iff_count] at once
  have most := once name
  rw [List.count_filter (List.contains_iff_mem.mpr isField)] at most
  rw [keys, List.count_map_of_injective _ _ (fun _ _ => Option.some.inj)] at twice
  exact absurd most (Nat.not_le_of_lt twice)

theorem nodup_given (read : Fields.read names levels tree = some fields) (distinct : names.Nodup) :
    (fields.given.map Prod.fst).Nodup := by
  cases tree with
  | object members =>
      obtain ⟨_, named, _, _, once, rfl⟩ := read_object_iff.mp read
      exact once
  | array items =>
      obtain ⟨_, _, _, rfl⟩ := read_array_iff.mp read
      rw [List.zip_eq_zip_take_min, List.map_fst_zip (by simp)]
      exact (List.take_sublist _ _).nodup distinct
  | _ => cases levels <;> cases read

/-- What is read of a record is what its tree gives. -/
theorem lookup_given_iff (read : Fields.read names levels tree = some fields)
    (distinct : names.Nodup) (isField : name ∈ names) :
    fields.given.lookup name = some found ↔ tree.Gives names name found := by
  rw [Keyed.lookup_eq_some_iff (nodup_given read distinct)]
  cases tree with
  | object members =>
      obtain ⟨_, named, _, rfl, _, rfl⟩ := read_object_iff.mp read
      refine mem_known.trans ⟨fun held => List.mem_map_of_mem held.1, fun given => ?_⟩
      obtain ⟨member, held, same⟩ := List.mem_map.mp given
      cases same
      exact ⟨held, isField⟩
  | array items =>
      obtain ⟨_, _, _, rfl⟩ := read_array_iff.mp read
      exact Iff.rfl
  | _ => cases levels <;> cases read

/-- A field that the tree gives is read from there. -/
theorem read_of_withDefault (read : Fields.read names levels tree = some fields)
    (distinct : names.Nodup) (isField : name ∈ names) (given : tree.Gives names name found)
    {default : α} (taken : fields.withDefault name reader default = some value) :
    reader fields.levels found = some value := by
  rwa [withDefault, (lookup_given_iff read distinct isField).mpr given] at taken

theorem gives_of_required (read : Fields.read names levels tree = some fields)
    (distinct : names.Nodup) (isField : name ∈ names)
    (taken : fields.required name reader = some value) : ∃ found, tree.Gives names name found := by
  obtain ⟨found, given, _⟩ := Option.bind_eq_some_iff.mp taken
  exact ⟨found, (lookup_given_iff read distinct isField).mp given⟩

end Fields

theorem Reader.not_repeats {tree : Tree} {build : Fields → Option α}
    (read : (Fields.read names levels tree).bind build = some value) : ¬ tree.Repeats names := by
  obtain ⟨fields, given, _⟩ := Option.bind_eq_some_iff.mp read
  exact Fields.not_repeats given

/-! ## From written members -/

/-- The members of a written record: they are named after fields, and no two
after the same. -/
structure Json.RecordOf (names : List String) (members : List (String × Json)) : Prop where
  fields : (members.map Prod.fst).Subperm names
  whole : ∀ member ∈ members, member.2.Whole

/-- An object of which some members are left out while the others stand in any
order. -/
def Json.LeavesOut (omitted : List String) (object document : Json) : Prop :=
  ∃ members kept, object = .object members ∧ document = .object kept ∧
    kept.Perm (members.filter fun member => member.1 ∉ omitted)

namespace Json.RecordOf

theorem nodup (record : RecordOf names members) (distinct : names.Nodup) :
    (members.map Prod.fst).Nodup := by
  obtain ⟨listed, perm, sublist⟩ := record.fields
  exact perm.nodup_iff.mp (sublist.nodup distinct)

theorem of_left (record : RecordOf names members)
    (left : kept.Perm (members.filter fun member => member.1 ∉ omitted)) : RecordOf names kept where
  fields := by
    have sublist := List.filter_sublist (p := fun member => member.1 ∉ omitted) (l := members)
    exact (left.map Prod.fst).subperm.trans ((sublist.map Prod.fst).subperm.trans record.fields)
  whole member mem := record.whole member (List.mem_of_mem_filter (left.mem_iff.mp mem))

end Json.RecordOf

namespace Fields

/-- The fields that the members of an object give. -/
def ofMembers (levels : Nat) (members : List (String × Json)) : Fields :=
  ⟨levels, members.map fun member => (member.1, member.2.tree)⟩

theorem read_object (record : Json.RecordOf names members) (distinct : names.Nodup) (levels : Nat) :
    Fields.read names (levels + 1) (Json.object members).tree =
      some (ofMembers levels members) := by
  have all : known names (ofMembers levels members).given = (ofMembers levels members).given := by
    rw [known, List.filter_eq_self]
    intro given mem
    obtain ⟨member, held, rfl⟩ := List.mem_map.mp mem
    exact List.contains_iff_mem.mpr (record.fields.subset (List.mem_map_of_mem held))
  rw [Json.tree, Json.memberTrees_eq, read_object_iff]
  refine ⟨levels, (ofMembers levels members).given, rfl, ?_, ?_, ?_⟩
  · rw [ofMembers, List.map_map]
    rfl
  · rw [all, ofMembers, List.map_map]
    exact record.nodup distinct
  · rw [all]
    rfl

theorem required_of_given (given : members.lookup name = some document)
    (takes : reader.Takes levels document value) (enough : levels ≤ available) :
    (ofMembers available members).required name reader = some value := by
  rw [required, ofMembers, Keyed.lookup_map, given]
  exact takes.read available enough

theorem withDefault_of_given (given : members.lookup name = some document)
    (takes : reader.Takes levels document value) (enough : levels ≤ available) (default : α) :
    (ofMembers available members).withDefault name reader default = some value := by
  rw [withDefault, ofMembers, Keyed.lookup_map, given]
  exact takes.read available enough

theorem withDefault_of_absent (absent : members.lookup name = none) (available : Nat)
    (reader : Reader α) (default : α) :
    (ofMembers available members).withDefault name reader default = some default := by
  rw [withDefault, ofMembers, Keyed.lookup_map, absent]
  rfl

theorem required_of_left (distinct : (members.map Prod.fst).Nodup)
    (left : kept.Perm (members.filter fun member => member.1 ∉ omitted))
    (notLeftOut : name ∉ omitted) (given : members.lookup name = some document)
    (takes : reader.Takes levels document value) (enough : levels ≤ available) :
    (ofMembers available kept).required name reader = some value := by
  have found := Keyed.lookup_of_left distinct left name
  rw [if_neg notLeftOut] at found
  exact required_of_given (found.trans given) takes enough

/-- A field that is left out takes its default, and every other its own value. -/
theorem withDefault_of_left (distinct : (members.map Prod.fst).Nodup)
    (left : kept.Perm (members.filter fun member => member.1 ∉ omitted))
    (given : members.lookup name = some document)
    (takes : reader.Takes levels document value) (enough : levels ≤ available) (default : α) :
    (ofMembers available kept).withDefault name reader default =
      some (if name ∈ omitted then default else value) := by
  have found := Keyed.lookup_of_left distinct left name
  by_cases leftOut : name ∈ omitted
  · rw [if_pos leftOut] at found ⊢
    exact withDefault_of_absent found available reader default
  · rw [if_neg leftOut] at found ⊢
    exact withDefault_of_given (found.trans given) takes enough default

end Fields

theorem Reader.Takes.record {build : Fields → Option α} (record : Json.RecordOf names members)
    (distinct : names.Nodup)
    (built : ∀ available, levels ≤ available →
      build (Fields.ofMembers available members) = some value) :
    Reader.Takes (fun levels tree => (Fields.read names levels tree).bind build) (levels + 1)
      (.object members) value := by
  refine ⟨.object record.whole, fun available enough => ?_⟩
  obtain ⟨others, rfl⟩ := Nat.exists_eq_add_of_le' (Nat.le_of_add_left_le enough)
  rw [Fields.read_object record distinct, Option.bind_some]
  exact built others (Nat.add_le_add_iff_right.mp enough)

end FeatureService
