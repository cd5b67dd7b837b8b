import FeatureService.Proofs.Json.Numeral
import FeatureService.Proofs.Json.Tree

/-!
# Values by their parts

What holds of a value follows from its parts: its numbers are whole, its
members are sorted, it is nested so deep. A written value has a tree, in which
numbers are numerals and every name has a text.
-/

namespace FeatureService.Json

/-- A property of all values is shown for each container from its parts. -/
@[elab_as_elim]
theorem induction {motive : Json → Prop} (null : motive .null)
    (boolean : ∀ value, motive (.boolean value)) (number : ∀ value, motive (.number value))
    (text : ∀ value, motive (.text value))
    (array : ∀ items, (∀ item ∈ items, motive item) → motive (.array items))
    (object : ∀ members, (∀ member ∈ members, motive member.2) → motive (.object members))
    (value : Json) : motive value :=
  @Json.rec motive (fun items => ∀ item ∈ items, motive item)
    (fun members => ∀ member ∈ members, motive member.2) (fun member => motive member.2)
    null boolean number text array object
    (List.forall_mem_nil _) (fun _ _ first rest => List.forall_mem_cons.mpr ⟨first, rest⟩)
    (List.forall_mem_nil _) (fun _ _ first rest => List.forall_mem_cons.mpr ⟨first, rest⟩)
    (fun _ _ value => value) value

/-- Every number in the value is a whole number within 64 bits. -/
inductive Whole : Json → Prop where
  | null : Whole .null
  | boolean (value : Bool) : Whole (.boolean value)
  | number {value : Number} (whole : value.Whole) : Whole (.number value)
  | text (value : String) : Whole (.text value)
  | array {items : List Json} (each : ∀ item ∈ items, Whole item) : Whole (.array items)
  | object {members : List (String × Json)} (each : ∀ member ∈ members, Whole member.2) :
      Whole (.object members)

mutual

def tree : Json → Tree
  | .null => .null
  | .boolean value => .boolean value
  | .number value => .numeral (Numeral.ofNumber value)
  | .text value => .text (some value)
  | .array items => .array (itemTrees items)
  | .object members => .object (memberTrees members)

def itemTrees : List Json → List Tree
  | [] => []
  | item :: rest => item.tree :: itemTrees rest

def memberTrees : List (String × Json) → List (Option String × Tree)
  | [] => []
  | (name, value) :: rest => (some name, value.tree) :: memberTrees rest

end

theorem itemTrees_eq (items : List Json) : itemTrees items = items.map tree := by
  induction items with
  | nil => rfl
  | cons item rest ih => rw [itemTrees, ih, List.map_cons]

theorem memberTrees_eq (members : List (String × Json)) :
    memberTrees members = members.map fun member => (some member.1, member.2.tree) := by
  induction members with
  | nil => rfl
  | cons member rest ih => rw [memberTrees, ih, List.map_cons]

theorem allSorted_iff (items : List Json) : AllSorted items ↔ ∀ item ∈ items, item.Sorted := by
  induction items with
  | nil => simp [AllSorted]
  | cons item rest ih => rw [AllSorted, ih, List.forall_mem_cons]

theorem membersSorted_iff (members : List (String × Json)) :
    MembersSorted members ↔ ∀ member ∈ members, member.2.Sorted := by
  induction members with
  | nil => simp [MembersSorted]
  | cons member rest ih => rw [MembersSorted, ih, List.forall_mem_cons]

theorem itemsDepth_le_iff (items : List Json) (levels : Nat) :
    itemsDepth items ≤ levels ↔ ∀ item ∈ items, item.depth ≤ levels := by
  induction items with
  | nil => simp [itemsDepth]
  | cons item rest ih => rw [itemsDepth, Nat.max_le, ih, List.forall_mem_cons]

theorem membersDepth_le_iff (members : List (String × Json)) (levels : Nat) :
    membersDepth members ≤ levels ↔ ∀ member ∈ members, member.2.depth ≤ levels := by
  induction members with
  | nil => simp [membersDepth]
  | cons member rest ih => rw [membersDepth, Nat.max_le, ih, List.forall_mem_cons]

end FeatureService.Json
