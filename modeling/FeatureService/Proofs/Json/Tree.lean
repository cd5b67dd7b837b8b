import FeatureService.Json.Tree

/-!
# The tokens of a tree

Every tree has a row of tokens, and the stack of open containers takes this row
back to the tree: the tokens of a value do for the innermost container what the
finished value does.
-/

namespace FeatureService.Tree

/-- A property of all trees is shown for each container from its parts. -/
@[elab_as_elim]
theorem induction {motive : Tree → Prop} (null : motive .null)
    (boolean : ∀ value, motive (.boolean value)) (numeral : ∀ value, motive (.numeral value))
    (text : ∀ value, motive (.text value))
    (array : ∀ items, (∀ item ∈ items, motive item) → motive (.array items))
    (object : ∀ members, (∀ member ∈ members, motive member.2) → motive (.object members))
    (tree : Tree) : motive tree :=
  @Tree.rec motive (fun items => ∀ item ∈ items, motive item)
    (fun members => ∀ member ∈ members, motive member.2) (fun member => motive member.2)
    null boolean numeral text array object
    (List.forall_mem_nil _) (fun _ _ first rest => List.forall_mem_cons.mpr ⟨first, rest⟩)
    (List.forall_mem_nil _) (fun _ _ first rest => List.forall_mem_cons.mpr ⟨first, rest⟩)
    (fun _ _ value => value) tree

mutual

def tokens : Tree → List Token
  | .null => [.null]
  | .boolean value => [.boolean value]
  | .numeral value => [.numeral value]
  | .text value => [.text value]
  | .array [] => [.openArray, .closeArray]
  | .array (item :: rest) =>
      .openArray :: item.tokens ++ itemTokens rest ++ [.closeArray]
  | .object [] => [.openObject, .closeObject]
  | .object ((name, value) :: rest) =>
      .openObject :: .text name :: .colon :: value.tokens ++ memberTokens rest ++ [.closeObject]

def itemTokens : List Tree → List Token
  | [] => []
  | item :: rest => .comma :: item.tokens ++ itemTokens rest

def memberTokens : List (Option String × Tree) → List Token
  | [] => []
  | (name, value) :: rest => .comma :: .text name :: .colon :: value.tokens ++ memberTokens rest

end

/-- The tokens where a value is awaited do what the finished tree does. -/
def Taken (tree : Tree) : Prop :=
  ∀ frames, tree.tokens.foldlM step (.within frames .value) = place tree frames

theorem foldlM_itemOrEnd (tree : Tree) (frames : List Frame) :
    tree.tokens.foldlM step (.within frames .itemOrEnd) =
      tree.tokens.foldlM step (.within frames .value) := by
  cases tree with
  | null | boolean | numeral | text => rfl
  | array items => cases items <;> rfl
  | object members => cases members <;> rfl

theorem foldlM_itemTokens {items : List Tree} (taken : ∀ item ∈ items, item.Taken)
    (done : List Tree) (frames : List Frame) :
    (itemTokens items).foldlM step (.within (.array done :: frames) .commaOrEnd) =
      some (.within (.array (items.reverse ++ done) :: frames) .commaOrEnd) := by
  induction items generalizing done with
  | nil => rfl
  | cons item rest ih =>
      obtain ⟨here, further⟩ := List.forall_mem_cons.mp taken
      have placed := here (.array done :: frames)
      simp [itemTokens, step, next, place, placed, ih further]

theorem foldlM_memberTokens {members : List (Option String × Tree)}
    (taken : ∀ member ∈ members, member.2.Taken) (done : List (Option String × Tree))
    (frames : List Frame) :
    (memberTokens members).foldlM step (.within (.object done :: frames) .commaOrEnd) =
      some (.within (.object (members.reverse ++ done) :: frames) .commaOrEnd) := by
  induction members generalizing done with
  | nil => rfl
  | cons member rest ih =>
      obtain ⟨here, further⟩ := List.forall_mem_cons.mp taken
      have placed := here (.member done member.1 :: frames)
      simp [memberTokens, step, next, takeName, begin, place, placed, ih further]

theorem taken (tree : Tree) : tree.Taken := by
  induction tree using induction with
  | null | boolean | numeral | text =>
      intro frames
      simp [tokens, step, begin]
  | array items ih =>
      intro frames
      cases items with
      | nil => simp [tokens, step, begin, finish]
      | cons item rest =>
          obtain ⟨here, further⟩ := List.forall_mem_cons.mp ih
          have placed := here (.array [] :: frames)
          simp [tokens, step, begin, next, finish, place, foldlM_itemOrEnd, placed,
            foldlM_itemTokens further]
  | object members ih =>
      intro frames
      cases members with
      | nil => simp [tokens, step, begin, finish]
      | cons member rest =>
          obtain ⟨here, further⟩ := List.forall_mem_cons.mp ih
          have placed := here (.member [] member.1 :: frames)
          simp [tokens, step, begin, next, finish, takeName, place, placed,
            foldlM_memberTokens further]

theorem ofTokens?_tokens (tree : Tree) : ofTokens? tree.tokens = some tree := by
  rw [ofTokens?, tree.taken]
  rfl

end FeatureService.Tree
