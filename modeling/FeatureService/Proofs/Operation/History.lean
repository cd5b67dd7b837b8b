import FeatureService.Proofs.Operation.Lookup

/-!
# Parameters that are set one after the other

A key may be set in several letter cases, and each of them more than once. What
a look-up finds is told from the calls alone: the value that was last set under
the key itself, else the one that was last set under the least key that equals
it up to letter case. So calls with distinct keys can be made in any order.
-/

namespace FeatureService

namespace Parameters

variable {calls : List (String × Json)} {key least : String} {value : Json}
  {found : Option Json}

/-! ## What the calls say -/

/-- The last call with a key sets it to a value. -/
def LastSets (calls : List (String × Json)) (key : String) (value : Json) : Prop :=
  ∃ before after, calls = before ++ (key, value) :: after ∧ key ∉ after.map Prod.fst

/-- Of the keys that equal a key ignoring ASCII case, the least by code points. -/
structure LeastAlike (calls : List (String × Json)) (key least : String) : Prop where
  isSet : least ∈ calls.map Prod.fst
  isAlike : Text.equalIgnoringCase least key = true
  least : ∀ other ∈ calls.map Prod.fst, Text.equalIgnoringCase other key = true →
    other = least ∨ List.Lex (· < ·) (Text.codePoints least) (Text.codePoints other)

/-- What a key names after the calls. -/
inductive Names (calls : List (String × Json)) (key : String) : Option Json → Prop where
  | exactly {value : Json} (sets : LastSets calls key value) : Names calls key (some value)
  | upToCase {least : String} {value : Json} (unset : key ∉ calls.map Prod.fst)
      (first : LeastAlike calls key least) (sets : LastSets calls least value) :
      Names calls key (some value)
  | nothing (absent : ∀ other ∈ calls.map Prod.fst, Text.equalIgnoringCase other key = false) :
      Names calls key none

/-! ## What is kept of the calls -/

theorem mem_entries_ofList_iff :
    (key, value) ∈ (ofList calls).entries ↔ LastSets calls key value := by
  rw [← valueAt?_eq_some_iff, valueAt?_ofList, Keyed.lookup_reverse_eq_some_iff]
  rfl

theorem valueAt?_ofList_eq_none_iff :
    (ofList calls).valueAt? key = none ↔ key ∉ calls.map Prod.fst := by
  rw [valueAt?_ofList, Keyed.lookup_reverse_eq_none_iff]

theorem exists_lastSets (isSet : key ∈ calls.map Prod.fst) : ∃ value, LastSets calls key value := by
  cases held : (ofList calls).valueAt? key with
  | none => exact absurd isSet (valueAt?_ofList_eq_none_iff.mp held)
  | some value => exact ⟨value, mem_entries_ofList_iff.mp (valueAt?_eq_some_iff.mp held)⟩

theorem LastSets.isSet (sets : LastSets calls key value) : key ∈ calls.map Prod.fst := by
  obtain ⟨before, after, rfl, _⟩ := sets
  rw [List.map_append, List.map_cons]
  exact List.mem_append_right _ (List.mem_cons_self ..)

theorem mem_alike_ofList_iff {name : String} :
    (name, value) ∈ (ofList calls).alike key ↔
      LastSets calls name value ∧ Text.equalIgnoringCase name key = true := by
  rw [mem_alike, mem_entries_ofList_iff]

theorem firstAlike?_ofList_eq_some_iff :
    (ofList calls).firstAlike? key = some value ↔
      ∃ least, LeastAlike calls key least ∧ LastSets calls least value := by
  rw [firstAlike?_eq_some_iff]
  constructor
  · rintro ⟨least, mem, isLeast⟩
    obtain ⟨sets, isAlike⟩ := mem_alike_ofList_iff.mp mem
    refine ⟨least, ⟨sets.isSet, isAlike, fun other isSet otherAlike => ?_⟩, sets⟩
    obtain ⟨otherValue, otherSets⟩ := exists_lastSets isSet
    rw [Text.lex_codePoints_iff]
    exact isLeast _ (mem_alike_ofList_iff.mpr ⟨otherSets, otherAlike⟩)
  · rintro ⟨least, first, sets⟩
    refine ⟨least, mem_alike_ofList_iff.mpr ⟨sets, first.isAlike⟩, ?_⟩
    rintro ⟨other, otherValue⟩ mem
    obtain ⟨otherSets, otherAlike⟩ := mem_alike_ofList_iff.mp mem
    rw [← Text.lex_codePoints_iff]
    exact first.least other otherSets.isSet otherAlike

theorem names_get? (calls : List (String × Json)) (key : String) :
    Names calls key ((ofList calls).get? key) := by
  unfold get?
  cases held : (ofList calls).valueAt? key with
  | some value => exact .exactly (mem_entries_ofList_iff.mp (valueAt?_eq_some_iff.mp held))
  | none =>
      cases near : (ofList calls).firstAlike? key with
      | none =>
          refine .nothing fun other isSet => ?_
          obtain ⟨otherValue, sets⟩ := exists_lastSets isSet
          exact firstAlike?_eq_none_iff.mp near _ (mem_entries_ofList_iff.mpr sets)
      | some value =>
          obtain ⟨least, first, sets⟩ := firstAlike?_ofList_eq_some_iff.mp near
          exact .upToCase (valueAt?_ofList_eq_none_iff.mp held) first sets

theorem Names.get?_eq (names : Names calls key found) : (ofList calls).get? key = found := by
  cases names with
  | exactly sets => rw [get?, valueAt?_eq_some_iff.mpr (mem_entries_ofList_iff.mpr sets)]
  | upToCase unset first sets =>
      rw [get?, valueAt?_ofList_eq_none_iff.mpr unset]
      exact firstAlike?_ofList_eq_some_iff.mpr ⟨_, first, sets⟩
  | nothing absent =>
      apply get?_eq_none_of_unlike
      rintro ⟨other, otherValue⟩ mem
      exact absent other (mem_entries_ofList_iff.mp mem).isSet

theorem get?_ofList_eq_iff : (ofList calls).get? key = found ↔ Names calls key found :=
  ⟨fun same => same ▸ names_get? calls key, Names.get?_eq⟩

/-! ## The order of the calls -/

theorem set_comm {first second : String × Json} (apart : first.1 ≠ second.1)
    (parameters : Parameters) :
    (parameters.set first.1 first.2).set second.1 second.2 =
      (parameters.set second.1 second.2).set first.1 first.2 := by
  apply ext_valueAt?
  intro key
  by_cases isFirst : key = first.1
  · subst isFirst
    rw [valueAt?_set_of_ne _ _ apart, valueAt?_set_self, valueAt?_set_self]
  · rw [valueAt?_set_of_ne _ _ isFirst]
    by_cases isSecond : key = second.1
    · rw [isSecond, valueAt?_set_self, valueAt?_set_self]
    · rw [valueAt?_set_of_ne _ _ isSecond, valueAt?_set_of_ne _ _ isSecond,
        valueAt?_set_of_ne _ _ isFirst]

theorem ofList_eq_of_perm {others : List (String × Json)} (perm : others.Perm calls)
    (distinct : (calls.map Prod.fst).Nodup) : ofList others = ofList calls := by
  have othersDistinct : (others.map Prod.fst).Nodup := (perm.map Prod.fst).nodup_iff.mpr distinct
  apply ext_valueAt?
  intro key
  apply Option.ext
  intro value
  rw [valueAt?_eq_some_iff, valueAt?_eq_some_iff, mem_ofList othersDistinct, mem_ofList distinct,
    perm.mem_iff]

end Parameters

namespace Operation

variable {operation : Operation}

def withParameters (operation : Operation) (calls : List (String × Json)) : Operation :=
  calls.foldl (fun operation call => operation.withParameter call.1 call.2) operation

/-- Setting parameters one by one changes nothing else in an operation. -/
theorem withParameters_eq (operation : Operation) (calls : List (String × Json)) :
    operation.withParameters calls =
      { operation with
        parameters := calls.foldl (fun parameters call => parameters.set call.1 call.2)
          operation.parameters } := by
  induction calls generalizing operation with
  | nil => rfl
  | cons call rest ih => exact ih _

theorem withParameters_new (kind : OperationKind) (resultType : ResultType)
    (calls : List (String × Json)) :
    (new kind resultType).withParameters calls = ⟨kind, .ofList calls, resultType⟩ :=
  withParameters_eq (new kind resultType) calls

theorem withParameters_append (operation : Operation) (calls others : List (String × Json)) :
    operation.withParameters (calls ++ others) =
      (operation.withParameters calls).withParameters others :=
  List.foldl_append ..

theorem withParameters_swap {first second : String × Json} (apart : first.1 ≠ second.1)
    (operation : Operation) (before after : List (String × Json)) :
    operation.withParameters (before ++ first :: second :: after) =
      operation.withParameters (before ++ second :: first :: after) := by
  rw [withParameters_append, withParameters_append, withParameters_eq _ (first :: second :: after),
    withParameters_eq _ (second :: first :: after)]
  simp only [List.foldl_cons, Parameters.set_comm apart]

/-- A parameter that is set leaves alone what differs from its key in more than
letter case, and every other key that is there. -/
theorem parameter?_withParameter_of_apart {key other : String} (value : Json)
    (apart : Text.equalIgnoringCase key other = false ∨
      other ≠ key ∧ ∃ held, operation.parameters.valueAt? other = some held) :
    (operation.withParameter key value).parameter? other = operation.parameter? other := by
  rcases apart with unlike | ⟨different, held, there⟩
  · rcases operation.parameters.get?_set_cases key other with ⟨isAlike, _⟩ | same
    · rw [unlike] at isAlike
      cases isAlike
    · exact same value
  · have kept := (Parameters.valueAt?_set_of_ne value operation.parameters different).trans there
    rw [parameter?, parameter?, withParameter, Parameters.get?, Parameters.get?, kept, there]

/-- A look-up finds what the calls say: the value that was last set under the key,
else under the least key that equals it ignoring ASCII case. One more call
decides what its own key names and leaves alone what differs from that key in
more than letter case and every other key that has been set. Calls with
distinct keys can be reordered. -/
theorem lookups_after_calls (kind : OperationKind) (resultType : ResultType)
    (calls : List (String × Json)) :
    let operation := (new kind resultType).withParameters calls
    (∀ key found, operation.parameter? key = found ↔ Parameters.Names calls key found) ∧
    (∀ key value, (operation.withParameter key value).parameter? key = some value ∧
      ∀ other, Text.equalIgnoringCase key other = false ∨
          other ≠ key ∧ other ∈ calls.map Prod.fst →
        (operation.withParameter key value).parameter? other = operation.parameter? other) ∧
    (∀ before first second after, calls = before ++ first :: second :: after →
      first.1 ≠ second.1 → ∀ key,
        ((new kind resultType).withParameters (before ++ second :: first :: after)).parameter? key =
          operation.parameter? key) ∧
    ((calls.map Prod.fst).Nodup → ∀ others, others.Perm calls → ∀ key,
      ((new kind resultType).withParameters others).parameter? key = operation.parameter? key) := by
  intro operation
  have built : operation = ⟨kind, .ofList calls, resultType⟩ :=
    withParameters_new kind resultType calls
  refine ⟨fun key found => ?_,
    fun key value => ⟨parameter?_withParameter_self operation key value, fun other apart => ?_⟩,
    ?_, ?_⟩
  · rw [built]
    exact Parameters.get?_ofList_eq_iff
  · apply parameter?_withParameter_of_apart
    rcases apart with unlike | ⟨different, isSet⟩
    · exact .inl unlike
    · obtain ⟨held, sets⟩ := Parameters.exists_lastSets isSet
      refine .inr ⟨different, held, ?_⟩
      rw [built]
      exact Parameters.valueAt?_eq_some_iff.mpr (Parameters.mem_entries_ofList_iff.mpr sets)
  · rintro before first second after rfl apart key
    rw [withParameters_swap apart.symm]
  · intro distinct others perm key
    rw [built, withParameters_new, Parameters.ofList_eq_of_perm perm distinct]

/-- Feature types under one key in two letter cases, in one of them twice. -/
def spelledCalls : List (String × Json) :=
  [("typename", .text "roads"), ("TypeName", .text "rivers"), ("typename", .text "states")]

theorem leastAlike_spelledCalls :
    Parameters.LeastAlike spelledCalls "TYPENAME" "TypeName" where
  isSet := by decide
  isAlike := by decide
  least other isSet _ := by
    simp only [spelledCalls, List.map_cons, List.map_nil, List.mem_cons, List.not_mem_nil,
      or_false] at isSet
    rcases isSet with rfl | rfl | rfl
    · exact .inr (.rel (by decide))
    · exact .inl rfl
    · exact .inr (.rel (by decide))

/-- The key in small letters keeps the last of its values, and in capitals it names
the value under the key with the first capital, also when the calls change places. -/
theorem lookups_after_calls_spelled :
    let operation := (new .getFeature .results).withParameters spelledCalls
    operation.parameter? "typename" = some (.text "states") ∧
      operation.parameter? "TYPENAME" = some (.text "rivers") ∧
      operation.parameter? "outputFormat" = none ∧
      (operation.withParameter "TYPENAME" .null).parameter? "TYPENAME" = some .null ∧
      (operation.withParameter "TYPENAME" .null).parameter? "typename" = some (.text "states") ∧
      (operation.withParameter "TYPENAME" .null).parameter? "outputFormat" = none ∧
      ((new .getFeature .results).withParameters
        [("TypeName", .text "rivers"), ("typename", .text "roads"),
          ("typename", .text "states")]).parameter? "TYPENAME" = some (.text "rivers") ∧
      ((new .getFeature .results).withParameters
          [("typename", .text "states"), ("TypeName", .text "rivers")]).parameter? "TYPENAME" =
        ((new .getFeature .results).withParameters
          [("TypeName", .text "rivers"), ("typename", .text "states")]).parameter? "TYPENAME" := by
  intro operation
  obtain ⟨named, oneMore, swapped, _⟩ := lookups_after_calls .getFeature .results spelledCalls
  have inSmall : operation.parameter? "typename" = some (.text "states") :=
    (named _ _).mpr (.exactly ⟨[_, _], [], rfl, List.not_mem_nil⟩)
  have inCapitals : operation.parameter? "TYPENAME" = some (.text "rivers") :=
    (named _ _).mpr (.upToCase (by decide) leastAlike_spelledCalls ⟨[_], [_], rfl, by decide⟩)
  have unnamed : operation.parameter? "outputFormat" = none :=
    (named _ _).mpr (.nothing (by decide))
  obtain ⟨own, others⟩ := oneMore "TYPENAME" .null
  have reordered := (lookups_after_calls .getFeature .results
    [("TypeName", .text "rivers"), ("typename", .text "states")]).2.2.2 (by decide) _
    (.swap _ _ _) "TYPENAME"
  refine ⟨inSmall, inCapitals, unnamed, own, ?_, ?_, ?_, reordered⟩
  · exact (others "typename" (.inr (by decide))).trans inSmall
  · exact (others "outputFormat" (.inl (by decide))).trans unnamed
  · exact (swapped [] _ _ [_] rfl (by decide) "TYPENAME").trans inCapitals

end Operation

end FeatureService
