import FeatureService.Operation.Basic
import FeatureService.Proofs.Keyed.Entries
import FeatureService.Proofs.Text.Comparison
import Mathlib.Data.List.Induction

/-!
# Which parameter a key names

A look-up walks over all parameters, but only those whose keys equal the given
one up to letter case can count. Where no two keys are equal up to letter case
there is one such parameter at most, however the keys are written.
-/

namespace FeatureService

namespace Parameters

variable {parameters first second : Parameters} {key : String} {value : Json}

theorem valueAt?_eq_some_iff :
    parameters.valueAt? key = some value ↔ (key, value) ∈ parameters.entries :=
  parameters.ascending.lookup_eq_some_iff key value

theorem ext_valueAt? (same : ∀ key, first.valueAt? key = second.valueAt? key) : first = second := by
  have entries : first.entries = second.entries := by
    refine first.ascending.eq_of_mem_iff second.ascending fun entry => ?_
    rw [← valueAt?_eq_some_iff, same, valueAt?_eq_some_iff]
  cases first
  cases second
  cases entries
  rfl

/-- The parameters whose keys equal a key ignoring ASCII case. -/
def alike (key : String) (parameters : Parameters) : List (String × Json) :=
  parameters.entries.filter fun entry => Text.equalIgnoringCase entry.1 key

theorem mem_alike {entry : String × Json} :
    entry ∈ parameters.alike key ↔
      entry ∈ parameters.entries ∧ Text.equalIgnoringCase entry.1 key = true :=
  List.mem_filter

theorem firstAlike?_eq (key : String) (parameters : Parameters) :
    parameters.firstAlike? key = (parameters.alike key).head?.map Prod.snd := by
  rw [firstAlike?, alike, List.head?_filter]

/-- Two collections of parameters give the same value to each key that equals
this one ignoring ASCII case. -/
def AgreeOn (key : String) (first second : Parameters) : Prop :=
  ∀ other, Text.equalIgnoringCase other key = true →
    first.valueAt? other = second.valueAt? other

theorem AgreeOn.alike_eq (agree : AgreeOn key first second) : first.alike key = second.alike key := by
  refine Keyed.Ascending.eq_of_mem_iff (first.ascending.filter _) (second.ascending.filter _) ?_
  rintro ⟨name, value⟩
  rw [mem_alike, mem_alike, ← valueAt?_eq_some_iff, ← valueAt?_eq_some_iff]
  constructor
  · rintro ⟨held, isAlike⟩
    exact ⟨(agree name isAlike).symm.trans held, isAlike⟩
  · rintro ⟨held, isAlike⟩
    exact ⟨(agree name isAlike).trans held, isAlike⟩

/-- A look-up depends on nothing else than the parameters with such keys. -/
theorem AgreeOn.get?_eq (agree : AgreeOn key first second) : first.get? key = second.get? key := by
  rw [get?, get?, agree key (Text.equalIgnoringCase_refl key), firstAlike?_eq, firstAlike?_eq,
    agree.alike_eq]

/-- No two keys are equal ignoring ASCII case. -/
def Unambiguous (parameters : Parameters) : Prop :=
  ∀ first ∈ parameters.entries, ∀ second ∈ parameters.entries,
    Text.equalIgnoringCase first.1 second.1 = true → first.1 = second.1

theorem Unambiguous.value_eq (unambiguous : parameters.Unambiguous) {entry other : String × Json}
    (held : entry ∈ parameters.entries) (otherHeld : other ∈ parameters.entries)
    (isAlike : Text.equalIgnoringCase entry.1 key = true)
    (otherAlike : Text.equalIgnoringCase other.1 key = true) : entry.2 = other.2 := by
  have sameKey : entry.1 = other.1 := unambiguous entry held other otherHeld
    (Text.equalIgnoringCase_trans isAlike (Text.equalIgnoringCase_symm otherAlike))
  have value := valueAt?_eq_some_iff.mpr held
  rw [sameKey, valueAt?_eq_some_iff.mpr otherHeld] at value
  exact (Option.some.inj value).symm

/-- Where no keys are ambiguous, a key names the only parameter whose key equals
it ignoring ASCII case. -/
theorem Unambiguous.get?_eq_some_iff (unambiguous : parameters.Unambiguous) (key : String)
    (value : Json) :
    parameters.get? key = some value ↔
      ∃ name, (name, value) ∈ parameters.entries ∧ Text.equalIgnoringCase name key = true := by
  constructor
  · intro found
    unfold get? at found
    split at found
    · rename_i held exactly
      obtain rfl := Option.some.inj found
      exact ⟨key, valueAt?_eq_some_iff.mp exactly, Text.equalIgnoringCase_refl key⟩
    · rw [firstAlike?_eq] at found
      obtain ⟨entry, first, rfl⟩ := Option.map_eq_some_iff.mp found
      exact ⟨entry.1, mem_alike.mp (List.mem_of_head? first)⟩
  · rintro ⟨name, held, isAlike⟩
    unfold get?
    split
    · rename_i other exactly
      have same : value = other := unambiguous.value_eq held (valueAt?_eq_some_iff.mp exactly)
        isAlike (Text.equalIgnoringCase_refl key)
      rw [same]
    · obtain ⟨entry, rest, split⟩ := List.exists_cons_of_ne_nil
        (List.ne_nil_of_mem (mem_alike.mpr ⟨held, isAlike⟩))
      obtain ⟨entryHeld, entryAlike⟩ := mem_alike.mp (split ▸ List.mem_cons_self ..)
      have same : value = entry.2 := unambiguous.value_eq held entryHeld isAlike entryAlike
      rw [firstAlike?_eq, split, List.head?_cons, Option.map_some, same]

/-! ## The least key -/

theorem firstAlike?_eq_none_iff :
    parameters.firstAlike? key = none ↔
      ∀ entry ∈ parameters.entries, Text.equalIgnoringCase entry.1 key = false := by
  rw [firstAlike?, Option.map_eq_none_iff, List.find?_eq_none]
  simp only [Bool.not_eq_true]

theorem get?_eq_none_of_unlike
    (unlike : ∀ entry ∈ parameters.entries, Text.equalIgnoringCase entry.1 key = false) :
    parameters.get? key = none := by
  unfold get?
  cases held : parameters.valueAt? key with
  | none => exact firstAlike?_eq_none_iff.mpr unlike
  | some value =>
      have itself := unlike _ (valueAt?_eq_some_iff.mp held)
      rw [Text.equalIgnoringCase_refl] at itself
      cases itself

theorem firstAlike?_eq_some_iff :
    parameters.firstAlike? key = some value ↔
      ∃ least, (least, value) ∈ parameters.alike key ∧
        ∀ entry ∈ parameters.alike key, entry.1 = least ∨ least < entry.1 := by
  have ascending : Keyed.Ascending (parameters.alike key) := parameters.ascending.filter _
  rw [firstAlike?_eq, Option.map_eq_some_iff]
  cases split : parameters.alike key with
  | nil => simp
  | cons first rest =>
      rw [split] at ascending
      have below := (List.pairwise_cons.mp ascending).1
      constructor
      · rintro ⟨entry, found, rfl⟩
        obtain rfl := Option.some.inj found
        refine ⟨first.1, List.mem_cons_self .., fun entry mem => ?_⟩
        rcases List.mem_cons.mp mem with rfl | further
        · exact .inl rfl
        · exact .inr (below entry further)
      · rintro ⟨least, mem, isLeast⟩
        refine ⟨first, rfl, ?_⟩
        rcases List.mem_cons.mp mem with same | further
        · rw [← same]
        · rcases isLeast first (List.mem_cons_self ..) with same | less
          · exact absurd (below _ further) (same ▸ String.lt_irrefl _)
          · exact absurd (below _ further) (String.lt_asymm less)

/-! ## Setting one parameter -/

@[simp] theorem get?_set_self (key : String) (value : Json) (parameters : Parameters) :
    (parameters.set key value).get? key = some value := by
  rw [get?, valueAt?_set_self]

/-- After a parameter is set, a look-up finds either what has been set or what it
found before. Which of the two does not depend on the value. -/
theorem get?_set_cases (parameters : Parameters) (key asked : String) :
    (Text.equalIgnoringCase key asked = true ∧
      ∀ value, (parameters.set key value).get? asked = some value) ∨
    ∀ value, (parameters.set key value).get? asked = parameters.get? asked := by
  by_cases same : asked = key
  · subst same
    exact .inl ⟨Text.equalIgnoringCase_refl asked, fun value => get?_set_self asked value parameters⟩
  · have exactly (value : Json) := valueAt?_set_of_ne value parameters same
    cases held : parameters.valueAt? asked with
    | some other => exact .inr fun value => by rw [get?, get?, exactly, held]
    | none =>
        -- Neither key is there exactly, so both look-ups search by letter case.
        rcases Keyed.find?_insert_cases (fun name => Text.equalIgnoringCase name asked) key
            parameters.entries with ⟨isAlike, found⟩ | found
        · refine .inl ⟨isAlike, fun value => ?_⟩
          rw [get?, exactly, held, firstAlike?, set, found, Option.map_some]
        · refine .inr fun value => ?_
          rw [get?, get?, exactly, held, firstAlike?, firstAlike?, set, found]

/-! ## Leaving parameters out -/

def only (keep : String → Bool) (parameters : Parameters) : Parameters :=
  ⟨parameters.entries.filter fun entry => keep entry.1, parameters.ascending.filter _⟩

theorem valueAt?_only {keep : String → Bool} {key : String} (kept : keep key = true)
    (parameters : Parameters) : (parameters.only keep).valueAt? key = parameters.valueAt? key := by
  apply Option.ext
  intro value
  rw [valueAt?_eq_some_iff, valueAt?_eq_some_iff, only, List.mem_filter]
  exact and_iff_left kept

/-- Where all parameters whose keys equal a key ignoring ASCII case are left out,
the key names nothing. -/
theorem get?_only_unlike (parameters : Parameters) (key : String) :
    (parameters.only fun other => !Text.equalIgnoringCase other key).get? key = none := by
  apply get?_eq_none_of_unlike
  intro entry mem
  simpa using (List.mem_filter.mp mem).2

/-! ## Keys that are written otherwise -/

theorem ofList_append_singleton (entries : List (String × Json)) (entry : String × Json) :
    ofList (entries ++ [entry]) = (ofList entries).set entry.1 entry.2 := by
  rw [ofList, List.foldl_append]
  rfl

theorem valueAt?_ofList (entries : List (String × Json)) (key : String) :
    (ofList entries).valueAt? key = entries.reverse.lookup key := by
  induction entries using List.reverseRecOn with
  | nil => rfl
  | append_singleton others last ih =>
      rw [ofList_append_singleton, List.reverse_append, List.reverse_singleton,
        List.singleton_append, List.lookup_cons]
      by_cases same : key = last.1
      · rw [same, valueAt?_set_self, beq_self_eq_true]
      · rw [valueAt?_set_of_ne _ _ same, ih, beq_eq_false_iff_ne.mpr same]

theorem mem_ofList {entries : List (String × Json)} (distinct : (entries.map Prod.fst).Nodup)
    (entry : String × Json) : entry ∈ (ofList entries).entries ↔ entry ∈ entries := by
  induction entries using List.reverseRecOn with
  | nil => rfl
  | append_singleton others last ih =>
      rw [List.map_append, List.nodup_append] at distinct
      obtain ⟨othersDistinct, _, apart⟩ := distinct
      have other (mem : entry ∈ others) : entry.1 ≠ last.1 :=
        apart _ (List.mem_map_of_mem mem) _ (List.mem_cons_self ..)
      rw [ofList_append_singleton, set, (ofList others).ascending.mem_insert_iff,
        ih othersDistinct, List.mem_append, List.mem_singleton]
      constructor
      · rintro (isLast | ⟨mem, _⟩)
        · exact .inr isLast
        · exact .inl mem
      · rintro (mem | isLast)
        · exact .inr ⟨mem, other mem⟩
        · exact .inl isLast

def rekey (rewrite : String → String) (parameters : Parameters) : Parameters :=
  ofList (parameters.entries.map fun entry => (rewrite entry.1, entry.2))

variable {rewrite : String → String}

theorem Unambiguous.mem_rekey (unambiguous : parameters.Unambiguous)
    (sameKeys : ∀ key, Text.equalIgnoringCase (rewrite key) key = true) (entry : String × Json) :
    entry ∈ (parameters.rekey rewrite).entries ↔
      ∃ name, (name, entry.2) ∈ parameters.entries ∧ rewrite name = entry.1 := by
  have distinct :
      ((parameters.entries.map fun entry => (rewrite entry.1, entry.2)).map Prod.fst).Nodup := by
    rw [List.map_map, List.Nodup, List.pairwise_map]
    refine parameters.ascending.imp_of_mem fun {first second} held otherHeld below same => ?_
    have isAlike : Text.equalIgnoringCase first.1 second.1 = true :=
      Text.equalIgnoringCase_trans (Text.equalIgnoringCase_symm (sameKeys first.1))
        ((show rewrite first.1 = rewrite second.1 from same) ▸ sameKeys second.1)
    rw [unambiguous first held second otherHeld isAlike] at below
    exact lt_irrefl _ below
  rw [rekey, mem_ofList distinct, List.mem_map]
  constructor
  · rintro ⟨⟨name, value⟩, held, rfl⟩
    exact ⟨name, held, rfl⟩
  · rintro ⟨name, held, rewritten⟩
    exact ⟨(name, entry.2), held, by rw [rewritten]⟩

theorem Unambiguous.rekey (unambiguous : parameters.Unambiguous)
    (sameKeys : ∀ key, Text.equalIgnoringCase (rewrite key) key = true) :
    (parameters.rekey rewrite).Unambiguous := by
  intro first held second otherHeld isAlike
  obtain ⟨name, nameHeld, rewritten⟩ := (unambiguous.mem_rekey sameKeys first).mp held
  obtain ⟨other, otherNameHeld, otherRewritten⟩ :=
    (unambiguous.mem_rekey sameKeys second).mp otherHeld
  rw [← rewritten, ← otherRewritten] at isAlike ⊢
  have alikeBefore : Text.equalIgnoringCase name other = true :=
    Text.equalIgnoringCase_trans (Text.equalIgnoringCase_symm (sameKeys name))
      (Text.equalIgnoringCase_trans isAlike (sameKeys other))
  exact congrArg rewrite (unambiguous _ nameHeld _ otherNameHeld alikeBefore)

/-- The letter case of the keys does not change what a look-up finds. -/
theorem Unambiguous.get?_rekey (unambiguous : parameters.Unambiguous)
    (sameKeys : ∀ key, Text.equalIgnoringCase (rewrite key) key = true) (key : String) :
    (parameters.rekey rewrite).get? key = parameters.get? key := by
  apply Option.ext
  intro value
  rw [(unambiguous.rekey sameKeys).get?_eq_some_iff, unambiguous.get?_eq_some_iff]
  constructor
  · rintro ⟨written, held, isAlike⟩
    obtain ⟨name, nameHeld, rfl⟩ := (unambiguous.mem_rekey sameKeys _).mp held
    exact ⟨name, nameHeld,
      Text.equalIgnoringCase_trans (Text.equalIgnoringCase_symm (sameKeys name)) isAlike⟩
  · rintro ⟨name, held, isAlike⟩
    exact ⟨rewrite name, (unambiguous.mem_rekey sameKeys _).mpr ⟨name, held, rfl⟩,
      Text.equalIgnoringCase_trans (sameKeys name) isAlike⟩

end Parameters

theorem Operation.parameter?_withParameter_self (operation : Operation) (key : String) (value : Json) :
    (operation.withParameter key value).parameter? key = some value :=
  operation.parameters.get?_set_self key value

end FeatureService
