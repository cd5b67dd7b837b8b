import FeatureService.Json.Document
import FeatureService.Proofs.Json.Layout
import FeatureService.Proofs.Keyed.Entries
import FeatureService.Proofs.List.Basic

/-!
# Readers of written values

A reader takes a document if it gives back a value from the tree of the
document, wherever enough levels may still be opened. Readers that are put
together from others take what is put together from the documents of these.
-/

namespace FeatureService

variable {α β : Type}

/-- The reader gives the value back from the tree of its document if it may open
so many levels. -/
structure Reader.Takes (reader : Reader α) (levels : Nat) (document : Json) (value : α) : Prop where
  whole : document.Whole
  read : ∀ available, levels ≤ available → reader available document.tree = some value

namespace Reader

variable {reader : Reader α} {levels : Nat} {document : Json} {value : α}

theorem takes_text (value : String) : Takes text 0 (.text value) value :=
  ⟨.text value, fun _ _ => rfl⟩

theorem takes_flag (value : Bool) : Takes flag 0 (.boolean value) value :=
  ⟨.boolean value, fun _ _ => rfl⟩

theorem takes_natural {value : Nat} (within : value < Nat.pow 2 64) :
    Takes natural 0 (.number (.integer value)) value := by
  have whole : (Number.integer value).Whole := by
    simp only [Number.Whole]
    omega
  refine ⟨.number whole, fun available _ => ?_⟩
  rw [Json.tree, Numeral.ofNumber, natural, Numeral.integer?_ofInt whole]
  exact if_pos (Int.natCast_nonneg value)

theorem takes_optional_none (reader : Reader α) : Takes (optional reader) 0 .null none :=
  ⟨.null, fun _ _ => rfl⟩

theorem takes_optional_text (value : String) :
    Takes (optional text) 0 (.text value) (some value) :=
  ⟨.text value, fun _ _ => rfl⟩

theorem takes_word {words : List (String × α)} {name : String}
    (named : words.lookup name = some value) : Takes (word words) 0 (.text name) value :=
  ⟨.text name, fun _ _ => named⟩

namespace Takes

theorem mono {more : Nat} (takes : Takes reader levels document value) (fewer : levels ≤ more) :
    Takes reader more document value :=
  ⟨takes.whole, fun available enough => takes.read available (Nat.le_trans fewer enough)⟩

theorem map (takes : Takes reader levels document value) (f : α → β) :
    Takes (fun levels tree => (reader levels tree).map f) levels document (f value) :=
  ⟨takes.whole, fun available enough => by rw [takes.read available enough, Option.map_some]⟩

theorem list {documents : List Json} {values : List α}
    (each : List.Forall₂ (Takes reader levels) documents values) :
    Takes (list reader) (levels + 1) (.array documents) values := by
  refine ⟨.array ?_, fun available enough => ?_⟩
  · exact ((List.forall₂_and_left _ _).mp (each.imp fun _ _ takes => ⟨takes.whole, takes⟩)).1
  · obtain ⟨others, rfl⟩ := Nat.exists_eq_add_of_le' enough
    rw [Json.tree, Json.itemTrees_eq]
    refine mapM_eq_some_iff.mpr (List.forall₂_map_left_iff.mpr (each.imp fun _ _ takes => ?_))
    exact takes.read _ (Nat.le_add_left ..)

theorem texts (values : List String) :
    Takes (Reader.list text) 1 (.array (values.map .text)) values :=
  list (List.forall₂_map_left_iff.mpr (List.forall₂_same.mpr fun value _ => takes_text value))

theorem members {members : List (String × Json)} {entries : List (String × α)}
    (each : List.Forall₂
      (fun member entry => member.1 = entry.1 ∧ Takes reader levels member.2 entry.2)
      members entries) :
    Takes (Reader.members reader) (levels + 1) (.object members) entries := by
  refine ⟨.object ?_, fun available enough => ?_⟩
  · exact ((List.forall₂_and_left _ _).mp (each.imp fun _ _ takes => ⟨takes.2.whole, takes⟩)).1
  · obtain ⟨others, rfl⟩ := Nat.exists_eq_add_of_le' enough
    rw [Json.tree, Json.memberTrees_eq]
    refine mapM_eq_some_iff.mpr (List.forall₂_map_left_iff.mpr (each.imp fun _ _ takes => ?_))
    simp [takes.1, takes.2.read _ (Nat.le_add_left ..)]

end Takes

theorem read_item {items : List Tree} {values : List α} {item : Tree}
    (read : list reader levels (.array items) = some values) (mem : item ∈ items) :
    ∃ others value, reader others item = some value := by
  cases levels with
  | zero => cases read
  | succ others =>
      have each : List.Forall₂ (fun item value =>
          (∃ value, reader others item = some value) ∧ reader others item = some value)
          items values :=
        (mapM_eq_some_iff.mp read).imp fun _ value read => ⟨⟨value, read⟩, read⟩
      exact ⟨others, ((List.forall₂_and_left _ _).mp each).1 item mem⟩

/-- Any value is given back if its members are sorted and its numbers whole. -/
theorem takes_json {value : Json} (sorted : value.Sorted) (whole : value.Whole) :
    Takes json value.depth value value := by
  refine ⟨whole, ?_⟩
  induction value using Json.induction with
  | null => exact fun _ _ => by rw [Json.tree, json]
  | boolean value => exact fun _ _ => by rw [Json.tree, json]
  | text value => exact fun _ _ => by rw [Json.tree, json, Option.map_some]
  | number value =>
      intro available _
      cases whole with
      | number whole =>
          cases value with
          | integer value =>
              rw [Json.tree, Numeral.ofNumber, json, Numeral.value?_ofInt whole, Option.map_some]
          | real value => cases whole
  | array items ih =>
      intro available enough
      obtain ⟨others, rfl⟩ := Nat.exists_eq_add_of_le' (Nat.le_of_add_left_le enough)
      rw [Json.Sorted, Json.allSorted_iff] at sorted
      rw [Json.depth, Nat.add_le_add_iff_right, Json.itemsDepth_le_iff] at enough
      cases whole with
      | array each =>
          have read : (items.map Json.tree).mapM (json others) = some items := by
            refine mapM_eq_some_iff.mpr (List.forall₂_map_left_iff.mpr (List.forall₂_same.mpr ?_))
            exact fun item mem => ih item mem (sorted item mem) (each item mem) _ (enough item mem)
          rw [Json.tree, Json.itemTrees_eq, json, read, Option.map_some]
  | object members ih =>
      intro available enough
      obtain ⟨others, rfl⟩ := Nat.exists_eq_add_of_le' (Nat.le_of_add_left_le enough)
      rw [Json.Sorted, Json.membersSorted_iff] at sorted
      rw [Json.depth, Nat.add_le_add_iff_right, Json.membersDepth_le_iff] at enough
      cases whole with
      | object each =>
          rw [Json.tree, Json.memberTrees_eq, json]
          refine Option.bind_eq_some_iff.mpr ⟨members, mapM_eq_some_iff.mpr ?_, ?_⟩
          · refine List.forall₂_map_left_iff.mpr (List.forall₂_same.mpr fun member mem => ?_)
            have read :=
              ih member mem (sorted.2 member mem) (each member mem) others (enough member mem)
            simp [read]
          · -- The members are entered one by one, which leaves ascending members as they are.
            exact congrArg (fun members => some (Json.object members))
              (Keyed.foldl_insert sorted.1)

end Reader

/-! ## Documents -/

namespace Document

variable [Document α] {levels : Nat} {value : α}

/-- A document is read however it is laid out, also with white space behind it. -/
theorem parse_chars {layout : Layout} (blank : layout.Blank) {document : Json}
    (takes : Reader.Takes read levels document value) (few : levels ≤ Reader.levelLimit)
    {behind : List Char} (spaces : ∀ c ∈ behind, Token.isSpace c = true) :
    parse (String.ofList (document.chars layout 0 ++ behind)) = some value := by
  rw [parse, Json.read_chars blank takes.whole spaces, Option.bind_some]
  exact takes.read _ few

theorem parse_render_of_takes (takes : Reader.Takes read levels (toJson value) value)
    (few : levels ≤ Reader.levelLimit) : parse (render value) = some value := by
  have read := parse_chars Layout.blank_compact takes few (List.forall_mem_nil _)
  rwa [List.append_nil] at read

theorem takes_list {values : List α}
    (each : ∀ value ∈ values, Reader.Takes read levels (toJson value) value) :
    Reader.Takes read (levels + 1) (toJson values) values :=
  Reader.Takes.list (List.forall₂_map_left_iff.mpr (List.forall₂_same.mpr each))

end Document

end FeatureService
