import FeatureService.Json.Layout
import FeatureService.Proofs.Json.Numeral
import FeatureService.Proofs.Json.Value
import FeatureService.Proofs.List.Basic

/-!
# Texts on one line

A value that is written on one line does not depend on how deep it stands. So
its text is put together from the texts of its parts, and a whole number has its
decimal text, wherever it occurs.
-/

namespace FeatureService

namespace Numeral

/-- A whole number is written as everywhere. -/
theorem ofList_chars_ofInt (value : Int) : String.ofList (ofInt value).chars = toString value := by
  rw [chars_ofInt, Int.toString_eq_repr, Int.repr_eq_if, ← String.toList_inj, String.toList_ofList]
  by_cases negative : value < 0
  · have magnitude : (-value).toNat = value.natAbs := by omega
    rw [if_pos negative, if_neg (Int.not_le.mpr negative), String.toList_append, Nat.toList_repr,
      magnitude]
    rfl
  · have magnitude : value.toNat = value.natAbs := by omega
    rw [if_neg negative, if_pos (Int.not_lt.mp negative), Nat.toList_repr, magnitude]
    rfl

end Numeral

namespace Json

/-- A way to write values without spaces and line breaks: a text stands between
quotes, and an array or object between brackets with commas between its parts. -/
structure Compact (write : Json → String) : Prop where
  null : write .null = "null"
  boolean : ∀ value, write (.boolean value) = toString value
  integer : ∀ value, write (.number (.integer value)) = toString value
  text : ∀ value, write (.text value) =
    "\"" ++ String.ofList (Quotation.encode value.toList) ++ "\""
  array : ∀ items, write (.array items) = "[" ++ ",".intercalate (items.map write) ++ "]"
  object : ∀ members, write (.object members) =
    "\x7b" ++ ",".intercalate (members.map fun member =>
      write (.text member.1) ++ ":" ++ write member.2) ++ "\x7d"

/-- The value is written alike at every depth. -/
def Level (value : Json) : Prop :=
  ∀ levels, value.chars .compact levels = value.render.toList

def memberText (member : String × Json) : List Char :=
  Quotation.chars member.1 ++ ':' :: member.2.render.toList

theorem itemChars_compact {items : List Json} (level : ∀ item ∈ items, item.Level)
    (levels : Nat) :
    itemChars .compact levels items = items.flatMap fun item => ',' :: item.render.toList := by
  induction items with
  | nil => rfl
  | cons item rest ih =>
      obtain ⟨here, further⟩ := List.forall_mem_cons.mp level
      rw [itemChars, here, ih further, List.flatMap_cons]
      rfl

theorem memberChars_compact {members : List (String × Json)}
    (level : ∀ member ∈ members, member.2.Level) (levels : Nat) :
    memberChars .compact levels members = members.flatMap fun member => ',' :: memberText member := by
  induction members with
  | nil => rfl
  | cons member rest ih =>
      obtain ⟨here, further⟩ := List.forall_mem_cons.mp level
      rw [memberChars, here, ih further, List.flatMap_cons, memberText]
      simp [Layout.compact]

theorem chars_array {items : List Json} (level : ∀ item ∈ items, item.Level) (levels : Nat) :
    (Json.array items).chars .compact levels =
      '[' :: [','].intercalate (items.map fun item => item.render.toList) ++ [']'] := by
  cases items with
  | nil => rfl
  | cons item rest =>
      obtain ⟨here, further⟩ := List.forall_mem_cons.mp level
      rw [chars, here, itemChars_compact further, List.map_cons,
        intercalate_cons_eq_append_flatMap, List.flatMap_map]
      simp [Layout.compact]

theorem chars_object {members : List (String × Json)}
    (level : ∀ member ∈ members, member.2.Level) (levels : Nat) :
    (Json.object members).chars .compact levels =
      '\x7b' :: [','].intercalate (members.map memberText) ++ ['\x7d'] := by
  cases members with
  | nil => rfl
  | cons member rest =>
      obtain ⟨here, further⟩ := List.forall_mem_cons.mp level
      rw [chars, here, memberChars_compact further, List.map_cons,
        intercalate_cons_eq_append_flatMap, List.flatMap_map, memberText]
      simp [Layout.compact]

theorem level (value : Json) : value.Level := by
  induction value using induction with
  | null => exact fun _ => rfl
  | boolean value => cases value <;> exact fun _ => rfl
  | number value | text value =>
      intro levels
      rw [render, String.toList_ofList, chars, chars]
  | array items ih =>
      intro levels
      rw [render, String.toList_ofList, chars_array ih, chars_array ih]
  | object members ih =>
      intro levels
      rw [render, String.toList_ofList, chars_object ih, chars_object ih]

theorem render_array (items : List Json) :
    (Json.array items).render = "[" ++ ",".intercalate (items.map render) ++ "]" := by
  rw [render, chars_array fun item _ => item.level, ← String.toList_inj]
  simp [Function.comp_def]

theorem render_text (value : String) :
    (Json.text value).render = "\"" ++ String.ofList (Quotation.encode value.toList) ++ "\"" := by
  rw [render, chars, Quotation.chars, ← String.toList_inj]
  simp

theorem toList_member (member : String × Json) :
    ((Json.text member.1).render ++ ":" ++ member.2.render).toList = memberText member := by
  rw [render, chars, memberText]
  simp

theorem render_object (members : List (String × Json)) :
    (Json.object members).render =
      "\x7b" ++ ",".intercalate (members.map fun member =>
        (Json.text member.1).render ++ ":" ++ member.2.render) ++ "\x7d" := by
  have parts : (members.map fun member =>
      (Json.text member.1).render ++ ":" ++ member.2.render).map String.toList =
        members.map memberText := by
    rw [List.map_map]
    exact List.map_congr_left fun member _ => toList_member member
  rw [render, chars_object fun member _ => member.2.level, ← String.toList_inj,
    String.toList_append, String.toList_append, String.toList_intercalate, parts]
  simp

theorem compact_render : Compact render where
  null := rfl
  boolean value := by cases value <;> rfl
  integer := Numeral.ofList_chars_ofInt
  text := render_text
  array := render_array
  object := render_object

end Json

end FeatureService
