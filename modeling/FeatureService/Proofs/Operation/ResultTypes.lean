import FeatureService.Operation.Basic
import FeatureService.Proofs.Text.SmallLetters

/-!
# Words for result types

A word for a result type is lower-cased in full before it is compared. No
character beyond ASCII takes part in a match all the same, so the words that name
a result type are those that equal its name ignoring ASCII case.
-/

namespace FeatureService.ResultType

def words : List String :=
  ["results", "hits", "validate"]

theorem mem_all (resultType : ResultType) : resultType ∈ all := by
  cases resultType <;> decide

theorem name_inj {first second : ResultType} (same : first.name = second.name) :
    first = second := by
  cases first <;> cases second <;> simp_all [name]

theorem mem_words_iff (word : String) : word ∈ words ↔ ∃ resultType, name resultType = word := by
  have named : words = all.map name := rfl
  rw [named, List.mem_map]
  exact exists_congr fun resultType => and_iff_right (mem_all resultType)

theorem isOfAsciiAlone_of_mem_name (resultType : ResultType) :
    ∀ c ∈ resultType.name.toList, Text.isOfAsciiAlone c = true := by
  apply List.all_eq_true.mp
  cases resultType <;> rfl

theorem caseless_name (resultType : ResultType) :
    Text.caseless resultType.name = resultType.name.toList := by
  cases resultType <;> rfl

/-- To be the name of a result type in full lower case is to be that name ignoring
ASCII case. -/
theorem lowercase_eq_name_iff (word : String) (resultType : ResultType) :
    Text.lowercase word = resultType.name ↔
      Text.equalIgnoringCase word resultType.name = true := by
  rw [Text.lowercase_eq_iff resultType.isOfAsciiAlone_of_mem_name, Text.equalIgnoringCase_iff,
    caseless_name]

theorem parse_eq_ok_iff (word : String) (resultType : ResultType) :
    parse word = .ok resultType ↔ resultType.name = Text.lowercase word := by
  simp only [parse]
  split
  · rename_i found hit
    have matched := List.find?_some hit
    have named := beq_iff_eq.mp matched
    constructor
    · intro same
      obtain rfl := Except.ok.inj same
      exact named
    · intro same
      rw [name_inj (named.trans same.symm)]
  · rename_i missed
    constructor
    · intro same
      cases same
    · intro same
      exact absurd (beq_iff_eq.mpr same) (List.find?_eq_none.mp missed resultType (mem_all _))

theorem parse_of_unnamed {word : String}
    (unnamed : ∀ resultType, name resultType ≠ Text.lowercase word) :
    parse word = .error ⟨Text.lowercase word⟩ := by
  have missed : all.find? (fun resultType => resultType.name == Text.lowercase word) = none :=
    List.find?_eq_none.mpr fun resultType _ same => unnamed resultType (beq_iff_eq.mp same)
  simp only [parse, missed]

/-- A word is read exactly if it equals one of the three words ignoring ASCII case,
which is the same as being that word in full lower case. It is read as the result
type of that name, and any other word is given back in full lower case. -/
theorem words_ignoring_case (word : String) :
    (∀ known ∈ words,
      Text.lowercase word = known ↔ Text.equalIgnoringCase word known = true) ∧
    ((∃ resultType, parse word = .ok resultType) ↔
      ∃ known ∈ words, Text.equalIgnoringCase word known = true) ∧
    (∀ known ∈ words, Text.equalIgnoringCase word known = true →
      ∃ resultType, parse word = .ok resultType ∧ resultType.name = known) ∧
    ((∀ known ∈ words, Text.equalIgnoringCase word known = false) →
      ∃ error, parse word = .error error ∧
        error.message = "unknown result type: " ++ Text.lowercase word) := by
  have read {known : String} (mem : known ∈ words)
      (alike : Text.equalIgnoringCase word known = true) :
      ∃ resultType, parse word = .ok resultType ∧ resultType.name = known := by
    obtain ⟨resultType, rfl⟩ := (mem_words_iff known).mp mem
    have small := (lowercase_eq_name_iff word resultType).mpr alike
    exact ⟨resultType, (parse_eq_ok_iff word resultType).mpr small.symm, rfl⟩
  refine ⟨fun known mem => ?_, ⟨?_, ?_⟩, fun known => read, ?_⟩
  · obtain ⟨resultType, rfl⟩ := (mem_words_iff known).mp mem
    exact lowercase_eq_name_iff word resultType
  · rintro ⟨resultType, parsed⟩
    have small := (parse_eq_ok_iff word resultType).mp parsed
    exact ⟨resultType.name, (mem_words_iff _).mpr ⟨resultType, rfl⟩,
      (lowercase_eq_name_iff word resultType).mp small.symm⟩
  · rintro ⟨known, mem, alike⟩
    obtain ⟨resultType, parsed, -⟩ := read mem alike
    exact ⟨resultType, parsed⟩
  · intro unlike
    refine ⟨_, parse_of_unnamed fun resultType named => ?_, rfl⟩
    have alike := (lowercase_eq_name_iff word resultType).mp named.symm
    rw [unlike _ ((mem_words_iff _).mpr ⟨resultType, rfl⟩)] at alike
    cases alike

/-- Of two words for hits the one with a dotted capital I is unknown, since its lower
case keeps the dot. -/
theorem words_ignoring_case_dotted :
    Text.equalIgnoringCase "HitS" "hits" = true ∧ parse "HitS" = .ok .hits ∧
      (∀ known ∈ words, Text.equalIgnoringCase "Hİts" known = false) ∧
      ∃ error, parse "Hİts" = .error error ∧
        error.message = "unknown result type: hi\u0307ts" := by
  have alike : Text.equalIgnoringCase "HitS" "hits" = true := by decide
  have unlike : ∀ known ∈ words, Text.equalIgnoringCase "Hİts" known = false := by decide
  obtain ⟨-, -, read, -⟩ := words_ignoring_case "HitS"
  obtain ⟨resultType, parsed, named⟩ := read "hits" (by decide) alike
  obtain rfl : resultType = .hits := name_inj named
  obtain ⟨-, -, -, refused⟩ := words_ignoring_case "Hİts"
  exact ⟨alike, parsed, unlike, refused unlike⟩

end FeatureService.ResultType
