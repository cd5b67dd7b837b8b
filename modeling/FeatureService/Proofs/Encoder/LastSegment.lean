import FeatureService.Encoder.TypeName
import FeatureService.Proofs.Encoder.Grammar
import FeatureService.Proofs.Text.Trimming
import Mathlib.Data.List.Infix

/-!
# The last segment of a type name

A type name is cut at its first angle bracket, then behind its last two colons,
then behind its last dot. Two cuts one behind the other are one cut behind the
separator that ends last. So whatever qualifies a name is dropped, and nothing
is left in the segment that could be cut again.
-/

namespace FeatureService.TypeName

/-! ## Arguments -/

/-- What stands in a text before its first angle bracket. -/
inductive Base : List Char → List Char → Prop where
  | plain {text : List Char} (free : '<' ∉ text) : Base text text
  | generic {base : List Char} (arguments : List Char) (free : '<' ∉ base) :
      Base (base ++ '<' :: arguments) base

namespace Base

variable {text base : List Char}

theorem free (cut : Base text base) : '<' ∉ base := by
  cases cut with
  | plain free => exact free
  | generic _ free => exact free

theorem takeWhile_eq (cut : Base text base) : text.takeWhile (· != '<') = base := by
  have before : ∀ c ∈ base, (c != '<') = true := fun c mem =>
    bne_iff_ne.mpr (ne_of_mem_of_not_mem mem cut.free)
  cases cut with
  | plain _ => exact List.takeWhile_eq_self_iff.mpr before
  | generic arguments _ =>
      rw [List.takeWhile_append_of_pos before]
      exact List.append_nil _

theorem exists_base (text : List Char) : ∃ base, Base text base := by
  by_cases generic : '<' ∈ text
  · obtain ⟨base, arguments, rfl, free⟩ := List.eq_append_cons_of_mem generic
    exact ⟨base, .generic arguments free⟩
  · exact ⟨text, .plain generic⟩

end Base

/-! ## Separators -/

/-- A front of a text ends with one of the separators. -/
def Separated (separators : List (List Char)) (front : List Char) : Prop :=
  ∃ separator ∈ separators, separator <:+ front

/-- What follows the last separator of a text, where the one that ends last is the
last. Without any separator it is all of the text. -/
structure LastPiece (separators : List (List Char)) (text front piece : List Char) : Prop where
  whole : text = front ++ piece
  separated : front = [] ∨ Separated separators front
  last : ∀ longer rest, text = longer ++ rest → Separated separators longer →
    longer.length ≤ front.length

namespace LastPiece

variable {separators : List (List Char)} {text front piece : List Char}

theorem length_le (found : LastPiece separators text front piece)
    {other rest : List Char} (other_found : LastPiece separators text other rest) :
    front.length ≤ other.length := by
  rcases found.separated with rfl | separated
  · exact Nat.zero_le _
  · exact other_found.last front piece found.whole separated

theorem unique (found : LastPiece separators text front piece)
    {other rest : List Char} (other_found : LastPiece separators text other rest) :
    piece = rest := by
  have same := Nat.le_antisymm (found.length_le other_found) (other_found.length_le found)
  exact (List.append_inj (found.whole.symm.trans other_found.whole) same).2

theorem not_within (found : LastPiece separators text front piece) {separator : List Char}
    (mem : separator ∈ separators) (nonempty : separator ≠ []) : ¬ separator <:+: piece := by
  rintro ⟨before, after, rfl⟩
  have split : text = front ++ before ++ separator ++ after := by
    rw [found.whole, List.append_assoc, List.append_assoc, List.append_assoc]
  have short := found.last _ after split ⟨separator, mem, List.suffix_append _ _⟩
  have positive := List.length_pos_of_ne_nil nonempty
  rw [List.length_append, List.length_append] at short
  omega

theorem of_free (free : ∀ separator ∈ separators, ¬ separator <:+: text) :
    LastPiece separators text [] text := by
  refine ⟨rfl, .inl rfl, ?_⟩
  rintro longer rest rfl ⟨separator, mem, ends⟩
  exact absurd (ends.isInfix.trans (List.prefix_append longer rest).isInfix) (free separator mem)

/-- Two cuts one behind the other are one cut at either kind of separator, if those
of the second kind are single characters. -/
theorem trans {further : List (List Char)} {middle second : List Char}
    (outer : LastPiece separators text front middle)
    (inner : LastPiece further middle second piece)
    (single : ∀ separator ∈ further, ∃ c, separator = [c]) :
    LastPiece (separators ++ further) text (front ++ second) piece := by
  refine ⟨by rw [outer.whole, inner.whole, List.append_assoc], ?_, ?_⟩
  · rcases inner.separated with rfl | ⟨separator, mem, ends⟩
    · rw [List.append_nil]
      refine outer.separated.imp_right ?_
      rintro ⟨separator, mem, ends⟩
      exact ⟨separator, List.mem_append_left _ mem, ends⟩
    · exact .inr ⟨separator, List.mem_append_right _ mem, ends.trans (List.suffix_append _ _)⟩
  · rintro longer rest split ⟨separator, mem, ends⟩
    rw [List.length_append]
    rcases List.mem_append.mp mem with mem | mem
    · have short := outer.last longer rest split ⟨separator, mem, ends⟩
      omega
    · -- The separator ends in the first front, or all of it stands behind that.
      rw [outer.whole, List.append_eq_append_iff] at split
      rcases split with ⟨back, rfl, behind⟩ | ⟨back, rfl, _⟩
      · obtain ⟨c, rfl⟩ := single separator mem
        cases back using List.reverseRecOn with
        | nil => simp
        | append_singleton before other =>
            rw [← List.append_assoc] at ends
            have same := (List.append_inj' ends.choose_spec rfl).2
            obtain rfl := List.singleton_inj.mp same
            have short := inner.last _ rest behind ⟨[c], mem, List.suffix_append _ _⟩
            rw [List.length_append]
            omega
      · rw [List.length_append]
        omega

/-- What stands behind a separator is the last piece if it has no character with
which a separator ends. -/
theorem of_foreign (separated : Separated separators front)
    (foreign : ∀ separator ∈ separators, ∀ before c, separator = before ++ [c] → c ∉ piece)
    (nonempty : ∀ separator ∈ separators, separator ≠ []) :
    LastPiece separators (front ++ piece) front piece := by
  refine ⟨rfl, .inr separated, ?_⟩
  rintro longer rest split ⟨separator, mem, ends⟩
  rcases List.append_eq_append_iff.mp split with ⟨back, rfl, rfl⟩ | ⟨back, rfl, _⟩
  · cases back using List.reverseRecOn with
    | nil => simp
    | append_singleton before c =>
        rw [← List.append_assoc, List.suffix_concat_iff] at ends
        rcases ends with rfl | ⟨begins, rfl, _⟩
        · exact absurd rfl (nonempty _ mem)
        · refine absurd ?_ (foreign _ mem begins c rfl)
          simp
  · rw [List.length_append]
    omega

end LastPiece

/-! ## One separator -/

/-- A front in which the separator ends is no longer than what bounds the separator
itself and all fronts of the rest. -/
theorem length_le_of_cons {separator rest longer behind : List Char} {c : Char}
    (split : c :: rest = longer ++ behind) (ends : separator <:+ longer) {bound : Nat}
    (here : separator.length ≤ bound)
    (later : ∀ front, rest = front ++ behind → separator <:+ front → front.length < bound) :
    longer.length ≤ bound := by
  cases longer with
  | nil => exact Nat.zero_le _
  | cons first front =>
      obtain ⟨rfl, rfl⟩ := List.cons.inj split
      rcases List.suffix_cons_iff.mp ends with rfl | ends
      · exact here
      · exact later front rfl ends

section

variable {separator : List Char} (nonempty : separator ≠ [])
include nonempty

theorem behindLast?_eq_none_iff (text : List Char) :
    behindLast? separator text = none ↔ ¬ separator <:+: text := by
  induction text with
  | nil => simp [behindLast?, nonempty]
  | cons c rest ih =>
      rw [behindLast?, List.infix_cons_iff, ← List.isPrefixOf_iff_prefix]
      cases behind : behindLast? separator rest with
      | some found =>
          have occurs : separator <:+: rest := by
            by_contra free
            rw [ih.mpr free] at behind
            cases behind
          simp [occurs]
      | none =>
          have free := ih.mp behind
          simp [free]

theorem lastPiece_of_behindLast? {text found : List Char}
    (behind : behindLast? separator text = some found) :
    ∃ front, separator <:+ front ∧ LastPiece [separator] text front found := by
  induction text with
  | nil => cases behind
  | cons c rest ih =>
      rw [behindLast?] at behind
      cases inRest : behindLast? separator rest with
      | some other =>
          rw [inRest] at behind
          obtain ⟨front, ends, piece⟩ := ih (inRest.trans behind)
          have grown : separator <:+ c :: front := ends.trans (List.suffix_cons c front)
          refine ⟨c :: front, grown, by rw [piece.whole, List.cons_append],
            .inr ⟨separator, List.mem_singleton_self _, grown⟩, ?_⟩
          rintro longer after split ⟨_, mem, reaches⟩
          obtain rfl := List.mem_singleton.mp mem
          refine length_le_of_cons split reaches grown.length_le fun shorter within further => ?_
          exact Nat.lt_succ_of_le (piece.last shorter after within ⟨_, mem, further⟩)
      | none =>
          have free := (behindLast?_eq_none_iff nonempty rest).mp inRest
          simp only [inRest] at behind
          split at behind
          · rename_i begins
            obtain rfl := Option.some.inj behind
            have starts := List.isPrefixOf_iff_prefix.mp begins
            refine ⟨separator, List.suffix_rfl, (List.prefix_iff_eq_append.mp starts).symm,
              .inr ⟨separator, List.mem_singleton_self _, List.suffix_rfl⟩, ?_⟩
            rintro longer after split ⟨_, mem, reaches⟩
            obtain rfl := List.mem_singleton.mp mem
            refine length_le_of_cons split reaches le_rfl fun shorter within further => ?_
            exact absurd (further.isInfix.trans ⟨[], after, within.symm⟩) free
          · cases behind

theorem exists_lastPiece (text : List Char) :
    ∃ front, LastPiece [separator] text front (behindLast separator text) := by
  rw [behindLast]
  cases behind : behindLast? separator text with
  | some found =>
      obtain ⟨front, _, piece⟩ := lastPiece_of_behindLast? nonempty behind
      exact ⟨front, piece⟩
  | none =>
      refine ⟨[], .of_free fun other mem => ?_⟩
      obtain rfl := List.mem_singleton.mp mem
      exact (behindLast?_eq_none_iff nonempty text).mp behind

end

/-! ## The segment -/

def separators : List (List Char) :=
  [[':', ':'], ['.']]

/-- The text in front of the arguments has one last segment, and both cuts together
find it. -/
theorem exists_lastPiece_separators (base : List Char) :
    ∃ qualifier, LastPiece separators base qualifier
      (behindLast ['.'] (behindLast [':', ':'] base)) := by
  obtain ⟨front, outer⟩ := exists_lastPiece (List.cons_ne_nil ':' [':']) base
  obtain ⟨second, inner⟩ :=
    exists_lastPiece (List.cons_ne_nil '.' []) (behindLast [':', ':'] base)
  refine ⟨front ++ second, outer.trans inner fun separator mem => ?_⟩
  exact ⟨'.', List.mem_singleton.mp mem⟩

/-- A name is the last segment of a type name, without the white space around it. -/
inductive ShortFor (name typeName : String) : Prop where
  | intro {base qualifier segment : List Char} (cut : Base typeName.toList base)
      (last : LastPiece separators base qualifier segment)
      (trimmed : Text.Trims segment name.toList) : ShortFor name typeName

namespace ShortFor

variable {name typeName : String}

theorem short_eq (stands : ShortFor name typeName) : short typeName = name := by
  obtain ⟨cut, last, trimmed⟩ := stands
  obtain ⟨_, found⟩ := exists_lastPiece_separators (typeName.toList.takeWhile (· != '<'))
  rw [cut.takeWhile_eq] at found
  rw [short, cut.takeWhile_eq, found.unique last, (Text.trims_iff _ _).mp trimmed,
    String.ofList_toList]

theorem of_short (typeName : String) : ShortFor (short typeName) typeName := by
  obtain ⟨base, cut⟩ := Base.exists_base typeName.toList
  obtain ⟨qualifier, last⟩ := exists_lastPiece_separators base
  refine ⟨cut, last, ?_⟩
  rw [short, cut.takeWhile_eq, String.toList_ofList]
  exact (Text.trims_iff _ _).mpr rfl

/-- A name is short for a type name in one way. -/
theorem iff_short_eq : ShortFor name typeName ↔ short typeName = name := by
  constructor
  · exact short_eq
  · rintro rfl
    exact of_short typeName

theorem no_argument (stands : ShortFor name typeName) : '<' ∉ name.toList := by
  obtain ⟨cut, last, trimmed⟩ := stands
  intro mem
  apply cut.free
  rw [last.whole]
  exact List.mem_append_right _ (trimmed.within.subset mem)

theorem no_separator (stands : ShortFor name typeName) :
    ∀ separator ∈ separators, ¬ separator <:+: name.toList := by
  obtain ⟨_, last, trimmed⟩ := stands
  intro separator mem occurs
  have nonempty : separator ≠ [] := by
    rintro rfl
    exact absurd mem (by decide)
  exact last.not_within mem nonempty (occurs.trans trimmed.within)

theorem again (stands : ShortFor name typeName) : ShortFor name name := by
  refine ⟨.plain stands.no_argument, .of_free stands.no_separator, ?_⟩
  obtain ⟨_, _, trimmed⟩ := stands
  exact trimmed.bare.trims

end ShortFor

/-! ## Qualified identifiers -/

/-- Neither a colon nor a dot stands in a name, so it is the last piece behind any
qualifier. -/
theorem lastPiece_qualified {name : List Char} (colonless : ':' ∉ name) (dotless : '.' ∉ name)
    (qualifier : List Char) {separator : List Char} (mem : separator ∈ separators) :
    LastPiece separators (qualifier ++ separator ++ name) (qualifier ++ separator) name := by
  refine .of_foreign ⟨separator, mem, List.suffix_append _ _⟩ ?_ (by decide)
  intro other among before c split
  have ends := congrArg List.getLast? split
  rw [List.getLast?_concat] at ends
  rcases List.mem_pair.mp among with rfl | rfl
  · obtain rfl := Option.some.inj ends
    exact colonless
  · obtain rfl := Option.some.inj ends
    exact dotless

/-- An identifier without a dot is what each qualified form of it is short for. -/
theorem shortFor_qualified {qualifier separator name : String} (free : '<' ∉ qualifier.toList)
    (mem : separator.toList ∈ separators) (valid : ElementName.isValid name = true)
    (dotless : '.' ∉ name.toList) (bare : Text.Bare name.toList) :
    ShortFor name (qualifier ++ separator ++ name) ∧
      ∀ arguments, ShortFor name (qualifier ++ separator ++ name ++ "<" ++ arguments) := by
  have plain := ElementName.plain_of_isValid valid
  have last := lastPiece_qualified (plain.not_mem rfl) dotless qualifier.toList mem
  have uncut : '<' ∉ qualifier.toList ++ separator.toList ++ name.toList := by
    have unseparated : ∀ other ∈ separators, '<' ∉ other := by decide
    rw [List.mem_append, List.mem_append, not_or, not_or]
    exact ⟨⟨free, unseparated _ mem⟩, plain.not_mem rfl⟩
  have whole : (qualifier ++ separator ++ name).toList =
      qualifier.toList ++ separator.toList ++ name.toList := by
    rw [String.toList_append, String.toList_append]
  constructor
  · refine ⟨?_, last, bare.trims⟩
    rw [whole]
    exact .plain uncut
  · intro arguments
    refine ⟨?_, last, bare.trims⟩
    rw [String.toList_append, String.toList_append, whole, List.append_assoc]
    exact .generic arguments.toList uncut

/-- A type name is shortened to the text that follows the last of its separators in
front of its arguments, without the white space around it. So no argument and no
separator is left, shortening again changes nothing, and an identifier without a
dot is found behind whatever qualifies it. -/
theorem short_is_last_segment (typeName : String) :
    (∀ name, short typeName = name ↔ ShortFor name typeName) ∧
      ('<' ∉ (short typeName).toList ∧ '.' ∉ (short typeName).toList ∧
        ¬ [':', ':'] <:+: (short typeName).toList) ∧
      short (short typeName) = short typeName ∧
      ∀ qualifier name : String, '<' ∉ qualifier.toList → ElementName.isValid name = true →
        '.' ∉ name.toList → Text.Bare name.toList → ∀ separator ∈ ["::", "."],
          short (qualifier ++ separator ++ name) = name ∧
            ∀ arguments, short (qualifier ++ separator ++ name ++ "<" ++ arguments) = name := by
  have stands := ShortFor.of_short typeName
  refine ⟨fun name => ShortFor.iff_short_eq.symm,
    ⟨stands.no_argument, fun dot => ?_, stands.no_separator _ (by decide)⟩,
    stands.again.short_eq, ?_⟩
  · exact stands.no_separator ['.'] (by decide) ((List.singleton_infix_iff _ _).mpr dot)
  · intro qualifier name free valid dotless bare separator among
    have mem : separator.toList ∈ separators := by
      rcases List.mem_pair.mp among with rfl | rfl <;> decide
    obtain ⟨plain, generic⟩ := shortFor_qualified free mem valid dotless bare
    exact ⟨plain.short_eq, fun arguments => (generic arguments).short_eq⟩

/-- A name with white space inside, behind three colons and before an argument with
separators of its own. -/
theorem short_is_last_segment_spaced :
    let name := "Ogham\u1680Writer"
    let typeName := "org.geo:" ++ "::" ++ name ++ "<" ++ "b::Inner.C>"
    '<' ∉ "org.geo:".toList ∧ ElementName.isValid name = true ∧ '.' ∉ name.toList ∧
      Text.Bare name.toList ∧ short typeName = name ∧ ShortFor name typeName := by
  intro name typeName
  have free : '<' ∉ "org.geo:".toList := by decide
  have valid : ElementName.isValid name = true := by decide
  have dotless : '.' ∉ name.toList := by decide
  have bare : Text.Bare "Ogham\u1680Writer".toList := by
    constructor
    · intro c first
      obtain rfl := Option.some.inj first
      decide
    · intro c last
      obtain rfl := Option.some.inj last
      decide
  obtain ⟨shortens, -, -, qualified⟩ := short_is_last_segment typeName
  have found := qualified "org.geo:" name free valid dotless bare "::" (List.mem_cons_self ..)
  have shortened : short typeName = name := found.2 "b::Inner.C>"
  exact ⟨free, valid, dotless, bare, shortened, (shortens name).mp shortened⟩

end FeatureService.TypeName
