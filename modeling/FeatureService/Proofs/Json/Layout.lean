import FeatureService.Json.Layout
import FeatureService.Proofs.Json.Quotation
import FeatureService.Proofs.Json.Value

/-!
# Written values are read as their trees

A value is written token by token with nothing but white space between the
tokens, on one line or on several. So its text is read as the tokens of its
tree, and these give the tree.
-/

namespace FeatureService

namespace Token

/-- In front of this rest, the characters are read as these tokens. -/
def Lexes (characters : List Char) (tokens : List Token) (rest : List Char) : Prop :=
  ∀ rounds done, (characters ++ rest).length ≤ rounds →
    ∃ left, rest.length ≤ left ∧
      readRounds rounds done (characters ++ rest) = readRounds left (tokens.reverse ++ done) rest

namespace Lexes

variable {characters others rest : List Char} {tokens further : List Token} {token : Token}

theorem nil (rest : List Char) : Lexes [] [] rest := by
  intro rounds done enough
  exact ⟨rounds, enough, rfl⟩

theorem append (first : Lexes characters tokens (others ++ rest))
    (second : Lexes others further rest) :
    Lexes (characters ++ others) (tokens ++ further) rest := by
  intro rounds done enough
  rw [List.append_assoc] at enough ⊢
  obtain ⟨between, enoughBetween, toOthers⟩ := first rounds done enough
  obtain ⟨left, enoughLeft, toRest⟩ := second between (tokens.reverse ++ done) enoughBetween
  refine ⟨left, enoughLeft, ?_⟩
  rw [toOthers, toRest, List.reverse_append, List.append_assoc]

theorem spaces (blank : ∀ c ∈ characters, isSpace c = true) (rest : List Char) :
    Lexes characters [] rest := by
  induction characters with
  | nil => exact nil rest
  | cons c characters ih =>
      obtain ⟨here, further⟩ := List.forall_mem_cons.mp blank
      intro rounds done enough
      cases rounds with
      | zero => cases enough
      | succ rounds =>
          obtain ⟨left, enoughLeft, toRest⟩ :=
            ih further rounds done (Nat.le_of_succ_le_succ enough)
          refine ⟨left, enoughLeft, ?_⟩
          rw [List.cons_append, readRounds, if_pos here, toRest]

/-- Characters that start a token and end it are this token. -/
theorem single {first : Char} (visible : isSpace first = false)
    (started : start first (characters ++ rest) = some (token, rest)) :
    Lexes (first :: characters) [token] rest := by
  intro rounds done enough
  cases rounds with
  | zero => cases enough
  | succ rounds =>
      refine ⟨rounds, ?_, ?_⟩
      · simp only [List.cons_append, List.length_cons, List.length_append] at enough
        omega
      · rw [List.cons_append, readRounds, visible, started]
        rfl

theorem readAll_eq (lexes : Lexes characters tokens []) : readAll characters = some tokens := by
  obtain ⟨left, _, read⟩ := lexes characters.length [] (by simp)
  rw [List.append_nil, List.append_nil] at read
  rw [readAll, read]
  cases left <;> simp [readRounds]

end Lexes

end Token

/-- Nothing but white space stands between the tokens of a written value. -/
structure Layout.Blank (layout : Layout) : Prop where
  line : ∀ levels, ∀ c ∈ layout.line levels, Token.isSpace c = true
  gap : ∀ c ∈ layout.gap, Token.isSpace c = true

namespace Layout

theorem blank_compact : compact.Blank := ⟨by simp [compact], by simp [compact]⟩

theorem blank_indented : indented.Blank where
  line levels c mem := by
    rcases List.mem_cons.mp mem with rfl | space
    · rfl
    · obtain rfl := List.eq_of_mem_replicate space
      rfl
  gap c mem := by
    obtain rfl := List.mem_singleton.mp mem
    rfl

end Layout

namespace Json

open Token (Lexes)
open Numeral (Stops)

variable {layout : Layout} {rest : List Char}

/-! ## What follows a number -/

theorem stops_of_isSpace {c : Char} (space : Token.isSpace c = true) (rest : List Char) :
    Stops (c :: rest) := by
  apply Numeral.stops_cons
  simp only [Token.isSpace, Bool.or_eq_true, beq_iff_eq] at space
  rcases space with ((rfl | rfl) | rfl) | rfl <;> decide

theorem stops_spaces {spaces : List Char} (blank : ∀ c ∈ spaces, Token.isSpace c = true)
    (stops : Stops rest) : Stops (spaces ++ rest) := by
  cases spaces with
  | nil => exact stops
  | cons c spaces => exact stops_of_isSpace (blank c (List.mem_cons_self ..)) _

theorem stops_itemChars (layout : Layout) (levels : Nat) (items : List Json)
    (stops : Stops rest) : Stops (itemChars layout levels items ++ rest) := by
  cases items with
  | nil => exact stops
  | cons item items => exact Numeral.stops_cons (by decide)

theorem stops_memberChars (layout : Layout) (levels : Nat) (members : List (String × Json))
    (stops : Stops rest) : Stops (memberChars layout levels members ++ rest) := by
  cases members with
  | nil => exact stops
  | cons member members => exact Numeral.stops_cons (by decide)

/-! ## Tokens of values -/

theorem lexes_text (text : String) (rest : List Char) :
    Lexes (Quotation.chars text) [.text (some text)] rest := by
  refine Lexes.single rfl ?_
  change Token.start '"' (Quotation.encode text.toList ++ ['"'] ++ rest) = _
  rw [List.append_assoc, List.singleton_append]
  simp only [Token.start, Quotation.read_encode, Option.map_some]

theorem start_of_numeral {first : Char} (numeral : first = '-' ∨ first.isDigit = true)
    (rest : List Char) :
    Token.isSpace first = false ∧
      Token.start first rest =
        (Numeral.read (first :: rest)).map fun found => (.numeral found.1, found.2) := by
  constructor
  · cases space : Token.isSpace first with
    | false => rfl
    | true =>
        simp only [Token.isSpace, Bool.or_eq_true, beq_iff_eq] at space
        rcases space with ((rfl | rfl) | rfl) | rfl <;> exact absurd numeral (by decide)
  · unfold Token.start
    split
    -- Every other token has a first character that is no sign and no digit.
    case h_11 => rfl
    all_goals exact absurd numeral (by decide)

theorem lexes_number {value : Int} (stops : Stops rest) :
    Lexes (Numeral.ofInt value).chars [.numeral (Numeral.ofInt value)] rest := by
  have read := Numeral.read_ofInt value stops
  obtain ⟨first, others, leading, numeral⟩ := Numeral.chars_ofInt_eq_cons value
  rw [leading] at read ⊢
  obtain ⟨visible, started⟩ := start_of_numeral numeral (others ++ rest)
  refine Lexes.single visible ?_
  rw [started, ← List.cons_append, read]
  rfl

/-- The value is read as the tokens of its tree, wherever it is written. -/
def Legible (layout : Layout) (value : Json) : Prop :=
  ∀ levels rest, Stops rest → Lexes (value.chars layout levels) value.tree.tokens rest

theorem lexes_member (blank : layout.Blank) {value : Json} (legible : value.Legible layout)
    (name : String) (levels : Nat) (stops : Stops rest) :
    Lexes (Quotation.chars name ++ ':' :: layout.gap ++ value.chars layout levels)
      (.text (some name) :: .colon :: value.tree.tokens) rest := by
  have colon (rest : List Char) : Lexes [':'] [.colon] rest := Lexes.single rfl rfl
  have gap := Lexes.spaces blank.gap (value.chars layout levels ++ rest)
  have lexes := (lexes_text name _).append (((colon _).append gap).append (legible levels _ stops))
  simpa using lexes

theorem lexes_itemChars (blank : layout.Blank) {items : List Json}
    (legible : ∀ item ∈ items, item.Legible layout) (levels : Nat) (stops : Stops rest) :
    Lexes (itemChars layout levels items) (Tree.itemTokens (itemTrees items)) rest := by
  induction items with
  | nil => exact Lexes.nil rest
  | cons item items ih =>
      obtain ⟨here, further⟩ := List.forall_mem_cons.mp legible
      have comma (rest : List Char) : Lexes [','] [.comma] rest := Lexes.single rfl rfl
      have line := Lexes.spaces (blank.line levels)
      have following := stops_itemChars layout levels items stops
      have lexes :=
        (((comma _).append (line _)).append (here levels _ following)).append (ih further)
      simpa [itemChars, itemTrees, Tree.itemTokens] using lexes

theorem lexes_memberChars (blank : layout.Blank) {members : List (String × Json)}
    (legible : ∀ member ∈ members, member.2.Legible layout) (levels : Nat) (stops : Stops rest) :
    Lexes (memberChars layout levels members) (Tree.memberTokens (memberTrees members)) rest := by
  induction members with
  | nil => exact Lexes.nil rest
  | cons member members ih =>
      obtain ⟨here, further⟩ := List.forall_mem_cons.mp legible
      have comma (rest : List Char) : Lexes [','] [.comma] rest := Lexes.single rfl rfl
      have line := Lexes.spaces (blank.line levels)
      have following := stops_memberChars layout levels members stops
      have lexes := (((comma _).append (line _)).append
        (lexes_member blank here member.1 levels following)).append (ih further)
      simpa [memberChars, memberTrees, Tree.memberTokens] using lexes

theorem legible_array (blank : layout.Blank) {items : List Json}
    (legible : ∀ item ∈ items, item.Legible layout) : (Json.array items).Legible layout := by
  intro levels rest _
  have opening (rest : List Char) : Lexes ['['] [.openArray] rest := Lexes.single rfl rfl
  have closing : Lexes [']'] [.closeArray] rest := Lexes.single rfl rfl
  cases items with
  | nil => exact (opening _).append closing
  | cons item items =>
      obtain ⟨here, further⟩ := List.forall_mem_cons.mp legible
      have line := Lexes.spaces (blank.line (levels + 1))
      have lastLine := Lexes.spaces (blank.line levels)
      have atEnd : Stops (layout.line levels ++ ([']'] ++ rest)) :=
        stops_spaces (blank.line levels) (Numeral.stops_cons (by decide))
      have following := stops_itemChars layout (levels + 1) items atEnd
      have lexes := (((((opening _).append (line _)).append (here (levels + 1) _ following)).append
        (lexes_itemChars blank further (levels + 1) atEnd)).append (lastLine _)).append closing
      simpa [chars, tree, itemTrees, Tree.tokens] using lexes

theorem legible_object (blank : layout.Blank) {members : List (String × Json)}
    (legible : ∀ member ∈ members, member.2.Legible layout) :
    (Json.object members).Legible layout := by
  intro levels rest _
  have opening (rest : List Char) : Lexes ['\x7b'] [.openObject] rest := Lexes.single rfl rfl
  have closing : Lexes ['\x7d'] [.closeObject] rest := Lexes.single rfl rfl
  cases members with
  | nil => exact (opening _).append closing
  | cons member members =>
      obtain ⟨here, further⟩ := List.forall_mem_cons.mp legible
      have line := Lexes.spaces (blank.line (levels + 1))
      have lastLine := Lexes.spaces (blank.line levels)
      have atEnd : Stops (layout.line levels ++ (['\x7d'] ++ rest)) :=
        stops_spaces (blank.line levels) (Numeral.stops_cons (by decide))
      have following := stops_memberChars layout (levels + 1) members atEnd
      have lexes := (((((opening _).append (line _)).append
        (lexes_member blank here member.1 (levels + 1) following)).append
        (lexes_memberChars blank further (levels + 1) atEnd)).append (lastLine _)).append closing
      simpa [chars, tree, memberTrees, Tree.tokens] using lexes

theorem legible (blank : layout.Blank) {value : Json} (whole : value.Whole) :
    value.Legible layout := by
  induction value using induction with
  | null => exact fun _ _ _ => Lexes.single rfl rfl
  | boolean value => cases value <;> exact fun _ _ _ => Lexes.single rfl rfl
  | number value =>
      cases whole with
      | number whole =>
          cases value with
          | integer value => exact fun _ _ stops => lexes_number stops
          | real value => cases whole
  | text value => exact fun _ rest _ => lexes_text value rest
  | array items ih =>
      cases whole with
      | array each => exact legible_array blank fun item mem => ih item mem (each item mem)
  | object members ih =>
      cases whole with
      | object each =>
          exact legible_object blank fun member mem => ih member mem (each member mem)

/-- The text of a value has the tree of the value, also with white space behind it. -/
theorem read_chars (blank : layout.Blank) {value : Json} (whole : value.Whole)
    {behind : List Char} (spaces : ∀ c ∈ behind, Token.isSpace c = true) :
    Tree.read (String.ofList (value.chars layout 0 ++ behind)) = some value.tree := by
  have stops : Stops (behind ++ []) := stops_spaces spaces Numeral.stops_nil
  have lexes := (legible blank whole 0 _ stops).append (Lexes.spaces spaces [])
  rw [Tree.read, String.toList_ofList, lexes.readAll_eq, Option.bind_some, List.append_nil,
    Tree.ofTokens?_tokens]

end Json

end FeatureService
