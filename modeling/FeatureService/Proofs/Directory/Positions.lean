import FeatureService.Directory
import FeatureService.Proofs.Catalog.Contract

/-!
# Positions and listings

A listing publishes the place of each resource, and a text of digits is read
back as a place. Both are counted in the same order, so a text of digits leads
to the entry that the listing shows under that number, and nowhere if the
listing has no such number.
-/

namespace FeatureService

namespace Reference

def IsDigits (text : String) : Prop :=
  text.toList ≠ [] ∧ ∀ c ∈ text.toList, c.isDigit = true

theorem parse_of_isDigits {text : String} (digits : IsDigits text) :
    parse text =
      if Numeral.natural text.toList < Nat.pow 2 64 then .position (Numeral.natural text.toList)
      else .beyond := by
  have some : text.toList.isEmpty = false := List.isEmpty_eq_false_iff.mpr digits.1
  have all : text.toList.all Char.isDigit = true := List.all_eq_true.mpr digits.2
  unfold parse
  rw [some, all]
  rfl

theorem isDigits_toString (place : Nat) : IsDigits (toString place) := by
  unfold IsDigits
  rw [Nat.toString_eq_repr, Nat.toList_repr]
  exact ⟨Nat.toDigits_ne_nil, fun _ => Nat.isDigit_of_mem_toDigits (by decide) (by decide)⟩

theorem natural_toString (place : Nat) : Numeral.natural (toString place).toList = place := by
  rw [Nat.toString_eq_repr, Nat.toList_repr]
  exact Nat.ofDigitChars_ten_toDigits

end Reference

namespace Directory

variable {m : Type → Type} [Monad m]

/-- What a position resolves to where this resource stands there, if any. -/
def atPosition (workspace reference : String) : Option Resource → Except ResolveError String
  | some resource => .ok (qualifiedName workspace resource.name)
  | none => .error (.resourceNotFound workspace reference)

/-- The listing shows the resources of the workspace, its layers have the first
numbers and its tables those that follow, and its numbers are the positions
that resolve. -/
structure PositionsAgree (catalog : Catalog m) (workspace : String) (resources : List Resource)
    (listing : Listing) : Prop where
  listed : Answers (list catalog workspace) (.ok listing)
  layers : ∀ entry, entry ∈ listing.layers ↔
    ∃ resource, entry.Shows resources resource ∧ resource.kind = .layer
  tables : ∀ entry, entry ∈ listing.tables ↔
    ∃ resource, entry.Shows resources resource ∧ resource.kind = .table
  layerIds : listing.layers.map ListingEntry.id = List.range listing.layers.length
  tableIds : listing.tables.map ListingEntry.id =
    List.range' listing.layers.length listing.tables.length
  /-- Digits resolve to the entry that they number, with leading zeros or
  without, and to nothing if they number none. -/
  resolved : ∀ reference, Reference.IsDigits reference →
    ∃ outcome, Answers (resolve catalog workspace reference) outcome ∧
      (∀ qualified, outcome = .ok qualified ↔
        ∃ entry ∈ listing.entries, entry.id = Numeral.natural reference.toList ∧
          qualified = qualifiedName workspace entry.name) ∧
      ((∀ entry ∈ listing.entries, entry.id ≠ Numeral.natural reference.toList) →
        outcome = .error (.resourceNotFound workspace reference))
  /-- A published number resolves to the entry that it was published for. -/
  published : ∀ entry ∈ listing.entries,
    Answers (resolve catalog workspace (toString entry.id))
      (.ok (qualifiedName workspace entry.name))

theorem atPosition_eq_ok_iff {workspace reference qualified : String} {resources : List Resource}
    {place : Nat} :
    atPosition workspace reference resources[place]? = .ok qualified ↔
      ∃ entry ∈ (Listing.ofResources resources).entries, entry.id = place ∧
        qualified = qualifiedName workspace entry.name := by
  constructor
  · intro resolved
    cases there : resources[place]? with
    | none =>
        rw [there] at resolved
        cases resolved
    | some resource =>
        rw [there] at resolved
        refine ⟨⟨place, resource.name, resource.title⟩, ?_, rfl, (Except.ok.inj resolved).symm⟩
        exact (Listing.mem_entries _ _).mpr ⟨resource, there, rfl, rfl⟩
  · rintro ⟨entry, mem, rfl, rfl⟩
    obtain ⟨resource, there, name, _⟩ := (Listing.mem_entries _ _).mp mem
    rw [there, name]
    rfl

theorem atPosition_of_unlisted (workspace reference : String) {resources : List Resource}
    {place : Nat}
    (unlisted : ∀ entry ∈ (Listing.ofResources resources).entries, entry.id ≠ place) :
    atPosition workspace reference resources[place]? =
      .error (.resourceNotFound workspace reference) := by
  cases there : resources[place]? with
  | none => rfl
  | some resource =>
      have mem := (Listing.mem_entries resources ⟨place, resource.name, resource.title⟩).mpr
        ⟨resource, there, rfl, rfl⟩
      exact absurd rfl (unlisted _ mem)

variable [LawfulMonad m] {catalog : Catalog m} {workspace : String} {resources : List Resource}

theorem list_of_holds (holds : catalog.Holds workspace resources) :
    Answers (list catalog workspace) (.ok (Listing.ofResources resources)) :=
  holds.entries.bind (.pure _)

/-- A position within 64 bits is found where the catalog has it. -/
theorem locate_of_isDigits (holds : catalog.Holds workspace resources) {reference : String}
    (digits : Reference.IsDigits reference)
    (within : Numeral.natural reference.toList < Nat.pow 2 64) :
    Answers (locate catalog workspace reference)
      (match resources[Numeral.natural reference.toList]? with
        | some resource => .ok (.byPosition (Numeral.natural reference.toList) resource.name)
        | none => .error (.resourceNotFound workspace reference)) := by
  unfold locate
  rw [Reference.parse_of_isDigits digits, if_pos within]
  refine Answers.bind (holds.entryAt _ within) ?_
  cases resources[Numeral.natural reference.toList]? with
  | some resource => exact .pure _
  | none => exact .pure _

theorem resolve_of_isDigits (holds : catalog.Holds workspace resources)
    (few : resources.length < Nat.pow 2 64) {reference : String}
    (digits : Reference.IsDigits reference) :
    Answers (resolve catalog workspace reference)
      (atPosition workspace reference resources[Numeral.natural reference.toList]?) := by
  unfold resolve
  by_cases within : Numeral.natural reference.toList < Nat.pow 2 64
  · refine Answers.bind (locate_of_isDigits holds digits within) ?_
    cases resources[Numeral.natural reference.toList]? with
    | some resource => exact .pure _
    | none => exact .pure _
  · have outside : resources[Numeral.natural reference.toList]? = none :=
      List.getElem?_eq_none (by omega)
    have beyond : locate catalog workspace reference =
        pure (.error (.resourceNotFound workspace reference)) := by
      unfold locate
      rw [Reference.parse_of_isDigits digits, if_neg within]
    rw [beyond, outside]
    exact Answers.bind (.pure _) (.pure _)

theorem positionsAgree_of_holds (holds : catalog.Holds workspace resources)
    (few : resources.length < Nat.pow 2 64) :
    PositionsAgree catalog workspace resources (Listing.ofResources resources) where
  listed := list_of_holds holds
  layers := Listing.mem_entriesOf .layer resources
  tables := Listing.mem_entriesOf .table resources
  layerIds := (Listing.ids_of_layersFirst holds.ordered).1
  tableIds := (Listing.ids_of_layersFirst holds.ordered).2
  resolved reference digits :=
    ⟨_, resolve_of_isDigits holds few digits, fun _ => atPosition_eq_ok_iff,
      atPosition_of_unlisted workspace reference⟩
  published entry mem := by
    have answered := resolve_of_isDigits holds few (Reference.isDigits_toString entry.id)
    rw [Reference.natural_toString] at answered
    rw [← atPosition_eq_ok_iff.mpr ⟨entry, mem, rfl, rfl⟩]
    exact answered

/-- Whatever a catalog that keeps its promise lists is what its positions
resolve to. Workspaces in memory are such a catalog in every state. -/
theorem listing_agrees_with_positions (few : resources.length < Nat.pow 2 64) :
    (∀ catalog : Catalog m, catalog.Holds workspace resources →
      PositionsAgree catalog workspace resources (Listing.ofResources resources)) ∧
    ∀ workspaces : Workspaces, workspaces.Reachable →
      workspaces.resources workspace = .ok resources →
      PositionsAgree (workspaces.catalog : Catalog m) workspace resources
        (Listing.ofResources resources) := by
  refine ⟨fun catalog holds => positionsAgree_of_holds holds few, ?_⟩
  intro workspaces reachable held
  exact positionsAgree_of_holds (reachable.ordered.holds held) few

/-- A workspace set twice, the second time with its tables among its layers. -/
def city : Workspaces :=
  (Workspaces.empty.set "city" [⟨"walls", .layer, none⟩]).set "city"
    [⟨"owners", .table, none⟩, ⟨"roads", .layer, none⟩, ⟨"rivers", .layer, some "Rivers"⟩]

def cityResources : List Resource :=
  [⟨"roads", .layer, none⟩, ⟨"rivers", .layer, some "Rivers"⟩, ⟨"owners", .table, none⟩]

/-- A catalog of the city that counts how often it is asked. -/
def counting : Catalog (StateM Nat) where
  entryAt _ place := do
    modify (· + 1)
    pure (.ok cityResources[place]?)
  entries _ := do
    modify (· + 1)
    pure (.ok cityResources)

theorem counting_holds : counting.Holds "city" cityResources where
  entries := rfl
  entryAt _ _ := rfl
  ordered := by
    unfold LayersFirst
    decide

theorem listing_agrees_with_positions_city :
    cityResources.length < Nat.pow 2 64 ∧
      (counting.Holds "city" cityResources ∧
        PositionsAgree counting "city" cityResources (Listing.ofResources cityResources)) ∧
      city.Reachable ∧ city.resources "city" = .ok cityResources ∧
        PositionsAgree (city.catalog : Catalog Id) "city" cityResources
          (Listing.ofResources cityResources) := by
  have few : cityResources.length < Nat.pow 2 64 := by decide
  have reachable : city.Reachable := .set _ _ (.set _ _ .empty)
  have held : city.resources "city" = .ok cityResources := rfl
  refine ⟨few, ⟨counting_holds, ?_⟩, reachable, held, ?_⟩
  · exact (listing_agrees_with_positions few).1 counting counting_holds
  · exact (listing_agrees_with_positions few).2 city reachable held

example : resolve (m := Id) city.catalog "city" "002" = .ok "city:owners" := rfl

end Directory

end FeatureService
