import FeatureService.Command.Run
import FeatureService.Proofs.Json.Record
import FeatureService.Proofs.Operation.Lookup

/-!
# Documents are read back

What is written as a document of a type is read back as the same value of this
type. Each record is given back from its members; the members nest in lists and
in each other, and no document has more levels than may be opened.
-/

namespace FeatureService

open Reader (Takes)

/-! ## Records with a title -/

section Titled

variable {names : List String} {members : List (String × Json)}

theorem Json.RecordOf.titled (record : Json.RecordOf names members) (title : Option String) :
    Json.RecordOf (names ++ ["title"]) (members ++ titleMember title) where
  fields := by
    rw [List.map_append]
    refine record.fields.append ?_
    cases title with
    | none => exact List.nil_subperm
    | some title => exact List.Subperm.refl _
  whole := by
    refine List.forall_mem_append.mpr ⟨record.whole, ?_⟩
    cases title with
    | none => exact List.forall_mem_nil _
    | some title => exact List.forall_mem_singleton.mpr (.text title)

theorem lookup_titleMember (title : Option String) :
    (titleMember title).lookup "title" = title.map .text := by
  cases title <;> rfl

/-- A text that is not there need not be written. -/
theorem Fields.withDefault_text {name : String} {value : Option String}
    (given : members.lookup name = value.map .text) (available : Nat) :
    (Fields.ofMembers available members).withDefault name (Reader.optional Reader.text) none =
      some value := by
  cases value with
  | none => exact Fields.withDefault_of_absent given available _ none
  | some value =>
      exact Fields.withDefault_of_given given (Reader.takes_optional_text value)
        (Nat.zero_le available) none

end Titled

/-! ## Resources and listings -/

theorem ResourceKind.takes_document (kind : ResourceKind) :
    Takes Document.read 0 (Document.toJson kind) kind := by
  cases kind <;> exact Reader.takes_word rfl

theorem Resource.takes_document (resource : Resource) :
    Takes Document.read 1 (Document.toJson resource) resource := by
  have record : Json.RecordOf ["name", "kind"]
      [("name", .text resource.name), ("kind", Document.toJson resource.kind)] := by
    refine ⟨List.Subperm.refl _, ?_⟩
    simpa using ⟨Json.Whole.text resource.name, resource.kind.takes_document.whole⟩
  refine Takes.record (record.titled resource.title) (by decide) fun available _ => ?_
  refine Option.bind_eq_some_iff.mpr ⟨_, Fields.required_of_given rfl
    (Reader.takes_text resource.name) (Nat.zero_le available), ?_⟩
  refine Option.bind_eq_some_iff.mpr ⟨_, Fields.required_of_given rfl
    resource.kind.takes_document (Nat.zero_le available), ?_⟩
  exact Option.bind_eq_some_iff.mpr
    ⟨_, Fields.withDefault_text (lookup_titleMember resource.title) available, rfl⟩

theorem ListingEntry.takes_document {entry : ListingEntry} (within : entry.id < Nat.pow 2 64) :
    Takes Document.read 1 (Document.toJson entry) entry := by
  have id := Reader.takes_natural within
  have record : Json.RecordOf ["id", "name"]
      [("id", .number (.integer entry.id)), ("name", .text entry.name)] := by
    refine ⟨List.Subperm.refl _, ?_⟩
    simpa using ⟨id.whole, Json.Whole.text entry.name⟩
  refine Takes.record (record.titled entry.title) (by decide) fun available _ => ?_
  refine Option.bind_eq_some_iff.mpr
    ⟨_, Fields.required_of_given rfl id (Nat.zero_le available), ?_⟩
  refine Option.bind_eq_some_iff.mpr ⟨_, Fields.required_of_given rfl
    (Reader.takes_text entry.name) (Nat.zero_le available), ?_⟩
  exact Option.bind_eq_some_iff.mpr
    ⟨_, Fields.withDefault_text (lookup_titleMember entry.title) available, rfl⟩

def Listing.Within (listing : Listing) : Prop :=
  ∀ entry ∈ listing.layers ++ listing.tables, entry.id < Nat.pow 2 64

instance (listing : Listing) : Decidable listing.Within :=
  inferInstanceAs
    (Decidable (∀ entry ∈ listing.layers ++ listing.tables, entry.id < Nat.pow 2 64))

theorem Listing.takes_document {listing : Listing} (within : listing.Within) :
    Takes Document.read 3 (Document.toJson listing) listing := by
  obtain ⟨layersWithin, tablesWithin⟩ := List.forall_mem_append.mp within
  have layers := Document.takes_list fun entry mem =>
    ListingEntry.takes_document (layersWithin entry mem)
  have tables := Document.takes_list fun entry mem =>
    ListingEntry.takes_document (tablesWithin entry mem)
  have record : Json.RecordOf ["layers", "tables"]
      [("layers", Document.toJson listing.layers), ("tables", Document.toJson listing.tables)] := by
    refine ⟨List.Subperm.refl _, ?_⟩
    simpa using ⟨layers.whole, tables.whole⟩
  refine Takes.record record (by decide) fun available enough => ?_
  refine Option.bind_eq_some_iff.mpr ⟨_, Fields.required_of_given rfl layers enough, ?_⟩
  exact Option.bind_eq_some_iff.mpr ⟨_, Fields.required_of_given rfl tables enough, rfl⟩

/-! ## Catalogs -/

theorem CatalogEntry.takes_document (entry : CatalogEntry) :
    Takes Document.read 1 (Document.toJson entry) entry := by
  have record : Json.RecordOf ["name"] [("name", .text entry.name)] := by
    refine ⟨List.Subperm.refl _, ?_⟩
    simpa using Json.Whole.text entry.name
  refine Takes.record (record.titled entry.title) (by decide) fun available _ => ?_
  refine Option.bind_eq_some_iff.mpr ⟨_, Fields.required_of_given rfl
    (Reader.takes_text entry.name) (Nat.zero_le available), ?_⟩
  exact Option.bind_eq_some_iff.mpr
    ⟨_, Fields.withDefault_text (lookup_titleMember entry.title) available, rfl⟩

theorem WorkspaceDocument.takes_document (workspace : WorkspaceDocument) :
    Takes Document.read 3 (Document.toJson workspace) workspace := by
  have layers :=
    Document.takes_list fun entry (_ : entry ∈ workspace.layers) => entry.takes_document
  have tables :=
    Document.takes_list fun entry (_ : entry ∈ workspace.tables) => entry.takes_document
  have record : Json.RecordOf ["layers", "tables"]
      [("layers", Document.toJson workspace.layers),
       ("tables", Document.toJson workspace.tables)] := by
    refine ⟨List.Subperm.refl _, ?_⟩
    simpa using ⟨layers.whole, tables.whole⟩
  refine Takes.record record (by decide) fun available enough => ?_
  refine Option.bind_eq_some_iff.mpr ⟨_, Fields.withDefault_of_given rfl layers enough [], ?_⟩
  exact Option.bind_eq_some_iff.mpr ⟨_, Fields.withDefault_of_given rfl tables enough [], rfl⟩

/-- Workspaces come back in their order, provided that no two have the same name. -/
theorem CatalogDocument.takes_document {document : CatalogDocument}
    (distinct : (document.workspaces.map Prod.fst).Nodup) :
    Takes Document.read 5 (Document.toJson document) document := by
  have workspaces : Takes (Reader.members Document.read) 4
      (.object (document.workspaces.map fun entry => (entry.1, Document.toJson entry.2)))
      document.workspaces :=
    Takes.members (List.forall₂_map_left_iff.mpr (List.forall₂_same.mpr fun entry _ =>
      ⟨rfl, entry.2.takes_document⟩))
  have record : Json.RecordOf ["workspaces"] [("workspaces",
      .object (document.workspaces.map fun entry => (entry.1, Document.toJson entry.2)))] := by
    refine ⟨List.Subperm.refl _, ?_⟩
    simpa using workspaces.whole
  refine Takes.record record (by decide) fun available enough => ?_
  refine Option.bind_eq_some_iff.mpr ⟨_, Fields.withDefault_of_given rfl workspaces enough [], ?_⟩
  exact congrArg (fun workspaces => some (CatalogDocument.mk workspaces)) (Keyed.foldl_put distinct)

/-! ## Operations -/

/-- The values of the parameters are such as documents hold: their members are
sorted and their numbers whole, and they have no more levels than remain below an
operation and its parameters. -/
structure Operation.Writable (operation : Operation) : Prop where
  sorted : ∀ entry ∈ operation.parameters.entries, entry.2.Sorted
  whole : ∀ entry ∈ operation.parameters.entries, entry.2.Whole
  shallow : ∀ entry ∈ operation.parameters.entries, entry.2.depth ≤ 125

theorem OperationKind.takes_document (kind : OperationKind) :
    Takes Document.read 0 (Document.toJson kind) kind :=
  (Reader.takes_text kind.name).map OperationKind.mk

theorem ResultType.takes_document (resultType : ResultType) :
    Takes Document.read 0 (Document.toJson resultType) resultType := by
  cases resultType <;> exact Reader.takes_word rfl

theorem Parameters.ofList_entries (parameters : Parameters) :
    ofList parameters.entries = parameters := by
  refine ext_valueAt? fun key => Option.ext fun value => ?_
  rw [valueAt?_eq_some_iff, mem_ofList parameters.ascending.nodup_keys, valueAt?_eq_some_iff]

/-- The values of the parameters are the only part of any document that may take up
all levels. -/
theorem Operation.Writable.takes_document {operation : Operation} (writable : operation.Writable) :
    Takes Document.read 127 (Document.toJson operation) operation := by
  have kind := operation.kind.takes_document
  have resultType := operation.resultType.takes_document
  have parameters : Takes Document.read 126 (Document.toJson operation.parameters)
      operation.parameters := by
    have values : Takes (Reader.members Reader.json) 126 (.object operation.parameters.entries)
        operation.parameters.entries :=
      Takes.members (List.forall₂_same.mpr fun entry mem =>
        ⟨rfl, (Reader.takes_json (writable.sorted entry mem) (writable.whole entry mem)).mono
          (writable.shallow entry mem)⟩)
    have parameters := values.map Parameters.ofList
    rwa [Parameters.ofList_entries] at parameters
  have record : Json.RecordOf ["kind", "parameters", "result_type"]
      [("kind", Document.toJson operation.kind),
       ("parameters", Document.toJson operation.parameters),
       ("result_type", Document.toJson operation.resultType)] := by
    refine ⟨List.Subperm.refl _, ?_⟩
    simpa using ⟨kind.whole, parameters.whole, resultType.whole⟩
  refine Takes.record record (by decide) fun available enough => ?_
  refine Option.bind_eq_some_iff.mpr
    ⟨_, Fields.required_of_given rfl kind (Nat.zero_le available), ?_⟩
  refine Option.bind_eq_some_iff.mpr ⟨_, Fields.withDefault_of_given rfl parameters enough _, ?_⟩
  exact Option.bind_eq_some_iff.mpr
    ⟨_, Fields.withDefault_of_given rfl resultType (Nat.zero_le available) _, rfl⟩

/-! ## The printed listing -/

/-- A listing on several lines, with a line break behind it, is read back. -/
theorem Listing.parse_renderLines {listing : Listing} (within : listing.Within) :
    Document.parse ((Document.toJson listing).renderLines ++ "\n") = some listing := by
  have read := Document.parse_chars Layout.blank_indented (Listing.takes_document within)
    (by decide) (List.forall_mem_singleton.mpr (rfl : Token.isSpace '\n' = true))
  rw [String.ofList_append] at read
  exact read

theorem Command.printLines_singleton (line : String) : printLines [line] = line ++ "\n" := by
  simp [printLines, String.join]

theorem Command.perform_layers {m : Type → Type} [Monad m] [LawfulMonad m]
    {look : String → m FileState} {path content : String} {workspaces : Workspaces}
    {workspace : String} {listing : Listing} (stands : look path = pure (.text content))
    (loaded : Workspaces.parse content = some workspaces)
    (listed : (Directory.list (m := Id) workspaces.catalog workspace).run = .ok listing)
    (settings : Settings) :
    Command.perform look settings (.layers path workspace) =
      pure (.printed ((Document.toJson listing).renderLines ++ "\n")
        [.catalogLoaded workspaces.entries.length path, .listed workspace listing]) := by
  have opened : openCatalog path (.text content) = .ok workspaces := by
    rw [openCatalog, loaded]
  simp only [perform, stands, pure_bind, withCatalog, opened, listIn, listed,
    printLines_singleton]
  rfl

/-- Documents are read back: each type of the exchange, and the listing as the
command prints it. -/
theorem documents_read_back :
    (∀ operation : Operation, operation.Writable →
      Document.parse (Document.render operation) = some operation) ∧
    (∀ resource : Resource, Document.parse (Document.render resource) = some resource) ∧
    (∀ entry : ListingEntry, entry.id < Nat.pow 2 64 →
      Document.parse (Document.render entry) = some entry) ∧
    (∀ listing : Listing, listing.Within →
      Document.parse (Document.render listing) = some listing) ∧
    (∀ entry : CatalogEntry, Document.parse (Document.render entry) = some entry) ∧
    (∀ workspace : WorkspaceDocument,
      Document.parse (Document.render workspace) = some workspace) ∧
    (∀ document : CatalogDocument, (document.workspaces.map Prod.fst).Nodup →
      Document.parse (Document.render document) = some document) ∧
    ∀ (m : Type → Type) [Monad m] [LawfulMonad m] (look : String → m FileState)
      (settings : Settings) (path workspace content : String) (workspaces : Workspaces)
      (listing : Listing), look path = pure (.text content) →
      Workspaces.parse content = some workspaces →
      (Directory.list (m := Id) workspaces.catalog workspace).run = .ok listing → listing.Within →
      ∃ output log, Command.perform look settings (.layers path workspace) =
          pure (.printed output log) ∧
        output = (Document.toJson listing).renderLines ++ "\n" ∧
        Document.parse output = some listing := by
  refine ⟨fun operation writable => ?operation, fun resource => ?resource,
    fun entry within => ?entry, fun listing within => ?listing, fun entry => ?catalogEntry,
    fun workspace => ?workspace, fun document distinct => ?catalog, ?printed⟩
  case operation => exact Document.parse_render_of_takes writable.takes_document (by decide)
  case resource => exact Document.parse_render_of_takes resource.takes_document (by decide)
  case entry =>
    exact Document.parse_render_of_takes (ListingEntry.takes_document within) (by decide)
  case listing =>
    exact Document.parse_render_of_takes (Listing.takes_document within) (by decide)
  case catalogEntry => exact Document.parse_render_of_takes entry.takes_document (by decide)
  case workspace => exact Document.parse_render_of_takes workspace.takes_document (by decide)
  case catalog =>
    exact Document.parse_render_of_takes (CatalogDocument.takes_document distinct) (by decide)
  case printed =>
    intro m _ _ look settings path workspace content workspaces listing stands loaded listed within
    exact ⟨_, _, Command.perform_layers stands loaded listed settings, rfl,
      Listing.parse_renderLines within⟩

/-- An operation with a parameter whose key has escapes and whose value nests the
least and the greatest whole number. -/
def Operation.nested : Operation where
  kind := ⟨"GetFeature"⟩
  parameters := ⟨[("\"\n\x01", .array [.number (.integer (-9223372036854775808)),
    .object [("größe", .number (.integer 18446744073709551615))]])], by decide⟩
  resultType := .hits

theorem Operation.nested_writable : nested.Writable where
  sorted := by simp [nested, Json.Sorted, Json.AllSorted, Json.MembersSorted, Keyed.Ascending]
  whole := by
    have least : (Number.integer (-9223372036854775808)).Whole := by decide
    have greatest : (Number.integer 18446744073709551615).Whole := by decide
    refine List.forall_mem_singleton.mpr (.array (List.forall_mem_cons.mpr
      ⟨.number least, List.forall_mem_singleton.mpr (.object ?_)⟩))
    exact List.forall_mem_singleton.mpr (.number greatest)
  shallow := by simp [nested, Json.depth, Json.itemsDepth, Json.membersDepth]

def CatalogDocument.twoTowns : CatalogDocument :=
  ⟨[("town", ⟨[⟨"roads", some "Main\troads"⟩], []⟩),
    ("city", ⟨[⟨"rivers", none⟩], [⟨"owners", some ""⟩]⟩)]⟩

/-- The operation, the two workspaces, and the listing of the second of them. -/
theorem documents_read_back_city :
    Operation.nested.Writable ∧
      Document.parse (Document.render Operation.nested) = some Operation.nested ∧
      (CatalogDocument.twoTowns.workspaces.map Prod.fst).Nodup ∧
      Document.parse (Document.render CatalogDocument.twoTowns) = some CatalogDocument.twoTowns ∧
      ∃ output log, Command.perform (m := Id)
          (fun _ => pure (.text (Document.render CatalogDocument.twoTowns))) {}
          (.layers "towns.json" "city") = pure (.printed output log) ∧
        output = (Document.toJson
          (Listing.mk [⟨0, "rivers", none⟩] [⟨1, "owners", some ""⟩])).renderLines ++ "\n" ∧
        Document.parse output =
          some (Listing.mk [⟨0, "rivers", none⟩] [⟨1, "owners", some ""⟩]) := by
  obtain ⟨operation, _, _, _, _, _, catalog, printed⟩ := documents_read_back
  have distinct : (CatalogDocument.twoTowns.workspaces.map Prod.fst).Nodup := by decide
  have loaded := congrArg (Option.map Workspaces.ofDocument) (catalog _ distinct)
  exact ⟨Operation.nested_writable, operation _ Operation.nested_writable, distinct,
    catalog _ distinct, printed Id _ {} "towns.json" "city" _ _ _ rfl loaded rfl (by decide)⟩

end FeatureService
