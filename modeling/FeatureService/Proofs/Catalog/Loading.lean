import FeatureService.Directory
import FeatureService.Proofs.Catalog.History
import FeatureService.Proofs.Keyed.Entries
import FeatureService.Proofs.List.Basic
import Mathlib.Data.List.Induction

/-!
# Documents that are loaded and listed

The entries of a catalog document become resources of two kinds, which are put
one behind the other, arranged, numbered and taken apart again. What a listing
shows in the end is what the document said: the same entries in the same order,
with running numbers. So the document can be read back from the listings.
-/

namespace FeatureService

/-! ## The listing that a document calls for -/

def CatalogEntry.numbered (start : Nat) : List CatalogEntry → List ListingEntry
  | [] => []
  | entry :: rest => ⟨start, entry.name, entry.title⟩ :: numbered (start + 1) rest

def ListingEntry.entry (shown : ListingEntry) : CatalogEntry :=
  ⟨shown.name, shown.title⟩

/-- The layers with the numbers from zero on, and the tables with those that follow. -/
def WorkspaceDocument.listing (workspace : WorkspaceDocument) : Listing :=
  ⟨CatalogEntry.numbered 0 workspace.layers,
    CatalogEntry.numbered workspace.layers.length workspace.tables⟩

def Listing.workspace (listing : Listing) : WorkspaceDocument :=
  ⟨listing.layers.map ListingEntry.entry, listing.tables.map ListingEntry.entry⟩

theorem CatalogEntry.map_entry_numbered (start : Nat) (entries : List CatalogEntry) :
    (numbered start entries).map ListingEntry.entry = entries := by
  induction entries generalizing start with
  | nil => rfl
  | cons entry rest ih => rw [numbered, List.map_cons, ih]; rfl

theorem WorkspaceDocument.workspace_listing (workspace : WorkspaceDocument) :
    workspace.listing.workspace = workspace := by
  simp only [listing, Listing.workspace, CatalogEntry.map_entry_numbered]

namespace Listing

/-- Resources of one kind are listed with running numbers. -/
theorem entriesOf_resources (kind : ResourceKind) (start : Nat) (entries : List CatalogEntry) :
    entriesOf kind ((entries.map (CatalogEntry.resource kind)).zipIdx start) =
      CatalogEntry.numbered start entries := by
  induction entries generalizing start with
  | nil => rfl
  | cons entry rest ih =>
      rw [List.map_cons, List.zipIdx_cons, CatalogEntry.numbered, ← ih]
      exact entriesOf_cons_of_kind start _ rfl

theorem ofResources_resources (workspace : WorkspaceDocument) :
    ofResources workspace.resources = workspace.listing := by
  have noTables : ∀ resource ∈ workspace.layers.map (CatalogEntry.resource .layer),
      resource.kind ≠ .table := by
    simp [CatalogEntry.resource]
  have noLayers : ∀ resource ∈ workspace.tables.map (CatalogEntry.resource .table),
      resource.kind ≠ .layer := by
    simp [CatalogEntry.resource]
  rw [ofResources, WorkspaceDocument.resources, List.zipIdx_append, entriesOf_append,
    entriesOf_append, entriesOf_of_other _ noTables, entriesOf_of_other _ noLayers,
    entriesOf_resources, entriesOf_resources, List.append_nil, List.nil_append, Nat.zero_add,
    List.length_map]
  rfl

end Listing

/-! ## What a document says on each workspace -/

namespace CatalogDocument

def Distinct (document : CatalogDocument) : Prop :=
  (document.workspaces.map Prod.fst).Nodup

/-- The names of the workspaces, each at its first place. -/
def names (document : CatalogDocument) : List String :=
  (document.workspaces.map Prod.fst).eraseDups

/-- What the document says on a workspace. If it does so twice, the last counts. -/
def workspace? (document : CatalogDocument) (name : String) : Option WorkspaceDocument :=
  document.workspaces.reverse.lookup name

end CatalogDocument

namespace CatalogDocument

variable {document : CatalogDocument}

theorem names_of_distinct (distinct : document.Distinct) :
    document.names = document.workspaces.map Prod.fst :=
  eraseDups_of_nodup distinct

theorem workspace?_of_distinct (distinct : document.Distinct) (name : String)
    (workspace : WorkspaceDocument) :
    document.workspace? name = some workspace ↔ (name, workspace) ∈ document.workspaces := by
  have reversed : (document.workspaces.reverse.map Prod.fst).Nodup := by
    rw [List.map_reverse]
    exact (List.reverse_perm _).nodup_iff.mpr distinct
  rw [workspace?, Keyed.lookup_eq_some_iff reversed, List.mem_reverse]

theorem distinct_of_parse {text : String} (read : Document.parse text = some document) :
    document.Distinct := by
  obtain ⟨tree, _, fromTree⟩ := Option.bind_eq_some_iff.mp read
  obtain ⟨fields, _, fromFields⟩ := Option.bind_eq_some_iff.mp fromTree
  obtain ⟨members, _, same⟩ := Option.bind_eq_some_iff.mp fromFields
  obtain rfl := Option.some.inj same
  have start : (([] : List (String × WorkspaceDocument)).map Prod.fst).Nodup := List.nodup_nil
  exact Keyed.nodup_keys_foldl_put start members

end CatalogDocument

/-! ## Loading -/

namespace Workspaces

theorem names_setAll (calls : List (String × List Resource)) :
    (empty.setAll calls).names = (calls.map Prod.fst).eraseDups := by
  induction calls using List.reverseRecOn with
  | nil => rfl
  | append_singleton others last ih =>
      have set : (empty.setAll (others ++ [last])).names =
          ((empty.setAll others).set last.1 last.2).names := by
        rw [setAll_append]
        rfl
      rw [set, names_set, ih, List.map_append, List.map_singleton, eraseDups_append_singleton]

theorem keys_loading (document : CatalogDocument) :
    (loading document).map Prod.fst = document.workspaces.map Prod.fst := by
  rw [loading, List.map_map]
  rfl

theorem names_ofDocument (document : CatalogDocument) :
    (ofDocument document).names = document.names := by
  rw [ofDocument_eq_setAll, names_setAll, keys_loading, CatalogDocument.names]

theorem layersFirst_of_ordered {resources : List Resource} (ordered : LayersFirst resources) :
    layersFirst resources = resources := by
  rw [layersFirst_eq]
  exact ordered.eq_append.symm

theorem resources_ordered (workspace : WorkspaceDocument) : LayersFirst workspace.resources := by
  apply LayersFirst.append
  · simp [CatalogEntry.resource]
  · simp [CatalogEntry.resource]

variable {document : CatalogDocument} {name : String}

/-- A workspace holds what the document says on it. -/
theorem resources_ofDocument {workspace : WorkspaceDocument}
    (said : document.workspace? name = some workspace) :
    (ofDocument document).resources name = .ok workspace.resources := by
  obtain ⟨before, after, split, last⟩ := (Keyed.lookup_reverse_eq_some_iff _ _ _).mp said
  have lastSet : name ∉ (after.map fun member => (member.1, member.2.resources)).map Prod.fst := by
    rwa [List.map_map]
  rw [ofDocument_eq_setAll, loading, split, List.map_append, List.map_cons,
    resources_setAll_of_last lastSet, layersFirst_of_ordered (resources_ordered workspace)]

theorem resources_of_unsaid (unsaid : document.workspace? name = none) :
    (ofDocument document).resources name = .error (.workspaceNotFound name) := by
  have absent : name ∉ (loading document).map Prod.fst := by
    rw [keys_loading]
    exact (Keyed.lookup_reverse_eq_none_iff _ _).mp unsaid
  rw [ofDocument_eq_setAll, resources_setAll_of_not_mem absent]
  rfl

variable {m : Type → Type} [Monad m] [LawfulMonad m]

theorem list_catalog (workspaces : Workspaces) (name : String) :
    Directory.list (workspaces.catalog : Catalog m) name =
      pure (((workspaces.resources name).map Listing.ofResources).mapError .ofCatalog) :=
  pure_bind _ _

/-- A document that is loaded is listed as it is: its workspaces in order, and
of each workspace the layers and the tables in order with running numbers, from
which they can be read back. Of a workspace that is given twice the first place
and the last entries count; in a document that is read from a text there is
none. -/
theorem loaded_document_is_listed (document : CatalogDocument) :
    let workspaces := ofDocument document
    workspaces.names = document.names ∧
    (∀ name workspace, document.workspace? name = some workspace →
      Directory.list (workspaces.catalog : Catalog m) name = pure (.ok workspace.listing) ∧
        workspace.listing.workspace = workspace) ∧
    (∀ name, document.workspace? name = none →
      Directory.list (workspaces.catalog : Catalog m) name =
        pure (.error (.workspaceNotFound name))) ∧
    (document.Distinct → document.names = document.workspaces.map Prod.fst ∧
      ∀ name workspace, document.workspace? name = some workspace ↔
        (name, workspace) ∈ document.workspaces) ∧
    ∀ text, Document.parse text = some document → document.Distinct := by
  refine ⟨names_ofDocument document, ?_, ?_, ?_, fun _ => CatalogDocument.distinct_of_parse⟩
  · intro name workspace said
    refine ⟨?_, workspace.workspace_listing⟩
    rw [list_catalog, resources_ofDocument said]
    exact congrArg (fun listing => pure (Except.ok listing))
      (Listing.ofResources_resources workspace)
  · intro name unsaid
    rw [list_catalog, resources_of_unsaid unsaid]
    rfl
  · intro distinct
    exact ⟨CatalogDocument.names_of_distinct distinct,
      CatalogDocument.workspace?_of_distinct distinct⟩

/-- Two towns, of which one has two layers and a table of one name. -/
def towns : CatalogDocument :=
  ⟨[("town", ⟨[⟨"roads", some ""⟩, ⟨"roads", none⟩], [⟨"roads", some "Roads"⟩, ⟨"", none⟩]⟩),
    ("Stadt", ⟨[], [⟨"owners", none⟩]⟩)]⟩

def twiceGiven : String :=
  "\x7b\"workspaces\":\x7b\"b\":\x7b\"tables\":[\x7b\"name\":\"x\"\x7d]\x7d,"
    ++ "\"a\":\x7b\x7d,\"b\":\x7b\x7d\x7d\x7d"

/-- The two towns are listed as they stand in the document. Of the workspace
that a text gives twice the last entries are read, in the first place. -/
theorem loaded_document_is_listed_towns :
    let workspaces := ofDocument towns
    let read : CatalogDocument := ⟨[("b", ⟨[], []⟩), ("a", ⟨[], []⟩)]⟩
    towns.Distinct ∧ workspaces.names = ["town", "Stadt"] ∧
      Directory.list (workspaces.catalog : Catalog Id) "town" =
        pure (.ok ⟨[⟨0, "roads", some ""⟩, ⟨1, "roads", none⟩],
          [⟨2, "roads", some "Roads"⟩, ⟨3, "", none⟩]⟩) ∧
      Directory.list (workspaces.catalog : Catalog Id) "port" =
        pure (.error (.workspaceNotFound "port")) ∧
      Document.parse twiceGiven = some read ∧ read.Distinct := by
  intro workspaces read
  have distinct : towns.Distinct := by
    unfold CatalogDocument.Distinct
    decide
  have parsed : Document.parse twiceGiven = some read := rfl
  obtain ⟨names, listed, unlisted, plain, _⟩ := loaded_document_is_listed (m := Id) towns
  obtain ⟨_, _, _, _, distinctIfRead⟩ := loaded_document_is_listed (m := Id) read
  refine ⟨distinct, ?_, (listed "town" _ rfl).1, unlisted "port" rfl, parsed,
    distinctIfRead twiceGiven parsed⟩
  rw [names, (plain distinct).1]
  rfl

end Workspaces

end FeatureService
