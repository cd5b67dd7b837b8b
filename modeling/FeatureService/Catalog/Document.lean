import FeatureService.Catalog.Workspaces
import FeatureService.Resource.Document

/-!
# Catalogs as documents

A catalog document lists the layers and the tables of each workspace.
-/

namespace FeatureService

structure CatalogEntry where
  name : String
  title : Option String
  deriving DecidableEq

structure WorkspaceDocument where
  layers : List CatalogEntry
  tables : List CatalogEntry
  deriving DecidableEq

/-- The workspaces of a catalog in order. -/
structure CatalogDocument where
  workspaces : List (String × WorkspaceDocument)
  deriving DecidableEq

instance : Document CatalogEntry where
  toJson entry := .object (("name", .text entry.name) :: titleMember entry.title)
  read levels tree := do
    let fields ← Fields.read ["name", "title"] levels tree
    let name ← fields.required "name" Reader.text
    let title ← fields.withDefault "title" (Reader.optional Reader.text) none
    some ⟨name, title⟩

instance : Document WorkspaceDocument where
  toJson workspace := .object
    [("layers", Document.toJson workspace.layers), ("tables", Document.toJson workspace.tables)]
  read levels tree := do
    let fields ← Fields.read ["layers", "tables"] levels tree
    let layers ← fields.withDefault "layers" Document.read []
    let tables ← fields.withDefault "tables" Document.read []
    some ⟨layers, tables⟩

instance : Document CatalogDocument where
  toJson document := .object
    [("workspaces", .object
      (document.workspaces.map fun (name, workspace) => (name, Document.toJson workspace)))]
  read levels tree := do
    let fields ← Fields.read ["workspaces"] levels tree
    let members ← fields.withDefault "workspaces" (Reader.members Document.read) []
    some ⟨members.foldl (fun held (name, workspace) => Keyed.put name workspace held) []⟩

namespace CatalogEntry

def resource (kind : ResourceKind) (entry : CatalogEntry) : Resource :=
  ⟨entry.name, kind, entry.title⟩

end CatalogEntry

namespace WorkspaceDocument

/-- The resources of a workspace, layers first. -/
def resources (workspace : WorkspaceDocument) : List Resource :=
  workspace.layers.map (CatalogEntry.resource .layer)
    ++ workspace.tables.map (CatalogEntry.resource .table)

end WorkspaceDocument

namespace Workspaces

def ofDocument (document : CatalogDocument) : Workspaces :=
  document.workspaces.foldl
    (fun workspaces (name, workspace) => workspaces.set name workspace.resources) empty

def parse (text : String) : Option Workspaces :=
  (Document.parse text).map ofDocument

end Workspaces

end FeatureService
