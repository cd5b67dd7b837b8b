import FeatureService.Catalog.Basic
import FeatureService.Keyed.Arrival

/-!
# A catalog in memory

Workspaces in the order in which they first arrived. In each, the layers
precede the tables, and resources of one kind keep the order in which they were
given.
-/

namespace FeatureService

structure Workspaces where
  entries : List (String × List Resource)
  deriving DecidableEq

namespace Workspaces

def empty : Workspaces := ⟨[]⟩

/-- Moves the layers in front of the tables. -/
def layersFirst (resources : List Resource) : List Resource :=
  (resources.filter fun resource => resource.kind = .layer)
    ++ resources.filter fun resource => resource.kind ≠ .layer

def set (workspace : String) (resources : List Resource) (workspaces : Workspaces) : Workspaces :=
  ⟨Keyed.put workspace (layersFirst resources) workspaces.entries⟩

def names (workspaces : Workspaces) : List String :=
  workspaces.entries.map Prod.fst

def resources (workspaces : Workspaces) (workspace : String) :
    Except CatalogError (List Resource) :=
  match workspaces.entries.lookup workspace with
  | some resources => .ok resources
  | none => .error (.workspaceNotFound workspace)

def catalog {m : Type → Type} [Monad m] (workspaces : Workspaces) : Catalog m where
  entryAt workspace place := pure ((workspaces.resources workspace).map (·[place]?))
  entries workspace := pure (workspaces.resources workspace)

end Workspaces

end FeatureService
