import FeatureService.Resource.Basic

/-!
# Catalogs

A catalog owns the resources of workspaces. It is known by its answers to two
questions, which may have effects and may fail: the resource at a place, and
all resources, layers first.
-/

namespace FeatureService

inductive CatalogError where
  | workspaceNotFound (workspace : String)
  | unavailable (cause : String)
  deriving DecidableEq

namespace CatalogError

def message : CatalogError → String
  | workspaceNotFound workspace => "Namespace not found: " ++ workspace
  | unavailable cause => "Catalog unavailable: " ++ cause

end CatalogError

structure Catalog (m : Type → Type) where
  /-- The resource at a place in a workspace, if there are so many. -/
  entryAt : String → Nat → m (Except CatalogError (Option Resource))
  /-- The resources of a workspace in order. -/
  entries : String → m (Except CatalogError (List Resource))

namespace Catalog

variable {m : Type → Type} [Monad m]

def unreachable (cause : String) : Catalog m where
  entryAt _ _ := pure (.error (.unavailable cause))
  entries _ := pure (.error (.unavailable cause))

end Catalog

end FeatureService
