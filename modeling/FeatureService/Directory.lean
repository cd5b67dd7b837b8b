import FeatureService.Catalog.Basic
import FeatureService.Json.Numeral
import FeatureService.Resource.Listing

/-!
# The resource directory

Resolves what a client gives as reference to a resource in a workspace. A text
of ASCII digits is a position in the present order of the catalog; every other
text is a name, which is taken as it stands. A position is looked up with one
question to the catalog, and a position of `2 ^ 64` or more with none.
-/

namespace FeatureService

inductive ResolveError where
  | resourceNotFound (workspace reference : String)
  | workspaceNotFound (workspace : String)
  | directoryUnavailable (cause : String)
  deriving DecidableEq

namespace ResolveError

def message : ResolveError → String
  | resourceNotFound workspace reference =>
      "No resource '" ++ reference ++ "' in namespace " ++ workspace
  | workspaceNotFound workspace => "Namespace not found: " ++ workspace
  | directoryUnavailable cause => "Directory unavailable: " ++ cause

def ofCatalog : CatalogError → ResolveError
  | .workspaceNotFound workspace => .workspaceNotFound workspace
  | .unavailable cause => .directoryUnavailable cause

end ResolveError

inductive Reference where
  | name (name : String)
  | position (place : Nat)
  | beyond
  deriving DecidableEq

namespace Reference

/-- Tells names, positions and positions beyond 64 bits apart. -/
def parse (text : String) : Reference :=
  if text.toList.isEmpty || !text.toList.all Char.isDigit then .name text
  else
    let place := Numeral.natural text.toList
    if place < Nat.pow 2 64 then .position place else .beyond

end Reference

inductive Resolution where
  | byName (name : String)
  | byPosition (place : Nat) (name : String)
  deriving DecidableEq

namespace Resolution

def name : Resolution → String
  | byName name => name
  | byPosition _ name => name

end Resolution

namespace Directory

variable {m : Type → Type} [Monad m]

/-- Finds the resource that a reference means. -/
def locate (catalog : Catalog m) (workspace reference : String) :
    m (Except ResolveError Resolution) :=
  match Reference.parse reference with
  | .name name => pure (.ok (.byName name))
  | .beyond => pure (.error (.resourceNotFound workspace reference))
  | .position place => do
      match ← catalog.entryAt workspace place with
      | .ok (some resource) => pure (.ok (.byPosition place resource.name))
      | .ok none => pure (.error (.resourceNotFound workspace reference))
      | .error error => pure (.error (.ofCatalog error))

/-- The qualified name of the resource that a reference means. -/
def resolve (catalog : Catalog m) (workspace reference : String) :
    m (Except ResolveError String) := do
  let found ← locate catalog workspace reference
  pure (found.map fun resolution => qualifiedName workspace resolution.name)

def list (catalog : Catalog m) (workspace : String) : m (Except ResolveError Listing) := do
  let found ← catalog.entries workspace
  pure ((found.map Listing.ofResources).mapError .ofCatalog)

end Directory

end FeatureService
