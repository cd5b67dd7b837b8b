/-!
# Resources

Layers and tables. A resource is addressed by a qualified name, which joins the
name of its workspace and its own.
-/

namespace FeatureService

inductive ResourceKind where
  | layer
  | table
  deriving DecidableEq

namespace ResourceKind

def name : ResourceKind → String
  | layer => "layer"
  | table => "table"

def all : List ResourceKind := [layer, table]

end ResourceKind

structure Resource where
  name : String
  kind : ResourceKind
  title : Option String
  deriving DecidableEq

def qualifiedName (workspace name : String) : String :=
  workspace ++ ":" ++ name

end FeatureService
