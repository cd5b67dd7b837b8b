/-!
# File trees

What commands find at a path, and a directory of files in which relative paths
are followed name by name.
-/

namespace FeatureService

inductive FileState where
  | absent
  /-- Something that has no text, with the reason. -/
  | unreadable (cause : String)
  | text (content : String)
  deriving DecidableEq

/-- A directory with what lies in it, by the names on the way. The directories on
the way to a file need not be listed. -/
structure FileTree where
  files : List (List String × String)
  directories : List (List String)

inductive FilePlace where
  | file (content : String)
  | directory (names : List String)
  /-- A directory that the tree lies in. -/
  | outside
  deriving DecidableEq

namespace FilePlace

def state : FilePlace → FileState
  | file content => .text content
  | directory _ | outside => .unreadable "a directory"

end FilePlace

namespace FileTree

def isDirectory (tree : FileTree) (names : List String) : Bool :=
  tree.directories.any names.isPrefixOf || tree.files.any fun file => names.isPrefixOf file.1

def place? (tree : FileTree) (names : List String) : Option FilePlace :=
  match tree.files.lookup names with
  | some content => some (.file content)
  | none => if tree.isDirectory names then some (.directory names) else none

/-- Follows one name of a path. A dot stays in place and two dots lead back. No
name leads on from a file, and none from outside into the tree. -/
def follow (tree : FileTree) (place : FilePlace) (name : String) : Option FilePlace :=
  match place with
  | .file _ => none
  | .outside => if name = "" ∨ name = "." ∨ name = ".." then some .outside else none
  | .directory names =>
      if name = "" ∨ name = "." then some place
      else if name = ".." then some (if names.isEmpty then .outside else .directory names.dropLast)
      else tree.place? (names ++ [name])

/-- The bytes of a path that leads to nothing because of its length. -/
def pathLimit : Nat := 4096

def look (tree : FileTree) (path : String) : FileState :=
  if path.isEmpty || path.toList.head? == some '/' || pathLimit ≤ path.utf8ByteSize then .absent
  else
    match (path.splitOn "/").foldlM tree.follow (.directory []) with
    | some place => place.state
    | none => .absent

end FileTree

end FeatureService
