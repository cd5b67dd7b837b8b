import FeatureService.Resource.Basic

/-!
# Listings

A listing shows the layers and the tables of a workspace, each with the number
of its place among all resources, counted from zero.
-/

namespace FeatureService

structure ListingEntry where
  id : Nat
  name : String
  title : Option String
  deriving DecidableEq

structure Listing where
  layers : List ListingEntry
  tables : List ListingEntry
  deriving DecidableEq

namespace Listing

def entriesOf (kind : ResourceKind) (numbered : List (Resource × Nat)) : List ListingEntry :=
  numbered.filterMap fun (resource, id) =>
    if resource.kind = kind then some ⟨id, resource.name, resource.title⟩ else none

/-- Numbers resources by their place and separates the kinds. -/
def ofResources (resources : List Resource) : Listing :=
  ⟨entriesOf .layer resources.zipIdx, entriesOf .table resources.zipIdx⟩

def size (listing : Listing) : Nat :=
  listing.layers.length + listing.tables.length

def isEmpty (listing : Listing) : Bool :=
  listing.layers.isEmpty && listing.tables.isEmpty

/-- The names of entries with commas between them. -/
def names (entries : List ListingEntry) : String :=
  String.intercalate ", " (entries.map ListingEntry.name)

/-- The names of the layers, then those of the tables. -/
def text (listing : Listing) : String :=
  "[" ++ names listing.layers ++ "];[" ++ names listing.tables ++ "]"

end Listing

end FeatureService
