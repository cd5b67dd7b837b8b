import FeatureService.Json.Document
import FeatureService.Resource.Listing

/-!
# Resources and listings as documents

A title that is absent is not written.
-/

namespace FeatureService

def titleMember (title : Option String) : List (String × Json) :=
  match title with
  | none => []
  | some title => [("title", .text title)]

instance : Document ResourceKind where
  toJson kind := .text kind.name
  read := Reader.word (ResourceKind.all.map fun kind => (kind.name, kind))

instance : Document Resource where
  toJson resource := .object
    (("name", .text resource.name) :: ("kind", Document.toJson resource.kind)
      :: titleMember resource.title)
  read levels tree := do
    let fields ← Fields.read ["name", "kind", "title"] levels tree
    let name ← fields.required "name" Reader.text
    let kind ← fields.required "kind" Document.read
    let title ← fields.withDefault "title" (Reader.optional Reader.text) none
    some ⟨name, kind, title⟩

instance : Document ListingEntry where
  toJson entry := .object
    (("id", .number (.integer entry.id)) :: ("name", .text entry.name)
      :: titleMember entry.title)
  read levels tree := do
    let fields ← Fields.read ["id", "name", "title"] levels tree
    let id ← fields.required "id" Reader.natural
    let name ← fields.required "name" Reader.text
    let title ← fields.withDefault "title" (Reader.optional Reader.text) none
    some ⟨id, name, title⟩

instance : Document Listing where
  toJson listing := .object
    [("layers", Document.toJson listing.layers), ("tables", Document.toJson listing.tables)]
  read levels tree := do
    let fields ← Fields.read ["layers", "tables"] levels tree
    let layers ← fields.required "layers" Document.read
    let tables ← fields.required "tables" Document.read
    some ⟨layers, tables⟩

end FeatureService
