import FeatureService.Json.Layout
import FeatureService.Json.Reader

/-!
# Documents

Types that are exchanged as JSON documents. A document is written as the JSON
value of what it holds, and read back through a reader.
-/

namespace FeatureService

/-- A type whose values are exchanged as JSON documents. -/
class Document (α : Type) where
  /-- The JSON value that is written. -/
  toJson : α → Json
  /-- How a document is read. -/
  read : Reader α

namespace Document

variable {α : Type} [Document α]

def render (value : α) : String :=
  (toJson value).render

def parse (text : String) : Option α :=
  (Tree.read text).bind (read Reader.levelLimit)

end Document

instance : Document Json where
  toJson value := value
  read := Reader.json

instance {α : Type} [Document α] : Document (List α) where
  toJson values := .array (values.map Document.toJson)
  read := Reader.list Document.read

end FeatureService
