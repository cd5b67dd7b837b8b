import FeatureService.Json.Document
import FeatureService.Service.Settings

/-!
# Settings as documents

Every setting but the aliases of a format may be left out. All are written.
-/

namespace FeatureService

def textOrNull : Option String → Json
  | none => .null
  | some text => .text text

instance : Document PublishMode where
  toJson mode := .text mode.name
  read := Reader.word (PublishMode.all.map fun mode => (mode.name, mode))

instance : Document NegotiationSettings where
  toJson settings := .object
    [("recognized_operations", .array (settings.recognizedOperations.map .text))]
  read levels tree := do
    let fields ← Fields.read ["recognized_operations"] levels tree
    let defaults : NegotiationSettings := {}
    let recognizedOperations ← fields.withDefault "recognized_operations"
      (Reader.list Reader.text) defaults.recognizedOperations
    some { recognizedOperations }

instance : Document DirectorySettings where
  toJson settings := .object
    [("lookup_timeout_ms", .number (.integer settings.lookupTimeout.toNat))]
  read levels tree := do
    let fields ← Fields.read ["lookup_timeout_ms"] levels tree
    let defaults : DirectorySettings := {}
    let lookupTimeout ← fields.withDefault "lookup_timeout_ms"
      (fun levels tree => (Reader.natural levels tree).map UInt64.ofNat) defaults.lookupTimeout
    some { lookupTimeout }

instance : Document FormatSettings where
  toJson format := .object
    [("aliases", .array (format.aliases.map .text)),
     ("identifier", textOrNull format.identifier),
     ("mime_type", textOrNull format.mimeType),
     ("publish_all_aliases", .boolean format.publishAllAliases),
     ("type_name", textOrNull format.typeName),
     ("requires_parameter", textOrNull format.requiresParameter)]
  read levels tree := do
    let fields ← Fields.read
      ["aliases", "identifier", "mime_type", "publish_all_aliases", "type_name",
       "requires_parameter"] levels tree
    let aliases ← fields.required "aliases" (Reader.list Reader.text)
    let identifier ← fields.withDefault "identifier" (Reader.optional Reader.text) none
    let mimeType ← fields.withDefault "mime_type" (Reader.optional Reader.text) none
    let publishAllAliases ← fields.withDefault "publish_all_aliases" Reader.flag false
    let typeName ← fields.withDefault "type_name" (Reader.optional Reader.text) none
    let requiresParameter ←
      fields.withDefault "requires_parameter" (Reader.optional Reader.text) none
    some { aliases, identifier, mimeType, publishAllAliases, typeName, requiresParameter }

instance : Document Settings where
  toJson settings := .object
    [("negotiation", Document.toJson settings.negotiation),
     ("directory", Document.toJson settings.directory),
     ("formats", Document.toJson settings.formats)]
  read levels tree := do
    let fields ← Fields.read ["negotiation", "directory", "formats"] levels tree
    let negotiation ← fields.withDefault "negotiation" Document.read {}
    let directory ← fields.withDefault "directory" Document.read {}
    let formats ← fields.withDefault "formats" Document.read []
    some { negotiation, directory, formats }

end FeatureService
