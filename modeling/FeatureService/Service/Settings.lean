import FeatureService.Negotiation

/-!
# Settings

What the configuration of a service says: which operations are feature queries,
how long a look-up in the catalog may take, and which output formats there are
beside the built-in ones.
-/

namespace FeatureService

structure NegotiationSettings where
  recognizedOperations : List String := Negotiator.defaultRecognized
  deriving DecidableEq

structure DirectorySettings where
  /-- The longest time for one look-up, in milliseconds. -/
  lookupTimeout : UInt64 := 5000
  deriving DecidableEq

structure FormatSettings where
  aliases : List String
  identifier : Option String := none
  mimeType : Option String := none
  publishAllAliases : Bool := false
  typeName : Option String := none
  requiresParameter : Option String := none
  deriving DecidableEq

structure Settings where
  negotiation : NegotiationSettings := {}
  directory : DirectorySettings := {}
  formats : List FormatSettings := []
  deriving DecidableEq

namespace FormatSettings

def draft (format : FormatSettings) : DescriptorDraft :=
  let base : DescriptorDraft := { labels := format.aliases }
  { base with
    predicate := (format.requiresParameter.map .requiresParameter).getD base.predicate
    identifierOverride := format.identifier
    typeName := format.typeName
    mimeType := format.mimeType.getD base.mimeType
    publishMode := if format.publishAllAliases then .allAliases else base.publishMode }

def descriptor (format : FormatSettings) : Except RegistrationError Descriptor :=
  format.draft.build

end FormatSettings

namespace Settings

/-- The descriptors of the declared formats, up to the first that is refused. -/
def descriptors (settings : Settings) : Except RegistrationError (List Descriptor) :=
  settings.formats.mapM FormatSettings.descriptor

end Settings

end FeatureService
