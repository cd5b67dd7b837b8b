import FeatureService.Encoder.Descriptor
import FeatureService.Encoder.TypeName

/-!
# Identifiers

The identifier of an encoder is the first element name among its declared
identifier, its primary alias and the last segment of its type name. A declared
identifier that is passed over is reported, and so is the use of the type name.
-/

namespace FeatureService.Descriptor

def noTypeNameReason : String :=
  "no valid override or alias and no implementation type name to fall back on"

def badTypeNameReason (segment : String) : String :=
  "type name fallback '" ++ segment ++ "' is not a valid element name"

/-- The report on a declared identifier that is no element name. -/
def overrideReport (descriptor : Descriptor) : List Diagnostic :=
  match descriptor.identifierOverride with
  | some identifier =>
      if ElementName.isValid identifier then []
      else [.overrideRejected descriptor.primaryAlias identifier]
  | none => []

def typeNameIdentifier (descriptor : Descriptor) : Reported String :=
  match descriptor.typeName with
  | none => ⟨[], .error (.invalidIdentifier descriptor.primaryAlias noTypeNameReason)⟩
  | some typeName =>
      let segment := TypeName.short typeName
      if ElementName.isValid segment then
        ⟨[.typeNameFallback descriptor.primaryAlias segment], .ok segment⟩
      else ⟨[], .error (.invalidIdentifier descriptor.primaryAlias (badTypeNameReason segment))⟩

/-- The identifier where no declared identifier can serve. -/
def undeclaredIdentifier (descriptor : Descriptor) : Reported String :=
  if ElementName.isValid descriptor.primaryAlias then ⟨[], .ok descriptor.primaryAlias⟩
  else descriptor.typeNameIdentifier

def identifier (descriptor : Descriptor) : Reported String :=
  match descriptor.identifierOverride.filter ElementName.isValid with
  | some identifier => ⟨[], .ok identifier⟩
  | none =>
      let derived := descriptor.undeclaredIdentifier
      ⟨descriptor.overrideReport ++ derived.diagnostics, derived.outcome⟩

end FeatureService.Descriptor
