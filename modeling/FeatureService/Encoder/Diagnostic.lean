/-!
# Diagnostics and registration errors

What can be wrong with the encoders of a service. A diagnostic is reported and
the service starts; an error keeps it from starting.
-/

namespace FeatureService

/-- A problem that does not keep the service from starting. -/
inductive Diagnostic where
  /-- A declared identifier is no element name. -/
  | overrideRejected (primaryAlias identifier : String)
  /-- The name of the implementation type is published, as no declared name can be. -/
  | typeNameFallback (primaryAlias identifier : String)
  /-- An alias can be requested but not published. -/
  | aliasNotPublishable (label : String)
  /-- Two encoders are published under one identifier. -/
  | identifierCollision (identifier first second : String)
  deriving DecidableEq

namespace Diagnostic

def message : Diagnostic → String
  | overrideRejected primaryAlias identifier =>
      "encoder '" ++ primaryAlias ++ "': identifier override '" ++ identifier
        ++ "' is not a valid element name"
  | typeNameFallback primaryAlias identifier =>
      "encoder '" ++ primaryAlias ++ "': no valid identifier declared, publishing type name '"
        ++ identifier ++ "'"
  | aliasNotPublishable label =>
      "alias '" ++ label ++ "' is not a valid element name and is not published"
  | identifierCollision identifier first second =>
      "encoders '" ++ first ++ "' and '" ++ second ++ "' are both published as '"
        ++ identifier ++ "'"

end Diagnostic

/-- A problem that keeps the service from starting. -/
inductive RegistrationError where
  | emptyAliases (typeName : String)
  | duplicateAlias (label first second : String)
  | invalidIdentifier (primaryAlias reason : String)
  deriving DecidableEq

namespace RegistrationError

def message : RegistrationError → String
  | emptyAliases typeName => "Encoder " ++ typeName ++ " declares no output format aliases"
  | duplicateAlias label first second =>
      "Output format alias '" ++ label ++ "' is registered by both " ++ first ++ " and " ++ second
  | invalidIdentifier primaryAlias reason =>
      "Encoder with primary alias '" ++ primaryAlias ++ "' has no publishable identifier: "
        ++ reason

end RegistrationError

/-- What a step of registration gives, with the diagnostics that it reports in
order. -/
structure Reported (α : Type) where
  diagnostics : List Diagnostic
  outcome : Except RegistrationError α

end FeatureService
