import FeatureService.Directory
import FeatureService.Negotiation

/-!
# Errors of a service

The failures of all parts of a service under one type.
-/

namespace FeatureService

inductive ServiceError where
  | io (cause : String)
  | json (cause : String)
  | registration (error : RegistrationError)
  | negotiation (error : NegotiationError)
  | resolve (error : ResolveError)
  | catalog (error : CatalogError)
  | missingConfig (path : String)
  deriving DecidableEq

namespace ServiceError

def message : ServiceError → String
  | io cause => "I/O error: " ++ cause
  | json cause => "JSON serialization/deserialization error: " ++ cause
  | registration error => "Configuration error: " ++ error.message
  | negotiation error => error.message
  | resolve error => error.message
  | catalog error => error.message
  | missingConfig path => "Config file not found: " ++ path

end ServiceError

end FeatureService
