import FeatureService.Service.BuiltIn
import FeatureService.Service.Settings

/-!
# Starting a service

The registry of a service holds the built-in formats and then the configured
ones. Any error in them keeps the service from starting.
-/

namespace FeatureService.Settings

/-- The registry of built-in formats and further descriptors. -/
def registryOf (configured : List Descriptor) : Reported Registry :=
  match RegistryDraft.empty.registerAll (BuiltIn.descriptors ++ configured) with
  | .error error => ⟨[], .error error⟩
  | .ok draft => draft.build

def registry (settings : Settings) : Reported Registry :=
  match settings.descriptors with
  | .error error => ⟨[], .error error⟩
  | .ok configured => registryOf configured

def negotiatorOver (settings : Settings) (registry : Registry) : Negotiator :=
  ⟨registry, settings.negotiation.recognizedOperations.map OperationKind.mk⟩

def negotiator (settings : Settings) : Reported Negotiator :=
  ⟨settings.registry.diagnostics, settings.registry.outcome.map settings.negotiatorOver⟩

end FeatureService.Settings
