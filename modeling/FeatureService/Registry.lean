import FeatureService.Encoder.Identifier
import FeatureService.Text.Quoted

/-!
# The registry of encoders

A registry is drafted by registering descriptors one after the other. A label
belongs to at most one encoder: a descriptor that declares a label which is
taken is refused and changes nothing. Building the registry derives the
identifier of every encoder and reports what cannot be published.
-/

namespace FeatureService

structure Encoder where
  descriptor : Descriptor
  identifier : String

namespace Encoder

/-- The names that the encoder adds to a capabilities document, ascending. -/
def elementNames (encoder : Encoder) : List String :=
  match encoder.descriptor.publishMode with
  | .primary => [encoder.identifier]
  | .allAliases =>
      let names := encoder.descriptor.publishableAliases
      if names.isEmpty then [encoder.identifier] else names

end Encoder

/-- The encoders of a service in the order of registration, and for each label
the place of the encoder that declares it. -/
structure Registry where
  encoders : List Encoder
  owners : List (String × Nat)

namespace Registry

def get? (registry : Registry) (label : String) : Option Encoder :=
  (registry.owners.lookup label).bind fun place => registry.encoders[place]?

/-- Every alias that is an element name, ascending. -/
def publishableIdentifiers (registry : Registry) : List String :=
  Text.sortedSet
    ((registry.encoders.flatMap fun encoder => encoder.descriptor.aliases).filter
      ElementName.isValid)

/-- The element names of all encoders, ascending. -/
def elementNames (registry : Registry) : List String :=
  Text.sortedSet (registry.encoders.flatMap Encoder.elementNames)

/-- The identifiers in quotes, in order. -/
def text (registry : Registry) : String :=
  "[" ++ String.intercalate ", "
    (registry.encoders.map fun encoder => Text.quoted encoder.identifier) ++ "]"

end Registry

structure RegistryDraft where
  descriptors : List Descriptor
  owners : List (String × Nat)

namespace RegistryDraft

def empty : RegistryDraft := ⟨[], []⟩

/-- The first alias of a descriptor that is taken, with the place of its owner. -/
def taken? (draft : RegistryDraft) (descriptor : Descriptor) : Option (String × Nat) :=
  descriptor.aliases.findSome? fun label =>
    (draft.owners.lookup label).map fun place => (label, place)

/-- A draft with one more descriptor and its labels. -/
def extend (draft : RegistryDraft) (descriptor : Descriptor) : RegistryDraft where
  descriptors := draft.descriptors ++ [descriptor]
  owners := draft.owners ++ descriptor.aliases.map fun label => (label, draft.descriptors.length)

/-- Registers a descriptor. The draft after the call is given with its outcome. -/
def register (draft : RegistryDraft) (descriptor : Descriptor) :
    RegistryDraft × Except RegistrationError Unit :=
  match draft.taken? descriptor with
  | some (label, place) =>
      (draft, .error (.duplicateAlias label (Descriptor.displayNameAt draft.descriptors place)
        descriptor.displayName))
  | none => (draft.extend descriptor, .ok ())

/-- Registers descriptors up to the first that is refused. What was registered
before it stays. -/
def registerUntil (draft : RegistryDraft) :
    List Descriptor → RegistryDraft × Except RegistrationError Unit
  | [] => (draft, .ok ())
  | descriptor :: rest =>
      match draft.register descriptor with
      | (extended, .ok ()) => extended.registerUntil rest
      | (same, .error error) => (same, .error error)

/-- Registers all descriptors, or gives the error of the first that is refused. -/
def registerAll (draft : RegistryDraft) (descriptors : List Descriptor) :
    Except RegistrationError RegistryDraft :=
  match draft.registerUntil descriptors with
  | (extended, .ok ()) => .ok extended
  | (_, .error error) => .error error

/-- The draft after a run of calls, some of which may have been refused. -/
def offerAll (draft : RegistryDraft) (calls : List Descriptor) : RegistryDraft :=
  calls.foldl (fun draft descriptor => (draft.register descriptor).1) draft

/-- The descriptors of a run of calls that are accepted. -/
def accepted (draft : RegistryDraft) : List Descriptor → List Descriptor
  | [] => []
  | descriptor :: rest =>
      match draft.register descriptor with
      | (extended, .ok ()) => descriptor :: extended.accepted rest
      | (same, .error _) => same.accepted rest

end RegistryDraft

/-- The reports on the aliases of a descriptor that are no element names. -/
def Descriptor.aliasReports (descriptor : Descriptor) : List Diagnostic :=
  (descriptor.aliases.filter fun label => !ElementName.isValid label).map .aliasNotPublishable

/-- A registry under construction: the encoders so far, and for each identifier
that was published the place of the encoder that came with it. -/
structure Construction where
  encoders : List Encoder
  published : List (String × Nat)

namespace Construction

def empty : Construction := ⟨[], []⟩

/-- Takes in an encoder with its place. A new identifier is published with the
place, one that was published before is reported. -/
def publish (construction : Construction) (place : Nat) (encoder : Encoder) :
    Construction × List Diagnostic :=
  match construction.published.lookup encoder.identifier with
  | some other =>
      ({ construction with encoders := construction.encoders ++ [encoder] },
        [.identifierCollision encoder.identifier
          (Descriptor.displayNameAt (construction.encoders.map Encoder.descriptor) other)
          encoder.descriptor.displayName])
  | none =>
      ({ encoders := construction.encoders ++ [encoder]
         published := construction.published ++ [(encoder.identifier, place)] }, [])

/-- Derives the identifiers of descriptors with their places and takes the
encoders in. -/
def run (construction : Construction) : List (Descriptor × Nat) → Reported Construction
  | [] => ⟨[], .ok construction⟩
  | (descriptor, place) :: rest =>
      let derived := descriptor.identifier
      match derived.outcome with
      | .error error => ⟨derived.diagnostics, .error error⟩
      | .ok identifier =>
          let (extended, collisions) := construction.publish place ⟨descriptor, identifier⟩
          let further := extended.run rest
          ⟨derived.diagnostics ++ descriptor.aliasReports ++ collisions ++ further.diagnostics,
            further.outcome⟩

end Construction

def RegistryDraft.build (draft : RegistryDraft) : Reported Registry :=
  let built := Construction.empty.run draft.descriptors.zipIdx
  ⟨built.diagnostics, built.outcome.map fun construction =>
    ⟨construction.encoders, draft.owners⟩⟩

end FeatureService
