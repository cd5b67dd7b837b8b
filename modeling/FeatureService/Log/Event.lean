import FeatureService.Directory
import FeatureService.Service.Startup
import FeatureService.Text.Quoted

/-!
# Log events

What a service writes to its log as it starts, negotiates and resolves. An
event names the part of the service that it comes from.
-/

namespace FeatureService

inductive LogLevel where
  | error
  | warn
  | info
  | debug
  | trace
  deriving DecidableEq

namespace LogLevel

def name : LogLevel → String
  | error => "ERROR"
  | warn => "WARN"
  | info => "INFO"
  | debug => "DEBUG"
  | trace => "TRACE"

/-- The rank of a level, lower for more important events. -/
def rank : LogLevel → Nat
  | error => 1
  | warn => 2
  | info => 3
  | debug => 4
  | trace => 5

end LogLevel

structure LogEvent where
  level : LogLevel
  target : String
  message : String
  deriving DecidableEq

namespace LogEvent

def messageField : String := "message"

/-- The characters of a log line for a character of a message. Characters that
control a terminal are given by their number. -/
def plainChar (c : Char) : List Char :=
  if c = '\x1b' then ['\\', 'x', '1', 'b']
  else if c = '\x07' then ['\\', 'x', '0', '7']
  else if c = '\x08' then ['\\', 'x', '0', '8']
  else if c = '\x0c' then ['\\', 'x', '0', 'c']
  else if c = '\x7f' then ['\\', 'x', '7', 'f']
  else if 0x80 ≤ c.toNat ∧ c.toNat < 0xA0 then Text.codePointEscape c
  else [c]

/-- An event whose message cannot control a terminal. -/
def plain (event : LogEvent) : LogEvent :=
  { event with message := String.ofList (event.message.toList.flatMap plainChar) }

def line (event : LogEvent) : String :=
  event.level.name ++ " " ++ event.target ++ ": " ++ event.message

def configLoaded (path : String) : LogEvent :=
  ⟨.info, "geoformat_core::config", "Loaded configuration from " ++ path⟩

def registering (configured : List Descriptor) : LogEvent :=
  ⟨.info, "geoformat_runtime",
    "Registering " ++ toString BuiltIn.descriptors.length ++ " built-in and "
      ++ toString configured.length ++ " configured output formats"⟩

def registryBuilt (registry : Registry) : LogEvent :=
  ⟨.info, "geoformat_core::registry",
    "Encoder registry built with " ++ toString registry.encoders.length ++ " encoders"⟩

/-- A label that is not published is of less importance than other diagnostics. -/
def levelOf : Diagnostic → LogLevel
  | .aliasNotPublishable _ => .debug
  | _ => .warn

def ofDiagnostic (diagnostic : Diagnostic) : LogEvent :=
  ⟨levelOf diagnostic, "geoformat::config", diagnostic.message⟩

def formatText : Option String → String
  | none => "None"
  | some format => "Some(" ++ Text.quoted format ++ ")"

def ofNegotiation (operation : Operation) : Except NegotiationError Encoder → LogEvent
  | .ok encoder =>
      ⟨.debug, "geoformat_core::negotiator",
        "Negotiated encoder '" ++ encoder.identifier ++ "' for " ++ operation.kind.name⟩
  | .error error =>
      ⟨.debug, "geoformat_core::negotiator",
        "No encoder for " ++ error.kind ++ " (format " ++ formatText error.outputFormat ++ "): "
          ++ error.reason.message⟩

def catalogLoaded (workspaces : Nat) (path : String) : LogEvent :=
  ⟨.debug, "geoformat_core::catalog",
    "Loaded catalog with " ++ toString workspaces ++ " workspaces from " ++ path⟩

/-- The events of a resolution: a position that was looked up is told, a name
is not. -/
def ofResolution (workspace : String) : Except ResolveError Resolution → List LogEvent
  | .ok (.byPosition place name) =>
      [⟨.debug, "geoformat_core::directory",
        "Resolved legacy id " ++ toString place ++ " in " ++ workspace ++ " to " ++ name⟩]
  | _ => []

def resolved (workspace reference qualified : String) : LogEvent :=
  ⟨.info, "geoformat_cli::resolve",
    "Resolved '" ++ reference ++ "' in " ++ workspace ++ " to " ++ qualified⟩

def listed (workspace : String) (listing : Listing) : LogEvent :=
  ⟨.info, "geoformat_cli::resolve",
    if listing.isEmpty then "Workspace " ++ workspace ++ " has no layers or tables"
    else "Listed " ++ toString listing.size ++ " resources in " ++ workspace⟩

/-- The events of a start. Diagnostics are told unless they are collected. -/
def ofStart (settings : Settings) (collected : Bool) : List LogEvent :=
  match settings.descriptors with
  | .error _ => []
  | .ok configured =>
      let started := settings.registry
      registering configured :: (if collected then [] else started.diagnostics.map ofDiagnostic)
        ++ (match started.outcome with
            | .ok registry => [registryBuilt registry]
            | .error _ => [])

end LogEvent

end FeatureService
