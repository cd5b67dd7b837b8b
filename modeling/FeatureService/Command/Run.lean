import FeatureService.Catalog.Document
import FeatureService.Command.FileTree
import FeatureService.Command.Request
import FeatureService.Command.Table
import FeatureService.Log.Filter
import FeatureService.Operation.Document
import FeatureService.Service.Document
import FeatureService.Service.Error

/-!
# Running commands

What each command prints, with which message it fails and what it logs. Files
are read through a function of the caller.
-/

namespace FeatureService

inductive CommandError where
  | service (error : ServiceError)
  /-- The encoders of the service are at fault. -/
  | registration (error : RegistrationError)
  /-- A parameter is not written as a key and a value. -/
  | malformedParameter (raw : String)
  deriving DecidableEq

namespace CommandError

def message : CommandError → String
  | service error => error.message
  | registration error => error.message
  | malformedParameter raw => "expected KEY=VALUE, got '" ++ raw ++ "'"

end CommandError

/-- What a command prints before it ends, how it ends, and what it logs. -/
structure Performance where
  output : String
  failure : Option CommandError
  log : List LogEvent

namespace Performance

def printed (output : String) (log : List LogEvent) : Performance :=
  ⟨output, none, log⟩

def failed (error : CommandError) (log : List LogEvent) : Performance :=
  ⟨"", some error, log⟩

def after (log : List LogEvent) (performance : Performance) : Performance :=
  { performance with log := log ++ performance.log }

end Performance

namespace Command

def printLines (lines : List String) : String :=
  String.join (lines.map (· ++ "\n"))

/-! ## Commands on the registry -/

/-- Starts the registry and prints what a command makes of it. -/
def withRegistry (settings : Settings) (print : Registry → String) : Performance :=
  let log := LogEvent.ofStart settings false
  match settings.registry.outcome with
  | .ok registry => .printed (print registry) log
  | .error error => .failed (.registration error) log

def aliasText (encoder : Encoder) : String :=
  String.intercalate ", " encoder.descriptor.aliases

def formatRow (encoder : Encoder) : List String :=
  [encoder.identifier, aliasText encoder, encoder.descriptor.mimeType]

def formatsText (registry : Registry) : String :=
  if registry.encoders.isEmpty then printLines ["No output formats registered."]
  else
    printLines
      [Table.render (["Identifier", "Aliases", "MIME type"] :: registry.encoders.map formatRow)]

def identifiersText (registry : Registry) : String :=
  printLines registry.publishableIdentifiers

/-- The fragment of a capabilities document that names the output formats. -/
def capabilitiesText (registry : Registry) : String :=
  printLines
    ("<ResultFormat>" :: (registry.elementNames.map fun name => "  <" ++ name ++ "/>")
      ++ ["</ResultFormat>"])

def checkText (diagnostics : List Diagnostic) (registry : Registry) : String :=
  printLines
    ((toString registry.encoders.length ++ " output formats registered.") ::
      if diagnostics.isEmpty then ["No configuration problems found."]
      else "\nDiagnostics:" :: diagnostics.map fun diagnostic => "  - " ++ diagnostic.message)

/-- Starts the registry and prints its diagnostics instead of logging them. -/
def checkSettings (settings : Settings) : Performance :=
  let log := LogEvent.ofStart settings true
  match settings.registry.outcome with
  | .ok registry => .printed (checkText settings.registry.diagnostics registry) log
  | .error error => .failed (.registration error) log

/-! ## Negotiation -/

/-- The value that the text of a parameter stands for: the JSON value that it is
written as, otherwise the text itself. -/
def paramValue (text : String) : Json :=
  (Document.parse text).getD (.text text)

/-- The key and the value of a parameter, which the first equals sign divides. -/
def parseParam (raw : String) : Except CommandError (String × Json) :=
  match raw.toList.dropWhile (· != '=') with
  | [] => .error (.malformedParameter raw)
  | _ :: value =>
      .ok (String.ofList (raw.toList.takeWhile (· != '=')), paramValue (String.ofList value))

/-- The operation that a command line describes. The requested format is set
last. -/
def operationOf (kind : String) (resultType : ResultType) (format : Option String)
    (params : List String) : Except CommandError Operation := do
  let parsed ← params.mapM parseParam
  let operation := parsed.foldl (fun operation (key, value) => operation.withParameter key value)
    (Operation.new ⟨kind⟩ resultType)
  .ok (match format with
    | some format => operation.withParameter Operation.outputFormatKey (.text format)
    | none => operation)

def encoderText (encoder : Encoder) : String :=
  printLines
    ["Identifier: " ++ encoder.identifier,
     "Aliases:    " ++ aliasText encoder,
     "MIME type:  " ++ encoder.descriptor.mimeType]

def negotiateWith (settings : Settings) (kind : String) (resultType : ResultType)
    (format : Option String) (params : List String) : Performance :=
  let log := LogEvent.ofStart settings false
  match settings.negotiator.outcome with
  | .error error => .failed (.registration error) log
  | .ok negotiator =>
      match operationOf kind resultType format params with
      | .error error => .failed error log
      | .ok operation =>
          let chosen := negotiator.negotiate operation
          let log := log ++ [LogEvent.ofNegotiation operation chosen]
          match chosen with
          | .ok encoder => .printed (encoderText encoder) log
          | .error error => .failed (.service (.negotiation error)) log

/-! ## Catalogs -/

def openCatalog (path : String) : FileState → Except ServiceError Workspaces
  | .absent => .error (.io ("no such file: " ++ path))
  | .unreadable cause => .error (.io cause)
  | .text content =>
      match Workspaces.parse content with
      | some workspaces => .ok workspaces
      | none => .error (.json ("no catalog document: " ++ path))

def withCatalog (path : String) (file : FileState) (use : Catalog Id → Performance) :
    Performance :=
  match openCatalog path file with
  | .error error => .failed (.service error) []
  | .ok workspaces =>
      (use workspaces.catalog).after [.catalogLoaded workspaces.entries.length path]

def resolveIn (workspace reference : String) (catalog : Catalog Id) : Performance :=
  let found := (Directory.locate catalog workspace reference).run
  let log := LogEvent.ofResolution workspace found
  match found with
  | .error error => .failed (.service (.resolve error)) log
  | .ok resolution =>
      let qualified := qualifiedName workspace resolution.name
      .printed (printLines [qualified]) (log ++ [.resolved workspace reference qualified])

def listIn (workspace : String) (catalog : Catalog Id) : Performance :=
  match (Directory.list catalog workspace).run with
  | .error error => .failed (.service (.resolve error)) []
  | .ok listing =>
      .printed (printLines [(Document.toJson listing).renderLines]) [.listed workspace listing]

/-! ## Settings -/

def settingsIn (path : String) (file : FileState) : Except ServiceError Settings :=
  match file with
  | .absent => .error (.missingConfig path)
  | .unreadable cause => .error (.io cause)
  | .text content =>
      match Document.parse content with
      | some settings => .ok settings
      | none => .error (.json ("no configuration document: " ++ path))

def homeConfigPath (home : String) : String :=
  home ++ "/.geoformat/config.json"

/-- The settings of a file, with the event that tells of it. -/
def loaded (path : String) (file : FileState) : Except ServiceError (Settings × List LogEvent) :=
  (settingsIn path file).map fun settings => (settings, [LogEvent.configLoaded path])

variable {m : Type → Type} [Monad m]

/-- Loads the settings: from the given file, which has to exist, else from the
file in the home directory if it exists, else the defaults. -/
def loadSettings (look : String → m FileState) (home : Option String) (path : Option String) :
    m (Except ServiceError (Settings × List LogEvent)) := do
  match path with
  | some path => pure (loaded path (← look path))
  | none =>
      match home.map homeConfigPath with
      | none => pure (.ok ({}, []))
      | some path =>
          match ← look path with
          | .absent => pure (.ok ({}, []))
          | file => pure (loaded path file)

def perform (look : String → m FileState) (settings : Settings) : Command → m Performance
  | .formats => pure (withRegistry settings formatsText)
  | .identifiers => pure (withRegistry settings identifiersText)
  | .capabilities => pure (withRegistry settings capabilitiesText)
  | .check => pure (checkSettings settings)
  | .negotiate operation resultType format params =>
      pure (negotiateWith settings operation resultType format params)
  | .resolve catalog workspace reference => do
      pure (withCatalog catalog (← look catalog) (resolveIn workspace reference))
  | .layers catalog workspace => do
      pure (withCatalog catalog (← look catalog) (listIn workspace))

end Command

namespace Request

variable {m : Type → Type} [Monad m]

def perform (look : String → m FileState) (home : Option String) (request : Request) :
    m Performance := do
  match ← Command.loadSettings look home request.config with
  | .error error => pure (.failed (.service error) [])
  | .ok (settings, log) =>
      pure ((← Command.perform look settings request.command).after log)

end Request

/-- How the program ends: what it prints, what it says about a failure, its exit
code, and its log. -/
structure Ending where
  exit : UInt32
  output : String
  complaint : Option String
  log : List LogEvent
  /-- Whether the log is shown beside being written to its file. -/
  showsLog : Bool

namespace Ending

def versionText : String := "geoformat 0.1.0\n"

def helpText : String :=
  Command.printLines
    ("Usage: geoformat [--config FILE] [--verbose] COMMAND" :: "" :: "Commands:"
      :: CommandLine.commands.map fun spec => "  " ++ spec.name)

def ofHalt : Halt → Ending
  | .help => ⟨0, helpText, none, [], false⟩
  | .version => ⟨0, versionText, none, [], false⟩
  | .usage error => ⟨2, "", some error.message, [], false⟩

/-- The end of a program that is broken off before it starts to log. -/
def brokenOff : Ending := ⟨101, "", none, [], false⟩

def ofPerformance (filter : LogFilter) (showsLog : Bool) (performance : Performance) : Ending where
  exit := if performance.failure.isSome then 1 else 0
  output := performance.output
  complaint := performance.failure.map CommandError.message
  log := (performance.log.filter filter.admits).map LogEvent.plain
  showsLog := showsLog

end Ending

/-- Runs the program on the words of a command line. `filters` are the texts
that may hold a log filter, the first before the others. A filter that splits a
character breaks the program off. -/
def runProgram {m : Type → Type} [Monad m] (look : String → m FileState) (home : Option String)
    (filters : List (Option String)) (words : List String) : m Ending := do
  match CommandLine.parse words with
  | .error halt => pure (.ofHalt halt)
  | .ok request =>
      match LogFilter.choose filters with
      | none => pure .brokenOff
      | some filter => pure (.ofPerformance filter request.verbose (← request.perform look home))

end FeatureService
