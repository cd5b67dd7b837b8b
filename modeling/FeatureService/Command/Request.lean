import FeatureService.Operation.Basic

/-!
# Command lines

The words of a command line, read from left to right into a request. An option
takes its value from behind an equals sign or from the next word, which may not
look like an option itself. Every option but `--param` is given once at most in
front of the command and once behind it; behind two dashes nothing is an option.
-/

namespace FeatureService

inductive Command where
  | formats
  | identifiers
  | capabilities
  | check
  | negotiate (operation : String) (resultType : ResultType) (format : Option String)
      (params : List String)
  | resolve (catalog workspace reference : String)
  | layers (catalog workspace : String)
  deriving DecidableEq

/-- A command with the options that hold for every command. -/
structure Request where
  command : Command
  config : Option String
  verbose : Bool
  deriving DecidableEq

inductive UsageError where
  | missingCommand
  | unknownCommand (word : String)
  | unexpectedArgument (word : String)
  | missingValue (option : String)
  | needlessValue (option : String)
  | repeated (option : String)
  | invalidValue (option value : String)
  | missingArgument (name : String)
  deriving DecidableEq

namespace UsageError

def message : UsageError → String
  | missingCommand => "a command is required"
  | unknownCommand word => "unknown command '" ++ word ++ "'"
  | unexpectedArgument word => "unexpected argument '" ++ word ++ "'"
  | missingValue option => "a value is required for '" ++ option ++ "'"
  | needlessValue option => "'" ++ option ++ "' takes no value"
  | repeated option => "'" ++ option ++ "' is given more than once"
  | invalidValue option value => "invalid value '" ++ value ++ "' for '" ++ option ++ "'"
  | missingArgument name => "missing argument " ++ name

end UsageError

/-- Why the reading of a command line ends without a request. -/
inductive Halt where
  | usage (error : UsageError)
  | help
  | version
  deriving DecidableEq

namespace CommandLine

inductive OptionKind where
  /-- No value. -/
  | switch
  /-- One value that passes a test. -/
  | value (valid : String → Bool)
  /-- One value each time it is given. -/
  | values
  /-- No value; asks for help. -/
  | help
  /-- No value; asks for the version. -/
  | version

/-- An option, with two dashes before its name or one before its letter. -/
structure OptionSpec where
  name : String
  letter : Option Char
  kind : OptionKind

/-- The options and arguments that have been read at one level. Values and
arguments stand last first. -/
structure Given where
  switches : List String
  values : List (String × String)
  arguments : List String

namespace Given

def empty : Given := ⟨[], [], []⟩

def value? (given : Given) (name : String) : Option String :=
  given.values.lookup name

def allValues (given : Given) (name : String) : List String :=
  (given.values.filter fun entry => entry.1 == name).reverse.map Prod.snd

def takeSwitch (given : Given) (spec : OptionSpec) : Except Halt Given :=
  match spec.kind with
  | .help => .error .help
  | .version => .error .version
  | .switch =>
      if given.switches.contains spec.name then .error (.usage (.repeated spec.name))
      else .ok { given with switches := spec.name :: given.switches }
  | .value _ => .error (.usage (.missingValue spec.name))
  | .values => .error (.usage (.missingValue spec.name))

def takeValue (given : Given) (spec : OptionSpec) (value : String) : Except Halt Given :=
  match spec.kind with
  | .value valid =>
      if !valid value then .error (.usage (.invalidValue spec.name value))
      else if (given.value? spec.name).isSome then .error (.usage (.repeated spec.name))
      else .ok { given with values := (spec.name, value) :: given.values }
  | .values => .ok { given with values := (spec.name, value) :: given.values }
  | .switch => .error (.usage (.needlessValue spec.name))
  | .help => .error (.usage (.needlessValue spec.name))
  | .version => .error (.usage (.needlessValue spec.name))

def takeArgument (given : Given) (room : Nat) (word : String) : Except Halt Given :=
  if given.arguments.length < room then
    .ok { given with arguments := word :: given.arguments }
  else .error (.usage (.unexpectedArgument word))

end Given

inductive Word where
  /-- Two dashes, behind which every word is an argument. -/
  | separator
  /-- An option by name, with the value behind an equals sign. -/
  | long (name : String) (value : Option String)
  /-- Options by letter. -/
  | short (letters : List Char)
  | plain (word : String)

namespace Word

/-- Tells options from other words. A single dash is no option. -/
def parse (word : String) : Word :=
  match word.toList with
  | ['-', '-'] => .separator
  | '-' :: '-' :: rest =>
      let name := String.ofList (rest.takeWhile (· != '='))
      match rest.dropWhile (· != '=') with
      | [] => .long name none
      | _ :: value => .long name (some (String.ofList value))
  | '-' :: letter :: letters => .short (letter :: letters)
  | _ => .plain word

end Word

def OptionSpec.takesValue (spec : OptionSpec) : Bool :=
  match spec.kind with
  | .value _ => true
  | .values => true
  | _ => false

/-- Takes options by letter, none of which takes a value. -/
def takeLetters (specs : List OptionSpec) (given : Given) (letters : List Char) :
    Except Halt Given :=
  letters.foldlM (fun given letter =>
    match specs.find? fun spec => spec.letter == some letter with
    | some spec => given.takeSwitch spec
    | none => .error (.usage (.unexpectedArgument (String.ofList ['-', letter])))) given

/-- What comes behind the options that precede a plain word. -/
structure Scan where
  given : Given
  /-- The first plain word and all words behind it, if the scan stops there. -/
  stopped : Option (String × List String)

/-- Reads words. `room` is how many arguments there may be; with none the scan
stops at the first plain word. -/
def scan (specs : List OptionSpec) (room : Option Nat) (given : Given) :
    List String → Except Halt Scan
  | [] => .ok ⟨given, none⟩
  | word :: rest =>
      match Word.parse word with
      | .separator => do
          let given ← rest.foldlM (fun given word => given.takeArgument (room.getD 0) word) given
          .ok ⟨given, none⟩
      | .plain plain =>
          match room with
          | none => .ok ⟨given, some (plain, rest)⟩
          | some room => do scan specs (some room) (← given.takeArgument room plain) rest
      | .short letters => do scan specs room (← takeLetters specs given letters) rest
      | .long name attached =>
          match specs.find? fun spec => spec.name == name with
          | none => .error (.usage (.unexpectedArgument word))
          | some spec =>
              match attached with
              | some value => do scan specs room (← given.takeValue spec value) rest
              | none =>
                  if spec.takesValue then
                    match rest with
                    | [] => .error (.usage (.missingValue spec.name))
                    | value :: rest =>
                        match Word.parse value with
                        | .plain value => do scan specs room (← given.takeValue spec value) rest
                        | _ => .error (.usage (.missingValue spec.name))
                  else do scan specs room (← given.takeSwitch spec) rest

/-- A value other than the empty text, as for paths. -/
def isPath (value : String) : Bool :=
  value != ""

def commonOptions : List OptionSpec :=
  [⟨"config", none, .value isPath⟩, ⟨"verbose", some 'v', .switch⟩, ⟨"help", some 'h', .help⟩]

def versionOption : OptionSpec := ⟨"version", some 'V', .version⟩

def catalogOption : OptionSpec := ⟨"catalog", none, .value isPath⟩

def defaultOperation : String := OperationKind.getFeature.name

def isResultType (word : String) : Bool :=
  match ResultType.parse word with
  | .ok _ => true
  | .error _ => false

def negotiateOptions : List OptionSpec :=
  [⟨"operation", none, .value fun _ => true⟩, ⟨"result-type", none, .value isResultType⟩,
   ⟨"format", none, .value fun _ => true⟩, ⟨"param", none, .values⟩]

def requiredValue (given : Given) (name : String) : Except Halt String :=
  match given.value? name with
  | some value => .ok value
  | none => .error (.usage (.missingArgument name))

/-- A command as it is read: its own options, the number of its arguments, and
what it makes of them. -/
structure CommandSpec where
  name : String
  options : List OptionSpec
  room : Nat
  build : Given → Except Halt Command

def resultTypeOf (given : Given) : ResultType :=
  match (given.value? "result-type").map ResultType.parse with
  | some (.ok resultType) => resultType
  | _ => .results

def commands : List CommandSpec :=
  [⟨"formats", [], 0, fun _ => .ok .formats⟩,
   ⟨"identifiers", [], 0, fun _ => .ok .identifiers⟩,
   ⟨"capabilities", [], 0, fun _ => .ok .capabilities⟩,
   ⟨"check", [], 0, fun _ => .ok .check⟩,
   ⟨"negotiate", negotiateOptions, 0, fun given =>
      .ok (.negotiate ((given.value? "operation").getD defaultOperation) (resultTypeOf given)
        (given.value? "format") (given.allValues "param"))⟩,
   ⟨"resolve", [catalogOption], 2, fun given => do
      let catalog ← requiredValue given "catalog"
      match given.arguments with
      | [reference, workspace] => .ok (.resolve catalog workspace reference)
      | _ => .error (.usage (.missingArgument "REFERENCE"))⟩,
   ⟨"layers", [catalogOption], 1, fun given => do
      let catalog ← requiredValue given "catalog"
      match given.arguments with
      | [workspace] => .ok (.layers catalog workspace)
      | _ => .error (.usage (.missingArgument "WORKSPACE"))⟩]

/-- The words behind `help`: nothing, or the name of one command. -/
def helpFor : List String → Halt
  | [] => .help
  | [word] =>
      if word == "help" || commands.any fun spec => spec.name == word then .help
      else .usage (.unknownCommand word)
  | _ :: word :: _ => .usage (.unknownCommand word)

/-- Reads a command line. An option behind the command overrides the same
option in front of it. -/
def parse (words : List String) : Except Halt Request := do
  let outer ← scan (versionOption :: commonOptions) none .empty words
  match outer.stopped with
  | none => .error (.usage .missingCommand)
  | some (name, rest) =>
      if name == "help" then .error (helpFor rest)
      else
        match commands.find? fun spec => spec.name == name with
        | none => .error (.usage (.unknownCommand name))
        | some spec =>
            let inner ← scan (spec.options ++ commonOptions) (some spec.room) .empty rest
            let command ← spec.build inner.given
            .ok
              { command
                config := (inner.given.value? "config").or (outer.given.value? "config")
                verbose := (inner.given.switches ++ outer.given.switches).contains "verbose" }

end CommandLine

end FeatureService
