import FeatureService.Command.Run
import FeatureService.Proofs.List.FirstFailure
import FeatureService.Proofs.Operation.History
import Mathlib.Data.List.TakeWhile

/-!
# The operation on a command line

A parameter is divided at its first equals sign, and what is behind the sign is
read as JSON if it is JSON. Of parameters with one key the last counts, and the
option for the format counts more than any of them. The command answers as the
negotiator does for the operation that is so described. A parameter without the
sign ends it before that.
-/

namespace FeatureService

namespace Command

variable {raw key text : String} {value : Json}

/-! ## One parameter -/

/-- The first equals sign of a parameter divides it into a key and a text. -/
structure Divides (raw key text : String) : Prop where
  whole : raw = key ++ "=" ++ text
  first : '=' ∉ key.toList

inductive StandsFor (text : String) : Json → Prop where
  | json {value : Json} (read : Document.parse text = some value) : StandsFor text value
  | verbatim (unread : ∀ value : Json, Document.parse text ≠ some value) :
      StandsFor text (.text text)

theorem standsFor_iff (text : String) (value : Json) :
    StandsFor text value ↔ paramValue text = value := by
  rw [paramValue]
  cases parsed : (Document.parse text : Option Json) with
  | some other =>
      rw [Option.getD_some]
      constructor
      · rintro (read | unread)
        · exact Option.some.inj (parsed.symm.trans read)
        · exact absurd parsed (unread other)
      · rintro rfl
        exact .json parsed
  | none =>
      rw [Option.getD_none]
      constructor
      · rintro (read | unread)
        · cases parsed.symm.trans read
        · rfl
      · rintro rfl
        exact .verbatim fun value read => by cases parsed.symm.trans read

theorem Divides.toList_eq (divides : Divides raw key text) :
    raw.toList = key.toList ++ '=' :: text.toList := by
  rw [divides.whole, String.toList_append, String.toList_append, List.append_assoc]
  rfl

theorem exists_divides (mem : '=' ∈ raw.toList) : ∃ key text, Divides raw key text := by
  obtain ⟨key, text, split, first⟩ := List.eq_append_cons_of_mem mem
  refine ⟨String.ofList key, String.ofList text, ?_, by rwa [String.toList_ofList]⟩
  rw [← String.toList_inj, split]
  simp

theorem Divides.parseParam_eq (divides : Divides raw key text) :
    parseParam raw = .ok (key, paramValue text) := by
  have before : ∀ letter ∈ key.toList, (letter != '=') = true := fun letter mem =>
    bne_iff_ne.mpr fun same => divides.first (same ▸ mem)
  have left : raw.toList.dropWhile (· != '=') = '=' :: text.toList := by
    rw [divides.toList_eq, List.dropWhile_append_of_pos before]
    rfl
  have taken : raw.toList.takeWhile (· != '=') = key.toList := by
    rw [divides.toList_eq, List.takeWhile_append_of_pos before]
    exact List.append_nil _
  simp only [parseParam, left, taken, String.ofList_toList]

theorem parseParam_of_undivided (undivided : '=' ∉ raw.toList) :
    parseParam raw = .error (.malformedParameter raw) := by
  have nothing : raw.toList.dropWhile (· != '=') = [] :=
    List.dropWhile_eq_nil_iff.mpr fun letter mem =>
      bne_iff_ne.mpr fun same => undivided (same ▸ mem)
  simp only [parseParam, nothing]

theorem parseParam_eq_ok_iff :
    parseParam raw = .ok (key, value) ↔ ∃ text, Divides raw key text ∧ StandsFor text value := by
  constructor
  · intro parsed
    by_cases mem : '=' ∈ raw.toList
    · obtain ⟨_, text, divides⟩ := exists_divides mem
      obtain ⟨rfl, means⟩ := Prod.mk.inj (Except.ok.inj (divides.parseParam_eq.symm.trans parsed))
      exact ⟨text, divides, (standsFor_iff text value).mpr means⟩
    · cases (parseParam_of_undivided mem).symm.trans parsed
  · rintro ⟨text, divides, means⟩
    rw [divides.parseParam_eq, (standsFor_iff text value).mp means]

/-! ## All parameters -/

inductive LastGives (params : List String) (key : String) (value : Json) : Prop where
  | last {before after : List String} {raw text : String}
      (split : params = before ++ raw :: after) (divides : Divides raw key text)
      (final : ∀ later ∈ after, ∀ text, ¬ Divides later key text) (means : StandsFor text value)

section

variable {params : List String} {entries : List (String × Json)}

theorem mem_keys_iff (parsed : params.map parseParam = entries.map .ok) :
    key ∈ entries.map Prod.fst ↔ ∃ raw ∈ params, ∃ text, Divides raw key text := by
  rw [List.mem_map]
  constructor
  · rintro ⟨entry, mem, rfl⟩
    have given : .ok entry ∈ params.map parseParam := parsed ▸ List.mem_map_of_mem mem
    obtain ⟨raw, there, read⟩ := List.mem_map.mp given
    obtain ⟨text, divides, _⟩ := parseParam_eq_ok_iff.mp read
    exact ⟨raw, there, text, divides⟩
  · rintro ⟨raw, there, text, divides⟩
    have given : parseParam raw ∈ entries.map .ok := parsed ▸ List.mem_map_of_mem there
    rw [divides.parseParam_eq] at given
    obtain ⟨entry, mem, same⟩ := List.mem_map.mp given
    obtain rfl := Except.ok.inj same
    exact ⟨_, mem, rfl⟩

theorem lastGives_iff (parsed : params.map parseParam = entries.map .ok) :
    LastGives params key value ↔ entries.reverse.lookup key = some value := by
  rw [Keyed.lookup_reverse_eq_some_iff]
  -- The entries are split where the parameters are, and the other way round.
  constructor
  · rintro ⟨rfl, divides, final, means⟩
    rw [List.map_append, List.map_cons, eq_comm, List.map_eq_append_iff] at parsed
    obtain ⟨earlier, others, rfl, _, behind⟩ := parsed
    obtain ⟨entry, later, rfl, given, rest⟩ := List.map_eq_cons_iff.mp behind
    rw [parseParam_eq_ok_iff.mpr ⟨_, divides, means⟩] at given
    obtain rfl := Except.ok.inj given
    refine ⟨earlier, later, rfl, fun mem => ?_⟩
    obtain ⟨other, there, text, again⟩ := (mem_keys_iff rest.symm).mp mem
    exact final other there text again
  · rintro ⟨earlier, later, rfl, final⟩
    rw [List.map_append, List.map_cons, List.map_eq_append_iff] at parsed
    obtain ⟨before, others, rfl, _, behind⟩ := parsed
    obtain ⟨raw, after, rfl, given, rest⟩ := List.map_eq_cons_iff.mp behind
    obtain ⟨text, divides, means⟩ := parseParam_eq_ok_iff.mp given
    exact ⟨rfl, divides, fun other there text again =>
      final ((mem_keys_iff rest).mpr ⟨other, there, text, again⟩), means⟩

end

/-! ## The operation -/

/-- What a key is set to: the format of the option, else what the last parameter
with the key gives. -/
inductive Sets (format : Option String) (params : List String) : String → Json → Prop where
  | option {label : String} (named : format = some label) :
      Sets format params Operation.outputFormatKey (.text label)
  | param {key : String} {value : Json} (gives : LastGives params key value)
      (kept : key = Operation.outputFormatKey → format = none) : Sets format params key value

/-- A command line describes an operation. -/
structure Describes (kind : String) (resultType : ResultType) (format : Option String)
    (params : List String) (operation : Operation) : Prop where
  kind : operation.kind = ⟨kind⟩
  resultType : operation.resultType = resultType
  parameters : ∀ key value,
    operation.parameters.valueAt? key = some value ↔ Sets format params key value

def formatEntries (format : Option String) : List (String × Json) :=
  (format.map fun label => (Operation.outputFormatKey, .text label)).toList

@[simp] theorem formatEntries_none : formatEntries none = [] :=
  rfl

@[simp] theorem formatEntries_some (label : String) :
    formatEntries (some label) = [(Operation.outputFormatKey, .text label)] :=
  rfl

/-- The operation with the entries that have been read, and the option behind them. -/
def described (kind : String) (resultType : ResultType) (format : Option String)
    (entries : List (String × Json)) : Operation :=
  ⟨⟨kind⟩, .ofList (entries ++ formatEntries format), resultType⟩

section

variable {kind : String} {resultType : ResultType} {format : Option String}
  {params : List String} {entries : List (String × Json)} {operation : Operation}

theorem sets_iff (parsed : params.map parseParam = entries.map .ok) :
    Sets format params key value ↔
      (entries ++ formatEntries format).reverse.lookup key = some value := by
  cases format with
  | none =>
      rw [formatEntries_none, List.append_nil, ← lastGives_iff parsed]
      constructor
      · rintro (named | ⟨gives, _⟩)
        · cases named
        · exact gives
      · exact fun gives => .param gives fun _ => rfl
  | some label =>
      -- The option stands last, so a look-up from the end meets it first.
      rw [formatEntries_some, List.reverse_append, List.reverse_singleton, List.singleton_append,
        List.lookup_cons]
      by_cases same : key = Operation.outputFormatKey
      · subst same
        rw [beq_self_eq_true]
        constructor
        · rintro (named | ⟨_, kept⟩)
          · rw [Option.some.inj named]
          · cases kept rfl
        · rintro ⟨⟩
          exact .option rfl
      · rw [beq_eq_false_iff_ne.mpr same]
        refine Iff.trans ?_ (lastGives_iff parsed)
        constructor
        · rintro (_ | ⟨gives, _⟩)
          · exact absurd rfl same
          · exact gives
        · exact fun gives => .param gives fun isFormat => absurd isFormat same

/-- A command line whose parameters can be read describes one operation. -/
theorem describes_iff (parsed : params.map parseParam = entries.map .ok) :
    Describes kind resultType format params operation ↔
      operation = described kind resultType format entries := by
  have values (key : String) (value : Json) :
      (described kind resultType format entries).parameters.valueAt? key = some value ↔
        Sets format params key value := by
    rw [sets_iff parsed, ← Parameters.valueAt?_ofList]
    rfl
  constructor
  · rintro ⟨sameKind, sameType, same⟩
    have parameters :
        operation.parameters = (described kind resultType format entries).parameters :=
      Parameters.ext_valueAt? fun key => Option.ext fun value =>
        (same key value).trans (values key value).symm
    cases operation
    cases sameKind
    cases sameType
    cases parameters
    rfl
  · rintro rfl
    exact ⟨rfl, rfl, values⟩

theorem foldl_withParameter (kind : String) (resultType : ResultType)
    (entries : List (String × Json)) :
    entries.foldl (fun operation entry => operation.withParameter entry.1 entry.2)
      (Operation.new ⟨kind⟩ resultType) = described kind resultType none entries := by
  rw [described, formatEntries_none, List.append_nil]
  exact Operation.withParameters_new ⟨kind⟩ resultType entries

theorem described_some (kind : String) (resultType : ResultType) (label : String)
    (entries : List (String × Json)) :
    described kind resultType (some label) entries =
      (described kind resultType none entries).withParameter Operation.outputFormatKey
        (.text label) := by
  rw [described, described, formatEntries_none, List.append_nil, formatEntries_some,
    Parameters.ofList_append_singleton]
  rfl

theorem operationOf_of_parsed (parsed : params.map parseParam = entries.map .ok) :
    operationOf kind resultType format params = .ok (described kind resultType format entries) := by
  have walked : params.mapM parseParam = .ok entries := (mapM_eq_ok_iff _ _ _).mpr parsed
  have folded := foldl_withParameter kind resultType entries
  rw [operationOf, walked]
  cases format with
  | none => exact congrArg Except.ok folded
  | some label =>
      rw [described_some, ← folded]
      rfl

theorem operationOf_of_undivided {before : List String}
    (first : FirstWithout (fun raw => '=' ∈ raw.toList) params before raw) :
    operationOf kind resultType format params = .error (.malformedParameter raw) := by
  have walked : params.mapM parseParam = .error (.malformedParameter raw) := by
    refine mapM_eq_error (fun raw divided => ?_) first (parseParam_of_undivided first.fails)
    obtain ⟨key, text, divides⟩ := exists_divides divided
    exact ⟨_, divides.parseParam_eq⟩
  rw [operationOf, walked]
  rfl

/-- The option for the format is the format that is requested, as it is given. -/
theorem Describes.outputFormat?_eq {label : String}
    (describes : Describes kind resultType (some label) params operation) :
    operation.outputFormat? = some label := by
  have held := (describes.parameters _ _).mpr (.option rfl)
  simp only [Operation.outputFormat?, Operation.parameter?, Parameters.get?, held,
    Option.bind_some, Operation.formatLabel?]

end

/-! ## The answer -/

/-- What is made of the answer of a negotiator. -/
inductive Announces : Except NegotiationError Encoder → Performance → Prop where
  | served (encoder : Encoder) (log : List LogEvent) :
      Announces (.ok encoder) (.printed (encoderText encoder) log)
  | refused (error : NegotiationError) (log : List LogEvent) :
      Announces (.error error) (.failed (.service (.negotiation error)) log)

theorem announces_negotiateWith {settings : Settings} {negotiator : Negotiator}
    (starts : settings.negotiator.outcome = .ok negotiator) {kind : String}
    {resultType : ResultType} {format : Option String} {params : List String}
    {operation : Operation}
    (asked : operationOf kind resultType format params = .ok operation) :
    Announces (negotiator.negotiate operation)
      (negotiateWith settings kind resultType format params) := by
  simp only [negotiateWith, starts, asked]
  cases negotiator.negotiate operation with
  | ok encoder => exact .served encoder _
  | error error => exact .refused error _

end Command

/-- Whatever the parameters on the command line are, the command answers as the
negotiator does for the one operation that they describe, and the option for the
format is the format that is requested. The first parameter without an equals
sign ends the command with nothing printed. -/
theorem command_negotiates_as_described (settings : Settings) (negotiator : Negotiator)
    (starts : settings.negotiator.outcome = .ok negotiator) {m : Type → Type} [Monad m]
    (look : String → m FileState) (kind : String) (resultType : ResultType)
    (format : Option String) (params : List String) :
    ((∀ raw ∈ params, '=' ∈ raw.toList) →
      (∃! operation, Command.Describes kind resultType format params operation) ∧
      ∀ operation, Command.Describes kind resultType format params operation →
        (∃ performance,
          Command.perform look settings (.negotiate kind resultType format params) =
            pure performance ∧
          Command.Announces (negotiator.negotiate operation) performance) ∧
        ∀ label, format = some label → operation.outputFormat? = some label) ∧
    ∀ before raw, FirstWithout (fun raw => '=' ∈ raw.toList) params before raw →
      ∃ performance,
        Command.perform look settings (.negotiate kind resultType format params) =
          pure performance ∧
        performance.output = "" ∧
        performance.failure.map CommandError.message =
          some ("expected KEY=VALUE, got '" ++ raw ++ "'") := by
  constructor
  · intro divided
    obtain ⟨entries, parsed⟩ : ∃ entries : List (String × Json),
        params.map Command.parseParam = entries.map .ok := by
      refine exists_map_eq_ok fun raw mem => ?_
      obtain ⟨key, text, divides⟩ := Command.exists_divides (divided raw mem)
      exact ⟨_, divides.parseParam_eq⟩
    have asked : Command.operationOf kind resultType format params =
        .ok (Command.described kind resultType format entries) :=
      Command.operationOf_of_parsed parsed
    refine ⟨⟨_, (Command.describes_iff parsed).mpr rfl, fun _ describes =>
      (Command.describes_iff parsed).mp describes⟩, fun operation describes => ⟨?_, ?_⟩⟩
    · obtain rfl := (Command.describes_iff parsed).mp describes
      exact ⟨_, rfl, Command.announces_negotiateWith starts asked⟩
    · rintro label rfl
      exact describes.outputFormat?_eq
  · intro before raw first
    have asked : Command.operationOf kind resultType format params =
        .error (.malformedParameter raw) := Command.operationOf_of_undivided first
    refine ⟨_, rfl, ?_⟩
    simp only [Command.negotiateWith, starts, asked]
    exact ⟨rfl, rfl⟩

def nullSettings : Settings where
  formats := [{ aliases := ["null"] }]

/-- Parameters of which two name another format, one of them in capitals. -/
def rivalParams : List String :=
  ["maxFeatures=5", "filter=a=b", "OUTPUTFORMAT=csv", "outputFormat=null", "maxFeatures=[7]"]

def nullQuery : Operation :=
  Command.described "GetFeature" .results (some "null")
    [("maxFeatures", .number (.integer 5)), ("filter", .text "a=b"), ("OUTPUTFORMAT", .text "csv"),
      ("outputFormat", .null), ("maxFeatures", .array [.number (.integer 7)])]

/-- The option for the format is a text even if it is JSON, and no parameter
displaces it. Of two parameters without an equals sign the first is blamed. -/
theorem command_negotiates_as_described_null :
    ∃ negotiator, nullSettings.negotiator.outcome = .ok negotiator ∧
      (∀ raw ∈ rivalParams, '=' ∈ raw.toList) ∧
      Command.Describes "GetFeature" .results (some "null") rivalParams nullQuery ∧
      nullQuery.outputFormat? = some "null" ∧
      (∃ performance,
        Command.perform (m := Id) (fun _ => pure .absent) nullSettings
          (.negotiate "GetFeature" .results (some "null") rivalParams) = pure performance ∧
        performance.failure = none ∧
        performance.output = Command.printLines
          ["Identifier: null", "Aliases:    null", "MIME type:  text/xml"]) ∧
      ∃ performance,
        Command.perform (m := Id) (fun _ => pure .absent) nullSettings
          (.negotiate "GetFeature" .results none ["maxFeatures=5", "filter", "srsName"]) =
          pure performance ∧
        performance.output = "" ∧
        performance.failure.map CommandError.message =
          some "expected KEY=VALUE, got 'filter'" := by
  obtain ⟨negotiator, encoder, starts, served, text⟩ : ∃ negotiator encoder,
      nullSettings.negotiator.outcome = .ok negotiator ∧
      negotiator.negotiate nullQuery = .ok encoder ∧
      Command.encoderText encoder = Command.printLines
        ["Identifier: null", "Aliases:    null", "MIME type:  text/xml"] :=
    ⟨_, _, rfl, rfl, rfl⟩
  have divided : ∀ raw ∈ rivalParams, '=' ∈ raw.toList := by decide
  have describes : Command.Describes "GetFeature" .results (some "null") rivalParams nullQuery :=
    (Command.describes_iff rfl).mpr rfl
  have first : FirstWithout (fun raw => '=' ∈ raw.toList) ["maxFeatures=5", "filter", "srsName"]
      ["maxFeatures=5"] "filter" := ⟨⟨["srsName"], rfl⟩, by decide, by decide⟩
  obtain ⟨answers, _⟩ := command_negotiates_as_described nullSettings negotiator starts (m := Id)
    (fun _ => pure .absent) "GetFeature" .results (some "null") rivalParams
  obtain ⟨_, blames⟩ := command_negotiates_as_described nullSettings negotiator starts (m := Id)
    (fun _ => pure .absent) "GetFeature" .results none ["maxFeatures=5", "filter", "srsName"]
  obtain ⟨⟨performance, performed, announced⟩, requested⟩ := (answers divided).2 nullQuery describes
  rw [served] at announced
  cases announced
  exact ⟨negotiator, starts, divided, describes, requested "null" rfl, ⟨_, performed, rfl, text⟩,
    blames _ _ first⟩

end FeatureService
