import FeatureService.Proofs.Json.Record
import FeatureService.Service.Document

/-!
# Settings with fields left out

In a document of settings each field but the aliases of a format may be left out,
and what is left may stand in any order. A field that is left out takes its
default and changes no other. Settings are not read if some format lacks its
aliases or some record gives a field twice.
-/

namespace FeatureService

open Reader (Takes)

/-! ## What holds for fields that are left out -/

def Settings.usual : Settings :=
  ⟨⟨["GetFeature", "GetFeatureWithLock"]⟩, ⟨5000⟩, []⟩

/-! The names of the fields of each record. -/

def NegotiationSettings.fieldNames : List String :=
  ["recognized_operations"]

def DirectorySettings.fieldNames : List String :=
  ["lookup_timeout_ms"]

def FormatSettings.fieldNames : List String :=
  ["aliases", "identifier", "mime_type", "publish_all_aliases", "type_name", "requires_parameter"]

def Settings.fieldNames : List String :=
  ["negotiation", "directory", "formats"]

/-- The fields that are left out: of the settings, of the negotiation, of the
directory, and of the format at each place. The aliases of a format are not. -/
structure Omission where
  settings : List String
  negotiation : List String
  directory : List String
  ofFormat : Nat → List String
  aliases : ∀ place, "aliases" ∉ ofFormat place

def NegotiationSettings.without (omitted : List String) (settings : NegotiationSettings) :
    NegotiationSettings where
  recognizedOperations :=
    if "recognized_operations" ∈ omitted then Settings.usual.negotiation.recognizedOperations
    else settings.recognizedOperations

def DirectorySettings.without (omitted : List String) (settings : DirectorySettings) :
    DirectorySettings where
  lookupTimeout :=
    if "lookup_timeout_ms" ∈ omitted then Settings.usual.directory.lookupTimeout
    else settings.lookupTimeout

def FormatSettings.without (omitted : List String) (format : FormatSettings) : FormatSettings where
  aliases := format.aliases
  identifier := if "identifier" ∈ omitted then none else format.identifier
  mimeType := if "mime_type" ∈ omitted then none else format.mimeType
  publishAllAliases := if "publish_all_aliases" ∈ omitted then false else format.publishAllAliases
  typeName := if "type_name" ∈ omitted then none else format.typeName
  requiresParameter := if "requires_parameter" ∈ omitted then none else format.requiresParameter

/-- The settings with the default in place of each field that is left out. -/
def Settings.without (omission : Omission) (settings : Settings) : Settings where
  negotiation :=
    if "negotiation" ∈ omission.settings then usual.negotiation
    else settings.negotiation.without omission.negotiation
  directory :=
    if "directory" ∈ omission.settings then usual.directory
    else settings.directory.without omission.directory
  formats :=
    if "formats" ∈ omission.settings then usual.formats
    else settings.formats.zipIdx.map fun format => format.1.without (omission.ofFormat format.2)

/-- A document of settings in which fields are left out, with what is left of
each record in any order. -/
def Settings.WrittenWithout (omission : Omission) (settings : Settings) (document : Json) : Prop :=
  ∃ negotiation directory formats,
    Json.LeavesOut omission.negotiation (Document.toJson settings.negotiation) negotiation ∧
    Json.LeavesOut omission.directory (Document.toJson settings.directory) directory ∧
    List.Forall₂ (fun format written =>
        Json.LeavesOut (omission.ofFormat format.2) (Document.toJson format.1) written)
      settings.formats.zipIdx formats ∧
    Json.LeavesOut omission.settings (.object [("negotiation", negotiation),
      ("directory", directory), ("formats", .array formats)]) document

/-! ## Reading what is left -/

variable {omitted : List String} {document : Json}

theorem NegotiationSettings.takes_left {settings : NegotiationSettings}
    (left : Json.LeavesOut omitted (Document.toJson settings) document) :
    Takes Document.read 2 document (settings.without omitted) := by
  obtain ⟨members, kept, whole, rfl, perm⟩ := left
  obtain rfl := Json.object.inj whole
  have operations := Takes.texts settings.recognizedOperations
  have record : Json.RecordOf fieldNames
      [("recognized_operations", .array (settings.recognizedOperations.map .text))] :=
    ⟨List.Subperm.refl _, by simpa using operations.whole⟩
  refine Takes.record (record.of_left perm) (by decide) fun available enough => ?_
  exact Option.bind_eq_some_iff.mpr ⟨_, Fields.withDefault_of_left (record.nodup (by decide)) perm
    rfl operations enough _, rfl⟩

theorem DirectorySettings.takes_left {settings : DirectorySettings}
    (left : Json.LeavesOut omitted (Document.toJson settings) document) :
    Takes Document.read 1 document (settings.without omitted) := by
  obtain ⟨members, kept, whole, rfl, perm⟩ := left
  obtain rfl := Json.object.inj whole
  have timeout := (Reader.takes_natural settings.lookupTimeout.toNat_lt).map UInt64.ofNat
  rw [UInt64.ofNat_toNat] at timeout
  have record : Json.RecordOf fieldNames
      [("lookup_timeout_ms", .number (.integer settings.lookupTimeout.toNat))] :=
    ⟨List.Subperm.refl _, by simpa using timeout.whole⟩
  refine Takes.record (record.of_left perm) (by decide) fun available enough => ?_
  exact Option.bind_eq_some_iff.mpr ⟨_, Fields.withDefault_of_left (record.nodup (by decide)) perm
    rfl timeout enough _, rfl⟩

theorem takes_textOrNull (value : Option String) :
    Takes (Reader.optional Reader.text) 0 (textOrNull value) value := by
  cases value with
  | none => exact Reader.takes_optional_none Reader.text
  | some value => exact Reader.takes_optional_text value

theorem FormatSettings.takes_left {format : FormatSettings} (given : "aliases" ∉ omitted)
    (left : Json.LeavesOut omitted (Document.toJson format) document) :
    Takes Document.read 2 document (format.without omitted) := by
  obtain ⟨members, kept, whole, rfl, perm⟩ := left
  obtain rfl := Json.object.inj whole
  have aliases := Takes.texts format.aliases
  have flag := Reader.takes_flag format.publishAllAliases
  have text (value : Option String) := takes_textOrNull value
  have record : Json.RecordOf fieldNames
      [("aliases", .array (format.aliases.map .text)), ("identifier", textOrNull format.identifier),
       ("mime_type", textOrNull format.mimeType),
       ("publish_all_aliases", .boolean format.publishAllAliases),
       ("type_name", textOrNull format.typeName),
       ("requires_parameter", textOrNull format.requiresParameter)] := by
    refine ⟨List.Subperm.refl _, ?_⟩
    simpa using ⟨aliases.whole, (text _).whole, (text _).whole, flag.whole, (text _).whole,
      (text _).whole⟩
  have distinct := record.nodup (by decide)
  refine Takes.record (record.of_left perm) (by decide) fun available enough => ?_
  refine Option.bind_eq_some_iff.mpr ⟨_, Fields.required_of_left distinct perm given rfl aliases
    enough, ?_⟩
  refine Option.bind_eq_some_iff.mpr ⟨_, Fields.withDefault_of_left distinct perm rfl (text _)
    (Nat.zero_le available) none, ?_⟩
  refine Option.bind_eq_some_iff.mpr ⟨_, Fields.withDefault_of_left distinct perm rfl (text _)
    (Nat.zero_le available) none, ?_⟩
  refine Option.bind_eq_some_iff.mpr ⟨_, Fields.withDefault_of_left distinct perm rfl flag
    (Nat.zero_le available) false, ?_⟩
  refine Option.bind_eq_some_iff.mpr ⟨_, Fields.withDefault_of_left distinct perm rfl (text _)
    (Nat.zero_le available) none, ?_⟩
  exact Option.bind_eq_some_iff.mpr ⟨_, Fields.withDefault_of_left distinct perm rfl (text _)
    (Nat.zero_le available) none, rfl⟩

theorem Settings.WrittenWithout.takes {omission : Omission} {settings : Settings}
    (written : settings.WrittenWithout omission document) :
    Takes Document.read 4 document (settings.without omission) := by
  obtain ⟨negotiation, directory, formats, negotiationLeft, directoryLeft, formatsLeft, members,
    kept, whole, rfl, perm⟩ := written
  obtain rfl := Json.object.inj whole
  have negotiationTaken := NegotiationSettings.takes_left negotiationLeft
  have directoryTaken := DirectorySettings.takes_left directoryLeft
  have formatsTaken : Takes Document.read 3 (.array formats)
      (settings.formats.zipIdx.map fun format => format.1.without (omission.ofFormat format.2)) :=
    Takes.list (List.forall₂_map_right_iff.mpr (formatsLeft.flip.imp fun _ _ left =>
      FormatSettings.takes_left (omission.aliases _) left))
  have record : Json.RecordOf fieldNames
      [("negotiation", negotiation), ("directory", directory), ("formats", .array formats)] := by
    refine ⟨List.Subperm.refl _, ?_⟩
    simpa using ⟨negotiationTaken.whole, directoryTaken.whole, formatsTaken.whole⟩
  have distinct := record.nodup (by decide)
  refine Takes.record (record.of_left perm) (by decide) fun available enough => ?_
  refine Option.bind_eq_some_iff.mpr ⟨_, Fields.withDefault_of_left distinct perm rfl
    negotiationTaken (Nat.le_of_succ_le enough) _, ?_⟩
  refine Option.bind_eq_some_iff.mpr ⟨_, Fields.withDefault_of_left distinct perm rfl
    directoryTaken (Nat.le_of_add_right_le (k := 2) enough) _, ?_⟩
  exact Option.bind_eq_some_iff.mpr ⟨_, Fields.withDefault_of_left distinct perm rfl formatsTaken
    enough _, rfl⟩

theorem Settings.WrittenWithout.parse_chars {omission : Omission} {settings : Settings}
    (written : settings.WrittenWithout omission document) {layout : Layout}
    (blank : layout.Blank) :
    Document.parse (String.ofList (document.chars layout 0)) =
      some (settings.without omission) := by
  have parsed := Document.parse_chars blank written.takes (by decide) (List.forall_mem_nil _)
  rwa [List.append_nil] at parsed

/-! ## Settings as they are written -/

theorem Json.leavesOut_nil (members : List (String × Json)) :
    LeavesOut [] (.object members) (.object members) :=
  ⟨members, members, rfl, rfl, by simp⟩

def Omission.nothing : Omission := ⟨[], [], [], fun _ => [], fun _ => List.not_mem_nil⟩

theorem Settings.writtenWithout_nothing (settings : Settings) :
    settings.WrittenWithout .nothing (Document.toJson settings) := by
  refine ⟨Document.toJson settings.negotiation, Document.toJson settings.directory,
    settings.formats.map Document.toJson, Json.leavesOut_nil _, Json.leavesOut_nil _, ?_,
    Json.leavesOut_nil _⟩
  have formats : settings.formats.map Document.toJson =
      settings.formats.zipIdx.map fun format => Document.toJson format.1 := by
    conv_lhs => rw [← List.zipIdx_map_fst 0 settings.formats, List.map_map]
    rfl
  rw [formats, List.forall₂_map_right_iff, List.forall₂_same]
  exact fun format _ => Json.leavesOut_nil _

theorem Settings.without_nothing (settings : Settings) : settings.without .nothing = settings := by
  have same (format : FormatSettings × Nat) : format.1.without [] = format.1 := rfl
  have formats : settings.formats.zipIdx.map (fun format => format.1.without []) =
      settings.formats := by
    simp only [same]
    exact List.zipIdx_map_fst 0 settings.formats
  exact congrArg (Settings.mk settings.negotiation settings.directory) formats

/-! ## Settings that are not read -/

namespace Settings

/-- Some record gives a field twice, or some format lacks its aliases. -/
inductive Faulty (tree : Tree) : Prop where
  | settings (repeats : tree.Repeats fieldNames)
  | negotiation {record : Tree} (given : tree.Gives fieldNames "negotiation" record)
      (repeats : record.Repeats NegotiationSettings.fieldNames)
  | directory {record : Tree} (given : tree.Gives fieldNames "directory" record)
      (repeats : record.Repeats DirectorySettings.fieldNames)
  | format {records : List Tree} {record : Tree}
      (given : tree.Gives fieldNames "formats" (.array records)) (mem : record ∈ records)
      (repeats : record.Repeats FormatSettings.fieldNames)
  | aliases {records : List Tree} {record : Tree}
      (given : tree.Gives fieldNames "formats" (.array records)) (mem : record ∈ records)
      (lacking : ∀ value, ¬ record.Gives FormatSettings.fieldNames "aliases" value)

end Settings

theorem FormatSettings.gives_aliases {levels : Nat} {tree : Tree} {format : FormatSettings}
    (read : Document.read levels tree = some format) :
    ∃ value, tree.Gives fieldNames "aliases" value := by
  obtain ⟨fields, given, built⟩ := Option.bind_eq_some_iff.mp read
  obtain ⟨aliases, taken, _⟩ := Option.bind_eq_some_iff.mp built
  exact Fields.gives_of_required given (by decide) (by decide) taken

/-- Each fault stands in the way of the record that it is in. -/
theorem Settings.Faulty.not_read {tree : Tree} (faulty : Faulty tree) (levels : Nat)
    (settings : Settings) : Document.read levels tree ≠ some settings := by
  intro read
  obtain ⟨fields, given, read⟩ := Option.bind_eq_some_iff.mp read
  obtain ⟨negotiation, negotiationRead, read⟩ := Option.bind_eq_some_iff.mp read
  obtain ⟨directory, directoryRead, read⟩ := Option.bind_eq_some_iff.mp read
  obtain ⟨formats, formatsRead, _⟩ := Option.bind_eq_some_iff.mp read
  cases faulty with
  | settings repeats => exact Fields.not_repeats given repeats
  | negotiation recordGiven repeats =>
      have recordRead :=
        Fields.read_of_withDefault given (by decide) (by decide) recordGiven negotiationRead
      exact Reader.not_repeats recordRead repeats
  | directory recordGiven repeats =>
      have recordRead :=
        Fields.read_of_withDefault given (by decide) (by decide) recordGiven directoryRead
      exact Reader.not_repeats recordRead repeats
  | format recordsGiven mem repeats =>
      have recordsRead :=
        Fields.read_of_withDefault given (by decide) (by decide) recordsGiven formatsRead
      obtain ⟨_, _, recordRead⟩ := Reader.read_item recordsRead mem
      exact Reader.not_repeats recordRead repeats
  | aliases recordsGiven mem lacking =>
      have recordsRead :=
        Fields.read_of_withDefault given (by decide) (by decide) recordsGiven formatsRead
      obtain ⟨_, _, recordRead⟩ := Reader.read_item recordsRead mem
      obtain ⟨value, aliasesGiven⟩ := FormatSettings.gives_aliases recordRead
      exact lacking value aliasesGiven

/-- Each field that is left out takes its default and changes no other. Settings
that are written as they are come back as they are, and faulty settings do not. -/
theorem omitted_settings_take_defaults (settings : Settings) (omission : Omission) :
    (∀ document layout, settings.WrittenWithout omission document → layout.Blank →
      Document.parse (String.ofList (document.chars layout 0)) =
        some (settings.without omission)) ∧
    Document.parse (Document.render settings) = some settings ∧
    ∀ text tree, Tree.read text = some tree → Settings.Faulty tree →
      (Document.parse text : Option Settings) = none := by
  refine ⟨fun _ _ written => written.parse_chars, ?_, fun text tree given faulty => ?_⟩
  · have parsed := settings.writtenWithout_nothing.parse_chars Layout.blank_compact
    rwa [settings.without_nothing] at parsed
  · rw [Document.parse, given, Option.bind_some, Option.eq_none_iff_forall_ne_some]
    exact faulty.not_read _

def Settings.mapping : Settings where
  negotiation := ⟨["GetMap"]⟩
  directory := ⟨250⟩
  formats :=
    [⟨["KML"], some "Kml", some "text/kml", true, some "plugins.Kml", some "typeName"⟩,
     ⟨["CSV", "text/csv"], some "Csv", some "text/csv", true, some "plugins.Csv", some "header"⟩]

/-- The negotiation is left out, the time limit, and different fields of the two formats. -/
def Omission.scattered : Omission where
  settings := ["negotiation"]
  negotiation := []
  directory := ["lookup_timeout_ms"]
  ofFormat place :=
    if place = 0 then ["identifier", "publish_all_aliases", "requires_parameter"]
    else ["mime_type", "type_name"]
  aliases place := by split <;> decide

def Omission.leftOfKml : List (String × Json) :=
  [("aliases", .array [.text "KML"]), ("mime_type", .text "text/kml"),
   ("type_name", .text "plugins.Kml")]

def Omission.leftOfCsv : List (String × Json) :=
  [("aliases", .array [.text "CSV", .text "text/csv"]), ("identifier", .text "Csv"),
   ("publish_all_aliases", .boolean true), ("requires_parameter", .text "header")]

/-- What is left of the settings, with the last fields first. -/
def Omission.leftOfMapping : Json :=
  .object [("formats", .array [.object leftOfKml.reverse, .object leftOfCsv.reverse]),
    ("directory", .object [])]

/-- A format that has an identifier and no aliases. -/
def Settings.unlabelled : String :=
  "\x7b\"formats\":[\x7b\"identifier\":\"x\"\x7d]\x7d"

/-- Settings with fields left out and turned around on several lines, and a text
that lacks aliases. -/
theorem omitted_settings_take_defaults_mapping :
    Settings.mapping.WrittenWithout .scattered Omission.leftOfMapping ∧
    Document.parse (String.ofList (Omission.leftOfMapping.chars .indented 0)) =
      some (Settings.mk ⟨["GetFeature", "GetFeatureWithLock"]⟩ ⟨5000⟩
        [⟨["KML"], none, some "text/kml", false, some "plugins.Kml", none⟩,
         ⟨["CSV", "text/csv"], some "Csv", none, true, none, some "header"⟩]) ∧
    Document.parse (Document.render Settings.mapping) = some Settings.mapping ∧
    ∃ tree, Tree.read Settings.unlabelled = some tree ∧ Settings.Faulty tree ∧
      (Document.parse Settings.unlabelled : Option Settings) = none := by
  obtain ⟨leaves, whole, refused⟩ := omitted_settings_take_defaults .mapping .scattered
  have written : Settings.mapping.WrittenWithout .scattered Omission.leftOfMapping := by
    refine ⟨_, _, _, Json.leavesOut_nil _, ⟨_, [], rfl, rfl, .refl _⟩,
      .cons ⟨_, _, rfl, rfl, List.reverse_perm Omission.leftOfKml⟩
        (.cons ⟨_, _, rfl, rfl, List.reverse_perm Omission.leftOfCsv⟩ .nil), ?_⟩
    exact ⟨_, _, rfl, rfl, .swap _ _ _⟩
  have faulty : Settings.Faulty
      (.object [(some "formats", .array [.object [(some "identifier", .text (some "x"))]])]) := by
    refine .aliases (List.mem_singleton_self _) (List.mem_singleton_self _) fun value given => ?_
    exact absurd (Prod.mk.inj (List.mem_singleton.mp given)).1 (by decide)
  exact ⟨written, leaves _ _ written Layout.blank_indented, whole, _, rfl, faulty,
    refused _ _ rfl faulty⟩

end FeatureService
