import FeatureService.Command.Run
import FeatureService.Proofs.Encoder.Grammar
import FeatureService.Proofs.Registry.Names
import FeatureService.Proofs.Service.Extension

/-!
# Printed names are read back

Names from the settings are printed between the brackets of tags as they are,
without any escape. The grammar of element names makes up for it: a name cannot
end its tag or its line, so what is printed can be read back, whatever labels,
identifiers and type names the settings hold.
-/

namespace FeatureService

/-! ## Lines -/

/-- The texts between the line feeds of a text. Behind a line feed at the end
comes an empty text. -/
def Text.splitLines (text : String) : List String :=
  (text.toList.splitOn '\n').map String.ofList

theorem Command.splitLines_printLines {lines : List String}
    (single : ∀ line ∈ lines, '\n' ∉ line.toList) :
    Text.splitLines (printLines lines) = lines ++ [""] := by
  induction lines with
  | nil => rfl
  | cons line rest ih =>
      obtain ⟨here, further⟩ := List.forall_mem_cons.mp single
      have characters : (printLines (line :: rest)).toList =
          line.toList ++ '\n' :: (printLines rest).toList := by
        simp [printLines, String.toList_join]
      have inner : ((printLines rest).toList.splitOn '\n').map String.ofList = rest ++ [""] :=
        ih further
      rw [Text.splitLines, characters, List.splitOn_append_cons_self_of_not_mem here,
        List.map_cons, inner, String.ofList_toList, List.cons_append]

namespace Capabilities

/-! ## Tags -/

def opening : String := "<ResultFormat>"

def closing : String := "</ResultFormat>"

def tagLine (name : String) : String := "  <" ++ name ++ "/>"

/-- The name in a line that holds nothing else than a tag which closes itself.
The name ends where a character has a meaning in markup. -/
def tagName? (line : String) : Option String :=
  match line.toList with
  | ' ' :: ' ' :: '<' :: rest =>
      if rest.dropWhile ElementName.isPlain = ['/', '>'] then
        some (String.ofList (rest.takeWhile ElementName.isPlain))
      else none
  | _ => none

/-- The names in the lines up to the one that closes the list, which has to be
the last. -/
def tagNames? : List String → Option (List String)
  | [] => none
  | line :: rest =>
      if line = closing then (if rest = [""] then some [] else none)
      else (tagName? line).bind fun name => (tagNames? rest).map (name :: ·)

/-- The names in a fragment of a capabilities document. -/
def read? (document : String) : Option (List String) :=
  match Text.splitLines document with
  | [] => none
  | first :: rest => if first = opening then tagNames? rest else none

variable {name : String}

theorem toList_tagLine (name : String) :
    (tagLine name).toList = ' ' :: ' ' :: '<' :: (name.toList ++ ['/', '>']) := by
  simp [tagLine]

theorem tagName?_tagLine (plain : ElementName.Plain name) :
    tagName? (tagLine name) = some name := by
  have left : (name.toList ++ ['/', '>']).dropWhile ElementName.isPlain = ['/', '>'] :=
    List.dropWhile_append_of_pos plain.plain
  have taken : (name.toList ++ ['/', '>']).takeWhile ElementName.isPlain = name.toList :=
    (List.takeWhile_append_of_pos plain.plain).trans (List.append_nil _)
  rw [tagName?, toList_tagLine]
  exact (if_pos left).trans (by rw [taken, String.ofList_toList])

theorem tagLine_ne_closing (name : String) : tagLine name ≠ closing := by
  intro same
  have characters := congrArg String.toList same
  rw [toList_tagLine] at characters
  cases characters

theorem tagNames?_tagLines {names : List String}
    (plain : ∀ name ∈ names, ElementName.Plain name) :
    tagNames? (names.map tagLine ++ [closing, ""]) = some names := by
  induction names with
  | nil => rfl
  | cons name rest ih =>
      obtain ⟨here, further⟩ := List.forall_mem_cons.mp plain
      rw [List.map_cons, List.cons_append, tagNames?, if_neg (tagLine_ne_closing name),
        tagName?_tagLine here, ih further]
      rfl

/-! ## What is printed -/

variable {registry : Registry}

theorem splitLines_capabilitiesText
    (plain : ∀ name ∈ registry.elementNames, ElementName.Plain name) :
    Text.splitLines (Command.capabilitiesText registry) =
      opening :: registry.elementNames.map tagLine ++ [closing, ""] := by
  have text : Command.capabilitiesText registry =
      Command.printLines (opening :: registry.elementNames.map tagLine ++ [closing]) := rfl
  rw [text, Command.splitLines_printLines, List.append_assoc, List.singleton_append]
  intro line mem
  rcases List.mem_append.mp mem with first | last
  · rcases List.mem_cons.mp first with rfl | tag
    · decide
    · obtain ⟨name, advertised, rfl⟩ := List.mem_map.mp tag
      have single := (plain name advertised).not_mem (c := '\n') rfl
      simp [toList_tagLine, single]
  · obtain rfl := List.mem_singleton.mp last
    decide

theorem read?_capabilitiesText
    (plain : ∀ name ∈ registry.elementNames, ElementName.Plain name) :
    read? (Command.capabilitiesText registry) = some registry.elementNames := by
  rw [read?, splitLines_capabilitiesText plain, List.cons_append]
  exact (if_pos rfl).trans (tagNames?_tagLines plain)

theorem splitLines_identifiersText (registry : Registry) :
    Text.splitLines (Command.identifiersText registry) =
      registry.publishableIdentifiers ++ [""] := by
  apply Command.splitLines_printLines
  intro name listed
  have plain := ElementName.plain_of_isValid
    (Registry.isValid_of_mem_publishableIdentifiers listed)
  exact plain.not_mem rfl

end Capabilities

/-- What a service prints about its names can be read back: each name stands in
a tag of its own or on a line of its own, and nothing else is in the text. -/
theorem published_names_read_back (settings : Settings) (registry : Registry)
    (starts : settings.registry.outcome = .ok registry) {m : Type → Type} [Monad m]
    (look : String → m FileState) :
    ∃ document listing log,
      Command.perform look settings .capabilities = pure (.printed document log) ∧
      Command.perform look settings .identifiers = pure (.printed listing log) ∧
      Text.splitLines document =
        Capabilities.opening :: registry.elementNames.map Capabilities.tagLine
          ++ [Capabilities.closing, ""] ∧
      Capabilities.read? document = some registry.elementNames ∧
      (∀ name ∈ registry.elementNames, ElementName.Plain name) ∧
      Text.splitLines listing = registry.publishableIdentifiers ++ [""] := by
  obtain ⟨configured, started⟩ := Settings.started_of_outcome starts
  have derived : ∀ encoder ∈ registry.encoders, encoder.Derived :=
    fun encoder mem => ((started.mem_encoders_iff encoder).mp mem).2
  have plain : ∀ name ∈ registry.elementNames, ElementName.Plain name := fun name advertised =>
    ElementName.plain_of_isValid (Registry.isValid_of_mem_elementNames derived advertised)
  have performed (print : Registry → String) : Command.withRegistry settings print =
      .printed (print registry) (LogEvent.ofStart settings false) := by
    simp only [Command.withRegistry, starts]
  refine ⟨Command.capabilitiesText registry, Command.identifiersText registry,
    LogEvent.ofStart settings false, ?_, ?_, Capabilities.splitLines_capabilitiesText plain,
    Capabilities.read?_capabilitiesText plain, plain,
    Capabilities.splitLines_identifiersText registry⟩
  · rw [Command.perform, performed]
  · rw [Command.perform, performed]

/-- Settings whose texts would end a tag or a line if they were printed. -/
def hostileSettings : Settings where
  formats :=
    [{ aliases := ["a/><b", "line\nbreak", "Ätlas"], identifier := some "\"quoted\"",
       publishAllAliases := true, typeName := some "plugins::Atlas<x>" },
     { aliases := ["x:y", "<z>"], identifier := some "", typeName := some "plugins.Plain" }]

/-- Of the texts in the settings only the element names are printed. -/
theorem published_names_read_back_hostile :
    ∃ registry, hostileSettings.registry.outcome = .ok registry ∧
      ∃ document listing log,
        Command.perform (m := Id) (fun _ => pure .absent) hostileSettings .capabilities =
          pure (.printed document log) ∧
        Command.perform (m := Id) (fun _ => pure .absent) hostileSettings .identifiers =
          pure (.printed listing log) ∧
        Capabilities.read? document =
          some ["GML2", "GML3", "Plain", "SHAPE-ZIP", "csv", "json", "Ätlas"] ∧
        Text.splitLines listing =
          ["GML2", "GML3", "SHAPE-ZIP", "csv", "gml3", "json", "Ätlas", ""] := by
  obtain ⟨registry, starts, elements, identifiers⟩ : ∃ registry,
      hostileSettings.registry.outcome = .ok registry ∧
      registry.elementNames = ["GML2", "GML3", "Plain", "SHAPE-ZIP", "csv", "json", "Ätlas"] ∧
      registry.publishableIdentifiers =
        ["GML2", "GML3", "SHAPE-ZIP", "csv", "gml3", "json", "Ätlas"] := ⟨_, rfl, rfl, rfl⟩
  obtain ⟨document, listing, log, first, second, _, read, _, lines⟩ :=
    published_names_read_back hostileSettings registry starts (m := Id) fun _ => pure .absent
  rw [elements] at read
  rw [identifiers] at lines
  exact ⟨registry, starts, document, listing, log, first, second, read, lines⟩

end FeatureService
