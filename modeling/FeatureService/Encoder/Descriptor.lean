import FeatureService.Encoder.Diagnostic
import FeatureService.Encoder.ElementName
import FeatureService.Encoder.Predicate
import FeatureService.Text.Sorted

/-!
# Encoder descriptors

A descriptor says which labels an encoder answers to, which operations it can
serve and how it is published. It is built from a draft, whose labels may be
empty or repeated.
-/

namespace FeatureService

/-- Which names an encoder adds to a capabilities document. -/
inductive PublishMode where
  /-- Its identifier alone. -/
  | primary
  /-- Each of its aliases that is an element name. -/
  | allAliases
  deriving DecidableEq

namespace PublishMode

def name : PublishMode → String
  | primary => "primary"
  | allAliases => "all_aliases"

def all : List PublishMode := [primary, allAliases]

end PublishMode

structure Descriptor where
  aliases : List String
  predicate : Predicate
  identifierOverride : Option String
  typeName : Option String
  mimeType : String
  publishMode : PublishMode
  aliases_ne_nil : aliases ≠ [] := by decide
  aliases_nodup : aliases.Nodup := by decide
  empty_not_mem : "" ∉ aliases := by decide

namespace Descriptor

def primaryAlias (descriptor : Descriptor) : String :=
  descriptor.aliases.head descriptor.aliases_ne_nil

def declares (descriptor : Descriptor) (label : String) : Bool :=
  descriptor.aliases.contains label

def accepts (descriptor : Descriptor) (operation : Operation) : Bool :=
  descriptor.predicate.accepts operation

/-- The aliases that are element names, ascending. -/
def publishableAliases (descriptor : Descriptor) : List String :=
  Text.sortedSet (descriptor.aliases.filter ElementName.isValid)

def displayName (descriptor : Descriptor) : String :=
  match descriptor.typeName with
  | some typeName => descriptor.primaryAlias ++ " (" ++ typeName ++ ")"
  | none => descriptor.primaryAlias

def displayNameAt (descriptors : List Descriptor) (place : Nat) : String :=
  (descriptors[place]?.map displayName).getD ""

theorem displayNameAt_of_getElem? {descriptors : List Descriptor} {place : Nat}
    {descriptor : Descriptor} (there : descriptors[place]? = some descriptor) :
    displayNameAt descriptors place = descriptor.displayName := by
  rw [displayNameAt, there, Option.map_some, Option.getD_some]

end Descriptor

/-- The labels that are not empty, each at its first place. `seen` holds the
labels that came before. -/
def distinctLabels (seen : List String) : List String → List String
  | [] => []
  | label :: rest =>
      if label = "" ∨ label ∈ seen then distinctLabels seen rest
      else label :: distinctLabels (label :: seen) rest

theorem mem_distinctLabels (label : String) (seen labels : List String) :
    label ∈ distinctLabels seen labels ↔ label ∈ labels ∧ label ≠ "" ∧ label ∉ seen := by
  induction labels generalizing seen with
  | nil => simp [distinctLabels]
  | cons first rest ih =>
      unfold distinctLabels
      split
      · rw [ih]
        constructor
        · rintro ⟨mem, nonempty, unseen⟩
          exact ⟨List.mem_cons_of_mem _ mem, nonempty, unseen⟩
        · rintro ⟨mem, nonempty, unseen⟩
          rcases List.mem_cons.mp mem with rfl | mem
          · simp_all
          · exact ⟨mem, nonempty, unseen⟩
      · rename_i fresh
        rw [List.mem_cons, ih, List.mem_cons, List.mem_cons]
        constructor
        · rintro (rfl | ⟨mem, nonempty, unseen⟩)
          · exact ⟨.inl rfl, fun empty => fresh (.inl empty), fun seen => fresh (.inr seen)⟩
          · exact ⟨.inr mem, nonempty, fun seen => unseen (.inr seen)⟩
        · rintro ⟨mem, nonempty, unseen⟩
          by_cases same : label = first
          · exact .inl same
          · rcases mem with rfl | mem
            · exact absurd rfl same
            · refine .inr ⟨mem, nonempty, ?_⟩
              rintro (equal | found)
              · exact same equal
              · exact unseen found

theorem nodup_distinctLabels (seen labels : List String) :
    (distinctLabels seen labels).Nodup := by
  induction labels generalizing seen with
  | nil => simp [distinctLabels]
  | cons first rest ih =>
      unfold distinctLabels
      split
      · exact ih seen
      · refine List.nodup_cons.mpr ⟨fun mem => ?_, ih (first :: seen)⟩
        exact ((mem_distinctLabels _ _ _).mp mem).2.2 (List.mem_cons_self ..)

/-- A description of an encoder that has not been checked. -/
structure DescriptorDraft where
  labels : List String
  predicate : Predicate := .acceptAll
  identifierOverride : Option String := none
  typeName : Option String := none
  mimeType : String := "text/xml"
  publishMode : PublishMode := .primary

namespace DescriptorDraft

/-- Adds a label behind those that are there. -/
def withLabel (draft : DescriptorDraft) (label : String) : DescriptorDraft :=
  { draft with labels := draft.labels ++ [label] }

/-- Builds the descriptor. Empty and repeated labels are dropped; a draft left
without labels is refused. -/
def build (draft : DescriptorDraft) : Except RegistrationError Descriptor :=
  if h : distinctLabels [] draft.labels ≠ [] then
    .ok
      { aliases := distinctLabels [] draft.labels
        predicate := draft.predicate
        identifierOverride := draft.identifierOverride
        typeName := draft.typeName
        mimeType := draft.mimeType
        publishMode := draft.publishMode
        aliases_ne_nil := h
        aliases_nodup := nodup_distinctLabels [] draft.labels
        empty_not_mem := fun mem => ((mem_distinctLabels _ _ _).mp mem).2.1 rfl }
  else .error (.emptyAliases (draft.typeName.getD "<unnamed>"))

/-- Some label of the draft is not empty. -/
def Labelled (draft : DescriptorDraft) : Prop :=
  ∃ label ∈ draft.labels, label ≠ ""

theorem labelled_iff (draft : DescriptorDraft) :
    draft.Labelled ↔ distinctLabels [] draft.labels ≠ [] := by
  constructor
  · rintro ⟨label, mem, nonempty⟩
    exact List.ne_nil_of_mem ((mem_distinctLabels _ _ _).mpr ⟨mem, nonempty, List.not_mem_nil⟩)
  · intro left
    obtain ⟨label, mem⟩ := List.exists_mem_of_ne_nil _ left
    obtain ⟨declared, nonempty, _⟩ := (mem_distinctLabels _ _ _).mp mem
    exact ⟨label, declared, nonempty⟩

theorem exists_build_of_labelled {draft : DescriptorDraft} (labelled : draft.Labelled) :
    ∃ descriptor, draft.build = .ok descriptor := by
  rw [build, dif_pos (draft.labelled_iff.mp labelled)]
  exact ⟨_, rfl⟩

theorem build_of_not_labelled {draft : DescriptorDraft} (unlabelled : ¬ draft.Labelled) :
    draft.build = .error (.emptyAliases (draft.typeName.getD "<unnamed>")) := by
  rw [build, dif_neg (mt draft.labelled_iff.mpr unlabelled)]

end DescriptorDraft

end FeatureService
