import FeatureService.Proofs.Registry.FirstHolder
import FeatureService.Proofs.Registry.Ownership
import FeatureService.Service.BuiltIn
import Mathlib.Data.List.Induction

/-!
# Construction of registries

A draft becomes a registry exactly when every descriptor has an identifier. The
registry then has one encoder for each descriptor, in order, and the index of
the draft, which still leads to the same descriptors.
-/

namespace FeatureService

namespace Encoder

/-- The encoder bears the identifier that its descriptor yields. -/
def Derived (encoder : Encoder) : Prop :=
  encoder.descriptor.identifier.outcome = .ok encoder.identifier

end Encoder

namespace Construction

def reportsOn (construction : Construction) (encoder : Encoder) : List Diagnostic :=
  encoder.descriptor.identifier.diagnostics ++ encoder.descriptor.aliasReports
    ++ construction.collisionReport encoder

def reportsOnAll (construction : Construction) : List Encoder → List Diagnostic
  | [] => []
  | encoder :: rest =>
      construction.reportsOn encoder ++ (construction.push encoder).reportsOnAll rest

theorem reportsOnAll_append (construction : Construction) (first second : List Encoder) :
    construction.reportsOnAll (first ++ second) =
      construction.reportsOnAll first ++ (construction.pushAll first).reportsOnAll second := by
  induction first generalizing construction with
  | nil => rfl
  | cons encoder rest ih =>
      rw [List.cons_append, reportsOnAll, ih, reportsOnAll, List.append_assoc]
      rfl

theorem reportsOnAll_concat (construction : Construction) (encoders : List Encoder)
    (encoder : Encoder) :
    construction.reportsOnAll (encoders ++ [encoder]) =
      construction.reportsOnAll encoders ++ (construction.pushAll encoders).reportsOn encoder := by
  rw [reportsOnAll_append, reportsOnAll, reportsOnAll, List.append_nil]

/-- A descriptor that yields an identifier is taken in behind the others. -/
theorem run_of_derived (construction : Construction) {encoder : Encoder}
    (derived : encoder.Derived) (rest : List (Descriptor × Nat)) :
    construction.run ((encoder.descriptor, construction.encoders.length) :: rest) =
      ⟨construction.reportsOn encoder ++ ((construction.push encoder).run rest).diagnostics,
        ((construction.push encoder).run rest).outcome⟩ := by
  have yields : encoder.descriptor.identifier.outcome = .ok encoder.identifier := derived
  simp only [run, yields]
  rfl

theorem run_of_error (construction : Construction) (descriptor : Descriptor) (place : Nat)
    (rest : List (Descriptor × Nat)) {error : RegistrationError}
    (underived : descriptor.identifier.outcome = .error error) :
    construction.run ((descriptor, place) :: rest) =
      ⟨descriptor.identifier.diagnostics, .error error⟩ := by
  simp only [run, underived]

/-- Descriptors that yield identifiers are taken in one after the other, each
with the number of encoders before it as its place. -/
theorem run_append (construction : Construction) (encoders : List Encoder)
    (rest : List Descriptor) (derived : ∀ encoder ∈ encoders, encoder.Derived) :
    let extended := construction.pushAll encoders
    construction.run ((encoders.map Encoder.descriptor ++ rest).zipIdx
        construction.encoders.length) =
      ⟨construction.reportsOnAll encoders
          ++ (extended.run (rest.zipIdx extended.encoders.length)).diagnostics,
        (extended.run (rest.zipIdx extended.encoders.length)).outcome⟩ := by
  induction encoders generalizing construction with
  | nil => rfl
  | cons encoder others ih =>
      intro extended
      obtain ⟨first, further⟩ := List.forall_mem_cons.mp derived
      -- Behind the encoder places are counted from one more on, as the numbering does.
      have inner := ih (construction.push encoder) further
      rw [push_encoders, List.length_append, List.length_singleton] at inner
      rw [List.map_cons, List.cons_append, List.zipIdx_cons, construction.run_of_derived first,
        inner, reportsOnAll, List.append_assoc]
      rfl

end Construction

namespace RegistryDraft

theorem derived_or_first_error (descriptors : List Descriptor) :
    (∃ encoders : List Encoder, encoders.map Encoder.descriptor = descriptors ∧
      ∀ encoder ∈ encoders, encoder.Derived) ∨
    ∃ (encoders : List Encoder) (descriptor : Descriptor) (rest : List Descriptor)
      (error : RegistrationError),
      descriptors = encoders.map Encoder.descriptor ++ descriptor :: rest ∧
      (∀ encoder ∈ encoders, encoder.Derived) ∧
      descriptor.identifier.outcome = .error error := by
  induction descriptors with
  | nil => exact .inl ⟨[], rfl, by simp⟩
  | cons first rest ih =>
      cases outcome : first.identifier.outcome with
      | error error => exact .inr ⟨[], first, rest, error, rfl, by simp, outcome⟩
      | ok identifier =>
          have named : (Encoder.mk first identifier).Derived := outcome
          rcases ih with ⟨encoders, same, derived⟩ |
            ⟨encoders, descriptor, others, error, same, derived, underived⟩
          · exact .inl ⟨⟨first, identifier⟩ :: encoders, by simp [same],
              List.forall_mem_cons.mpr ⟨named, derived⟩⟩
          · exact .inr ⟨⟨first, identifier⟩ :: encoders, descriptor, others, error,
              by simp [same], List.forall_mem_cons.mpr ⟨named, derived⟩, underived⟩

/-- What a draft and the registry that is built from it have in common. -/
structure Builds (draft : RegistryDraft) (registry : Registry) : Prop where
  descriptors : registry.encoders.map Encoder.descriptor = draft.descriptors
  owners : registry.owners = draft.owners
  derived : ∀ encoder ∈ registry.encoders, encoder.Derived

/-- What is built of descriptors the first of which yield identifiers. -/
theorem build_of_split {draft : RegistryDraft} {encoders : List Encoder} {rest : List Descriptor}
    (split : draft.descriptors = encoders.map Encoder.descriptor ++ rest)
    (derived : ∀ encoder ∈ encoders, encoder.Derived) :
    draft.build =
      let further := (Construction.empty.pushAll encoders).run (rest.zipIdx encoders.length)
      ⟨Construction.empty.reportsOnAll encoders ++ further.diagnostics,
        further.outcome.map fun construction => ⟨construction.encoders, draft.owners⟩⟩ := by
  have whole : Construction.empty.run (encoders.map Encoder.descriptor ++ rest).zipIdx = _ :=
    Construction.empty.run_append encoders rest derived
  rw [Construction.pushAll_encoders] at whole
  rw [build, split, whole]
  rfl

theorem Builds.build_eq {draft : RegistryDraft} {registry : Registry}
    (builds : draft.Builds registry) :
    draft.build = ⟨Construction.empty.reportsOnAll registry.encoders, .ok registry⟩ := by
  have split : draft.descriptors = registry.encoders.map Encoder.descriptor ++ [] := by
    rw [List.append_nil, builds.descriptors]
  rw [build_of_split split builds.derived]
  simp [Construction.run, Except.map, Construction.empty, ← builds.owners]

theorem build_outcome_eq_ok_iff (draft : RegistryDraft) (registry : Registry) :
    draft.build.outcome = .ok registry ↔ draft.Builds registry := by
  constructor
  · intro built
    rcases derived_or_first_error draft.descriptors with ⟨encoders, same, derived⟩ |
      ⟨encoders, descriptor, rest, error, split, derived, underived⟩
    · have builds : draft.Builds ⟨encoders, draft.owners⟩ := ⟨same, rfl, derived⟩
      rw [builds.build_eq] at built
      exact Except.ok.inj built ▸ builds
    · rw [build_of_split split derived, List.zipIdx_cons,
        Construction.run_of_error _ _ _ _ underived] at built
      cases built
  · intro builds
    rw [builds.build_eq]

theorem build_diagnostics {draft : RegistryDraft} {registry : Registry}
    (built : draft.build.outcome = .ok registry) :
    draft.build.diagnostics = Construction.empty.reportsOnAll registry.encoders := by
  rw [((draft.build_outcome_eq_ok_iff registry).mp built).build_eq]

/-! ## Collisions of identifiers -/

/-- No two encoders are reported to have one identifier. -/
def Quiet (diagnostics : List Diagnostic) : Prop :=
  ∀ identifier first second, .identifierCollision identifier first second ∉ diagnostics

theorem Quiet.of_append {first second : List Diagnostic} (quiet : Quiet (first ++ second)) :
    Quiet first ∧ Quiet second :=
  ⟨fun identifier one two mem => quiet identifier one two (List.mem_append_left _ mem),
    fun identifier one two mem => quiet identifier one two (List.mem_append_right _ mem)⟩

/-- Where no collision is reported, identifiers differ. -/
theorem identifiers_nodup_of_quiet (encoders : List Encoder)
    (quiet : Quiet (Construction.empty.reportsOnAll encoders)) :
    (encoders.map Encoder.identifier).Nodup := by
  induction encoders using List.reverseRecOn with
  | nil => exact List.nodup_nil
  | append_singleton earlier encoder ih =>
      rw [Construction.reportsOnAll_concat] at quiet
      obtain ⟨before, onEncoder⟩ := quiet.of_append
      have apart : ∀ other ∈ earlier, other.identifier ≠ encoder.identifier := by
        rcases (Construction.aligned_pushAll_empty earlier).publish_cases encoder with
          ⟨apart, _⟩ | ⟨_, _, _, _, report⟩
        · simpa [Construction.empty] using apart
        · refine absurd (List.mem_singleton_self _) (report ▸ onEncoder.of_append.2 _ _ _)
      rw [List.map_append, List.nodup_append]
      refine ⟨ih before, by simp, ?_⟩
      intro identifier inEarlier other inLast
      obtain ⟨holder, mem, rfl⟩ := List.mem_map.mp inEarlier
      obtain rfl : other = encoder.identifier := by simpa using inLast
      exact apart holder mem

end RegistryDraft

/-! ## Look-up in a registry -/

namespace Registry

def Indexed (registry : Registry) : Prop :=
  Indexes registry.owners (registry.encoders.map Encoder.descriptor)

theorem indexed_of_built {draft : RegistryDraft} {registry : Registry} (indexed : draft.Indexed)
    (built : draft.build.outcome = .ok registry) : registry.Indexed := by
  have builds := (draft.build_outcome_eq_ok_iff registry).mp built
  rw [Indexed, builds.descriptors, builds.owners]
  exact indexed

variable {registry : Registry}

theorem Indexed.place_eq (indexed : registry.Indexed) {label : String} {i j : Nat}
    {first second : Encoder}
    (firstAt : registry.encoders[i]? = some first)
    (firstDeclares : label ∈ first.descriptor.aliases)
    (secondAt : registry.encoders[j]? = some second)
    (secondDeclares : label ∈ second.descriptor.aliases) : i = j := by
  refine Indexes.place_eq indexed ?_ firstDeclares ?_ secondDeclares
  · rw [List.getElem?_map, firstAt, Option.map_some]
  · rw [List.getElem?_map, secondAt, Option.map_some]

theorem Indexed.get?_eq_some_iff (indexed : registry.Indexed) (label : String)
    (encoder : Encoder) :
    registry.get? label = some encoder ↔
      encoder ∈ registry.encoders ∧ label ∈ encoder.descriptor.aliases := by
  unfold get?
  rw [Option.bind_eq_some_iff]
  constructor
  · rintro ⟨place, found, there⟩
    obtain ⟨descriptor, same, declares⟩ := (indexed label place).mp found
    rw [List.getElem?_map, there] at same
    obtain rfl := Option.some.inj same
    exact ⟨List.mem_of_getElem? there, declares⟩
  · rintro ⟨mem, declares⟩
    obtain ⟨place, there⟩ := List.mem_iff_getElem?.mp mem
    refine ⟨place, (indexed label place).mpr ⟨encoder.descriptor, ?_, declares⟩, there⟩
    rw [List.getElem?_map, there, Option.map_some]

theorem Indexed.get?_eq_none_iff (indexed : registry.Indexed) (label : String) :
    registry.get? label = none ↔
      ∀ encoder ∈ registry.encoders, label ∉ encoder.descriptor.aliases := by
  rw [Option.eq_none_iff_forall_ne_some]
  constructor
  · intro absent encoder mem declares
    exact absent encoder ((indexed.get?_eq_some_iff label encoder).mpr ⟨mem, declares⟩)
  · intro undeclared encoder found
    obtain ⟨mem, declares⟩ := (indexed.get?_eq_some_iff label encoder).mp found
    exact undeclared encoder mem declares

end Registry

/-! ## Registries after a run of calls -/

/-- Whatever descriptors are offered, the index of the draft and its descriptors
agree, refusals have no effect, and a registry that is built finds for each
label the one encoder that declares it. `calls` is what was offered so far. -/
theorem label_ownership (calls : List Descriptor) :
    let draft := RegistryDraft.empty.offerAll calls
    let accepted := RegistryDraft.empty.accepted calls
    (∀ label place, draft.owners.lookup label = some place ↔
      ∃ descriptor, draft.descriptors[place]? = some descriptor ∧
        descriptor.declares label = true) ∧
    (∀ label place, draft.owners.lookup label = some place → place < draft.descriptors.length) ∧
    draft.descriptors = accepted ∧
    accepted.Pairwise Descriptor.Apart ∧
    (∀ descriptor, (draft.register descriptor).2 = .ok () ↔
      ∀ earlier ∈ accepted, descriptor.Apart earlier) ∧
    (∀ descriptor error, (draft.register descriptor).2 = .error error →
      (draft.register descriptor).1 = draft) ∧
    RegistryDraft.empty.registerAll accepted = .ok draft ∧
    ∀ registry, draft.build.outcome = .ok registry →
      registry.encoders.map Encoder.descriptor = accepted ∧
      (∀ label encoder, registry.get? label = some encoder ↔
        encoder ∈ registry.encoders ∧ encoder.descriptor.declares label = true) ∧
      ∀ label, registry.get? label = none ↔
        ∀ encoder ∈ registry.encoders, encoder.descriptor.declares label = false := by
  intro draft accepted
  have indexed : draft.Indexed := RegistryDraft.indexed_offerAll_empty calls
  have descriptors : draft.descriptors = accepted :=
    RegistryDraft.descriptors_offerAll RegistryDraft.empty calls
  refine ⟨?_, fun _ _ => indexed.place_lt, descriptors, descriptors ▸ indexed.pairwise_apart,
    ?_, fun _ _ => RegistryDraft.register_refused, RegistryDraft.registerAll_accepted _ _, ?_⟩
  · intro label place
    simpa using indexed label place
  · intro descriptor
    rw [draft.register_accepts_iff, indexed.taken?_eq_none_iff, descriptors]
  · intro registry built
    have found := Registry.indexed_of_built indexed built
    have builds := (draft.build_outcome_eq_ok_iff registry).mp built
    refine ⟨builds.descriptors.trans descriptors, ?_, ?_⟩
    · intro label encoder
      rw [found.get?_eq_some_iff, Descriptor.declares_iff]
    · intro label
      rw [found.get?_eq_none_iff]
      simp only [← Descriptor.declares_iff, Bool.not_eq_true]

/-- A format with one label of its own and one of the built-in `csv`. -/
def spreadsheet : Descriptor :=
  { BuiltIn.csv with
    aliases := ["spreadsheet", "csv"]
    aliases_ne_nil := by decide
    aliases_nodup := by decide
    empty_not_mem := by decide }

/-- A refused format leaves nothing behind, and what comes after it is found. -/
theorem label_ownership_after_refusal :
    let draft := RegistryDraft.empty.offerAll [BuiltIn.csv, spreadsheet, BuiltIn.gml2]
    let registry : Registry := ⟨[⟨BuiltIn.csv, "csv"⟩, ⟨BuiltIn.gml2, "GML2"⟩], draft.owners⟩
    draft.build.outcome = .ok registry ∧
      registry.encoders.map Encoder.descriptor = [BuiltIn.csv, BuiltIn.gml2] ∧
      registry.get? "GML2" = some ⟨BuiltIn.gml2, "GML2"⟩ ∧
      registry.get? "spreadsheet" = none := by
  intro draft registry
  have built : draft.build.outcome = .ok registry := rfl
  obtain ⟨_, _, _, _, _, _, _, afterBuild⟩ :=
    label_ownership [BuiltIn.csv, spreadsheet, BuiltIn.gml2]
  obtain ⟨descriptors, found, absent⟩ := afterBuild registry built
  refine ⟨built, descriptors, (found _ _).mpr ⟨?_, by decide⟩, (absent _).mpr ?_⟩
  · exact List.mem_cons_of_mem _ (List.mem_singleton_self _)
  · intro encoder mem
    rcases List.mem_cons.mp mem with rfl | mem
    · decide
    · rw [List.mem_singleton.mp mem]
      decide

end FeatureService
