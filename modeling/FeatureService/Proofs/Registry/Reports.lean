import FeatureService.Proofs.Registry.Publication
import Mathlib.Data.Finset.Card

/-!
# Reports of a construction

What is reported while a registry is built, encoder by encoder: first what the
derivation of the identifier reports, then the aliases that cannot be
published, then a collision with an earlier encoder. The reports on a whole
registry then say which aliases are not published and how many identifiers are
shared.
-/

namespace FeatureService

inductive OverrideReport (descriptor : Descriptor) : List Diagnostic → Prop where
  | rejected {name : String} (declared : descriptor.identifierOverride = some name)
      (invalid : ElementName.isValid name = false) :
      OverrideReport descriptor [.overrideRejected descriptor.primaryAlias name]
  | silent (valid : ∀ name, descriptor.identifierOverride = some name →
      ElementName.isValid name = true) : OverrideReport descriptor []

inductive TypeNameReport (encoder : Encoder) : List Diagnostic → Prop where
  | used (needed : encoder.descriptor.NeedsTypeName) :
      TypeNameReport encoder
        [.typeNameFallback encoder.descriptor.primaryAlias encoder.identifier]
  | silent (unneeded : ¬ encoder.descriptor.NeedsTypeName) : TypeNameReport encoder []

/-- The name of an encoder in messages: its primary alias, with the type name in
brackets where there is one. -/
inductive DisplayName (descriptor : Descriptor) : String → Prop where
  | typed {typeName : String} (named : descriptor.typeName = some typeName) :
      DisplayName descriptor (descriptor.primaryAlias ++ " (" ++ typeName ++ ")")
  | bare (unnamed : descriptor.typeName = none) : DisplayName descriptor descriptor.primaryAlias

/-- The report on an identifier, which names the first of the earlier encoders
that bears it before the encoder itself. -/
inductive CollisionReport (earlier : List Encoder) (encoder : Encoder) :
    List Diagnostic → Prop where
  | shared {place : Nat} {holder : Encoder} {first second : String}
      (held : LeastWith (fun other => other.identifier = encoder.identifier) earlier place holder)
      (namesFirst : DisplayName holder.descriptor first)
      (namesSecond : DisplayName encoder.descriptor second) :
      CollisionReport earlier encoder [.identifierCollision encoder.identifier first second]
  | silent (apart : ∀ other ∈ earlier, other.identifier ≠ encoder.identifier) :
      CollisionReport earlier encoder []

/-- The reports on encoders in the order of registration, those on one encoder
together. -/
inductive Reports : List Encoder → List Diagnostic → Prop where
  | none : Reports [] []
  | further {encoders : List Encoder} {reports : List Diagnostic} {encoder : Encoder}
      {override typeName collision : List Diagnostic} (earlier : Reports encoders reports)
      (onOverride : OverrideReport encoder.descriptor override)
      (onTypeName : TypeNameReport encoder typeName)
      (onCollision : CollisionReport encoders encoder collision) :
      Reports (encoders ++ [encoder])
        (reports ++ (override ++ typeName
          ++ (encoder.descriptor.aliases.filter fun label => !ElementName.isValid label).map
            .aliasNotPublishable
          ++ collision))

namespace Descriptor

theorem displayName_holds (descriptor : Descriptor) :
    DisplayName descriptor descriptor.displayName := by
  unfold displayName
  split
  · rename_i typeName named
    exact .typed named
  · rename_i unnamed
    exact .bare unnamed

theorem overrideReport_holds (descriptor : Descriptor) :
    OverrideReport descriptor descriptor.overrideReport := by
  unfold overrideReport
  split
  · rename_i name declared
    split
    · rename_i valid
      refine .silent fun other same => ?_
      obtain rfl := Option.some.inj (declared.symm.trans same)
      exact valid
    · rename_i invalid
      exact .rejected declared (by simpa using invalid)
  · rename_i undeclared
    exact .silent fun name declared => by rw [undeclared] at declared; cases declared

theorem Derivation.reports {descriptor : Descriptor} {derived : Reported String}
    (derivation : Derivation descriptor derived) {identifier : String}
    (yields : derived.outcome = .ok identifier) :
    ∃ typeName, TypeNameReport ⟨descriptor, identifier⟩ typeName ∧
      derived.diagnostics = descriptor.overrideReport ++ typeName := by
  cases derivation with
  | @override name declared valid =>
      have unneeded : ¬ descriptor.NeedsTypeName := fun needs => by
        rw [needs.1 name declared] at valid
        cases valid
      exact ⟨[], .silent unneeded, by simp [overrideReport, declared, valid]⟩
  | primaryAlias _ valid =>
      have unneeded : ¬ descriptor.NeedsTypeName := fun needs => by
        rw [needs.2] at valid
        cases valid
      exact ⟨[], .silent unneeded, by simp⟩
  | typeName needs =>
      obtain rfl := Except.ok.inj yields
      exact ⟨_, .used needs, rfl⟩
  | refused => cases yields

end Descriptor

/-- What is reported on an identifier, as far as the published ones are in line. -/
theorem Construction.Aligned.collisionReport_holds {construction : Construction}
    (aligned : construction.Aligned) (encoder : Encoder) :
    CollisionReport construction.encoders encoder (construction.collisionReport encoder) := by
  rcases aligned.publish_cases encoder with ⟨apart, _, report⟩ | ⟨place, holder, held, _, report⟩
  · rw [report]
    exact .silent apart
  · rw [report]
    exact .shared held holder.descriptor.displayName_holds encoder.descriptor.displayName_holds

namespace Diagnostic

def isCollision : Diagnostic → Bool
  | identifierCollision .. => true
  | _ => false

end Diagnostic

namespace Reports

variable {encoders : List Encoder} {reports : List Diagnostic}

theorem of_derived {encoders : List Encoder} (derived : ∀ encoder ∈ encoders, encoder.Derived) :
    Reports encoders (Construction.empty.reportsOnAll encoders) := by
  induction encoders using List.reverseRecOn with
  | nil => exact .none
  | append_singleton earlier encoder ih =>
      obtain ⟨before, named⟩ := List.forall_mem_append.mp derived
      obtain ⟨typeName, onTypeName, diagnostics⟩ :=
        encoder.descriptor.derivation.reports (named encoder (List.mem_singleton_self _))
      have aligned := Construction.aligned_pushAll_empty earlier
      have onCollision := aligned.collisionReport_holds encoder
      rw [Construction.pushAll_encoders] at onCollision
      have group := (ih before).further encoder.descriptor.overrideReport_holds onTypeName
        onCollision
      rw [Construction.reportsOnAll_concat, Construction.reportsOn, diagnostics]
      exact group

/-- An alias that is no element name is reported once for each time it is declared. -/
theorem count_alias (report : Reports encoders reports) (label : String) :
    reports.count (.aliasNotPublishable label) =
      if ElementName.isValid label then 0
      else (encoders.flatMap fun encoder => encoder.descriptor.aliases).count label := by
  induction report with
  | none => simp
  | @further encoders reports encoder override typeName collision _ onOverride onTypeName
      onCollision ih =>
      have onOverride : override.count (.aliasNotPublishable label) = 0 := by
        cases onOverride <;> simp
      have onTypeName : typeName.count (.aliasNotPublishable label) = 0 := by
        cases onTypeName <;> simp
      have onCollision : collision.count (.aliasNotPublishable label) = 0 := by
        cases onCollision <;> simp
      have injective : Function.Injective Diagnostic.aliasNotPublishable :=
        fun _ _ same => Diagnostic.aliasNotPublishable.inj same
      simp only [List.count_append, ih, onOverride, onTypeName, onCollision,
        List.count_map_of_injective _ _ injective, List.flatMap_append]
      cases valid : ElementName.isValid label with
      | true => simpa using List.count_eq_zero.mpr fun mem => by simp [valid] at mem
      | false => simp [valid]

/-- Each encoder but the first with its identifier is reported to collide. -/
theorem count_collisions (report : Reports encoders reports) :
    reports.countP Diagnostic.isCollision + (encoders.map Encoder.identifier).toFinset.card =
      encoders.length := by
  induction report with
  | none => rfl
  | @further encoders reports encoder override typeName collision _ onOverride onTypeName
      onCollision ih =>
      have onOverride : override.countP Diagnostic.isCollision = 0 := by
        cases onOverride <;> rfl
      have onTypeName : typeName.countP Diagnostic.isCollision = 0 := by
        cases onTypeName <;> rfl
      have onAliases (labels : List String) :
          (labels.map Diagnostic.aliasNotPublishable).countP Diagnostic.isCollision = 0 := by
        simp [List.countP_map, List.countP_eq_zero, Diagnostic.isCollision]
      have identifiers : ((encoders ++ [encoder]).map Encoder.identifier).toFinset =
          insert encoder.identifier (encoders.map Encoder.identifier).toFinset := by
        ext identifier
        simp
      rw [identifiers]
      simp only [List.countP_append, onOverride, onTypeName, onAliases, List.length_append,
        List.length_singleton]
      cases onCollision with
      | shared held =>
          have known : encoder.identifier ∈ (encoders.map Encoder.identifier).toFinset := by
            rw [List.mem_toFinset, ← held.holds]
            exact List.mem_map_of_mem held.mem
          rw [Finset.insert_eq_of_mem known]
          simp only [List.countP_singleton, Diagnostic.isCollision, if_true]
          omega
      | silent apart =>
          have fresh : encoder.identifier ∉ (encoders.map Encoder.identifier).toFinset := by
            rw [List.mem_toFinset]
            intro mem
            obtain ⟨other, inside, same⟩ := List.mem_map.mp mem
            exact apart other inside same
          rw [Finset.card_insert_of_notMem fresh, List.countP_nil]
          omega

end Reports

namespace Registry

variable {registry : Registry}

theorem mem_publishableIdentifiers (registry : Registry) (label : String) :
    label ∈ registry.publishableIdentifiers ↔
      (∃ encoder ∈ registry.encoders, label ∈ encoder.descriptor.aliases) ∧
        ElementName.isValid label = true := by
  rw [publishableIdentifiers, Text.mem_sortedSet, List.mem_filter, List.mem_flatMap]

theorem Indexed.aliases_nodup (indexed : registry.Indexed) :
    (registry.encoders.flatMap fun encoder => encoder.descriptor.aliases).Nodup := by
  rw [List.nodup_flatMap]
  refine ⟨fun encoder _ => encoder.descriptor.aliases_nodup, ?_⟩
  refine (List.pairwise_map.mp indexed.pairwise_apart).imp ?_
  intro first second apart label inFirst inSecond
  exact apart label inFirst inSecond

theorem Indexed.listed_or_reported (indexed : registry.Indexed) {reports : List Diagnostic}
    (report : Reports registry.encoders reports) {encoder : Encoder}
    (mem : encoder ∈ registry.encoders) {label : String}
    (declared : label ∈ encoder.descriptor.aliases) :
    (label ∈ registry.publishableIdentifiers ∧
        reports.count (.aliasNotPublishable label) = 0) ∨
      (label ∉ registry.publishableIdentifiers ∧
        reports.count (.aliasNotPublishable label) = 1) := by
  rw [registry.mem_publishableIdentifiers, report.count_alias]
  cases valid : ElementName.isValid label with
  | true => exact .inl ⟨⟨⟨encoder, mem, declared⟩, rfl⟩, rfl⟩
  | false =>
      have among : label ∈ registry.encoders.flatMap fun encoder => encoder.descriptor.aliases :=
        List.mem_flatMap.mpr ⟨encoder, mem, declared⟩
      refine .inr ⟨by simp, ?_⟩
      rw [if_neg (by simp), List.count_eq_one_of_mem indexed.aliases_nodup among]

end Registry

/-! ## Reports on a registry that was built -/

/-- Building reports on all encoders, or on those before the first that is not
publishable and on the override of that one. Each alias is listed or reported
once, and each encoder beyond the distinct identifiers is a collision. -/
theorem reports_of_build (calls : List Descriptor) :
    let draft := RegistryDraft.empty.offerAll calls
    ((∀ descriptor ∈ draft.descriptors, descriptor.Publishable) →
      ∃ registry, draft.build.outcome = .ok registry ∧
        registry.encoders.map Encoder.descriptor = draft.descriptors ∧
        Reports registry.encoders draft.build.diagnostics ∧
        (∀ encoder ∈ registry.encoders, ∀ label ∈ encoder.descriptor.aliases,
          (label ∈ registry.publishableIdentifiers ∧
            draft.build.diagnostics.count (.aliasNotPublishable label) = 0) ∨
          (label ∉ registry.publishableIdentifiers ∧
            draft.build.diagnostics.count (.aliasNotPublishable label) = 1)) ∧
        draft.build.diagnostics.countP Diagnostic.isCollision +
            (registry.encoders.map Encoder.identifier).toFinset.card =
          registry.encoders.length) ∧
    ∀ before descriptor,
      FirstWithout Descriptor.Publishable draft.descriptors before descriptor →
      ∃ encoders reports override, encoders.map Encoder.descriptor = before ∧
        (∀ encoder ∈ encoders, encoder.Derived) ∧ Reports encoders reports ∧
        OverrideReport descriptor override ∧
        draft.build.diagnostics = reports ++ override ∧
        draft.build.outcome = .error
          (.invalidIdentifier descriptor.primaryAlias descriptor.unpublishableReason) := by
  intro draft
  constructor
  · intro publishable
    obtain ⟨registry, builds⟩ := RegistryDraft.builds_of_publishable publishable
    have built : draft.build.outcome = .ok registry :=
      (draft.build_outcome_eq_ok_iff registry).mpr builds
    have indexed := Registry.indexed_of_built (RegistryDraft.indexed_offerAll_empty calls) built
    have report : Reports registry.encoders draft.build.diagnostics := by
      rw [RegistryDraft.build_diagnostics built]
      exact .of_derived builds.derived
    exact ⟨registry, built, builds.descriptors, report,
      fun encoder mem label declared => indexed.listed_or_reported report mem declared,
      report.count_collisions⟩
  · intro before descriptor failure
    obtain ⟨encoders, descriptors, derived, outcome⟩ := RegistryDraft.build_of_firstWithout failure
    exact ⟨encoders, _, _, descriptors, derived, .of_derived derived,
      descriptor.overrideReport_holds, by rw [outcome], by rw [outcome]⟩

/-- A format without a type name that is published under the identifier of the
built-in `csv`. -/
def legacyTable : Descriptor :=
  { BuiltIn.csv with
    aliases := ["table", "text/table"]
    identifierOverride := some "csv"
    typeName := none
    aliases_ne_nil := by decide
    aliases_nodup := by decide
    empty_not_mem := by decide }

def exportTable : Descriptor :=
  { BuiltIn.csv with
    aliases := ["export"]
    identifierOverride := some "csv"
    typeName := some "tables::Export"
    aliases_ne_nil := by decide
    aliases_nodup := by decide
    empty_not_mem := by decide }

/-- A format with an override that cannot serve and no other candidate. -/
def plainText : Descriptor :=
  { BuiltIn.csv with
    aliases := ["text/plain"]
    identifierOverride := some "plain text"
    typeName := none
    aliases_ne_nil := by decide
    aliases_nodup := by decide
    empty_not_mem := by decide }

/-- Three encoders with one identifier, of which the first is named each time, and
a format that ends the construction between them. -/
theorem reports_of_build_tables :
    let draft := RegistryDraft.empty.offerAll [BuiltIn.csv, legacyTable, exportTable]
    let registry : Registry :=
      ⟨[⟨BuiltIn.csv, "csv"⟩, ⟨legacyTable, "csv"⟩, ⟨exportTable, "csv"⟩], draft.owners⟩
    let broken := RegistryDraft.empty.offerAll [BuiltIn.csv, plainText, legacyTable]
    (∀ descriptor ∈ draft.descriptors, descriptor.Publishable) ∧
      draft.build.outcome = .ok registry ∧
      Reports registry.encoders draft.build.diagnostics ∧
      draft.build.diagnostics.countP Diagnostic.isCollision = 2 ∧
      draft.build.diagnostics =
        [.aliasNotPublishable "text/csv", .aliasNotPublishable "text/table",
          .identifierCollision "csv" "csv (geoformat_runtime::formats::CsvOutputFormat)" "table",
          .identifierCollision "csv" "csv (geoformat_runtime::formats::CsvOutputFormat)"
            "export (tables::Export)"] ∧
      FirstWithout Descriptor.Publishable broken.descriptors [BuiltIn.csv] plainText ∧
      broken.build.outcome =
        .error (.invalidIdentifier "text/plain" Descriptor.noTypeNameReason) ∧
      broken.build.diagnostics =
        [.aliasNotPublishable "text/csv", .overrideRejected "text/plain" "plain text"] := by
  intro draft registry broken
  have csv : BuiltIn.csv.Publishable := ⟨"csv", by decide, by decide⟩
  have legacy : legacyTable.Publishable := ⟨"csv", by decide, by decide⟩
  have exported : exportTable.Publishable := ⟨"csv", by decide, by decide⟩
  have plain : ¬ plainText.Publishable := by
    unfold Descriptor.Publishable
    decide
  have publishable : ∀ descriptor ∈ draft.descriptors, descriptor.Publishable :=
    List.forall_mem_cons.mpr ⟨csv, List.forall_mem_cons.mpr ⟨legacy,
      List.forall_mem_cons.mpr ⟨exported, by simp⟩⟩⟩
  have failure : FirstWithout Descriptor.Publishable broken.descriptors [BuiltIn.csv] plainText :=
    ⟨⟨[legacyTable], rfl⟩, List.forall_mem_cons.mpr ⟨csv, by simp⟩, plain⟩
  have known : draft.build.outcome = .ok registry := rfl
  obtain ⟨other, built, _, report, _, collisions⟩ :=
    (reports_of_build [BuiltIn.csv, legacyTable, exportTable]).1 publishable
  obtain rfl : registry = other := Except.ok.inj (known.symm.trans built)
  obtain ⟨_, _, _, _, _, _, _, _, outcome⟩ :=
    (reports_of_build [BuiltIn.csv, plainText, legacyTable]).2 _ _ failure
  have identifiers : (registry.encoders.map Encoder.identifier).toFinset.card = 1 := by decide
  rw [identifiers] at collisions
  exact ⟨publishable, known, report, Nat.succ.inj collisions, rfl, failure, outcome, rfl⟩

end FeatureService
