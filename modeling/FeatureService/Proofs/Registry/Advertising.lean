import FeatureService.Proofs.Registry.Construction

/-!
# Names in a capabilities document

An encoder advertises aliases of its own or its identifier. An alias leads back
to the encoder. An identifier that is no alias of the encoder comes from an
override or a type name, and nothing keeps it from being an alias of another
encoder, to which the name then leads. The two theorems at the end say that
this does happen, and that nothing else can go wrong.
-/

namespace FeatureService

namespace Descriptor

theorem identifier_source {descriptor : Descriptor} {identifier : String}
    (yields : descriptor.identifier.outcome = .ok identifier) :
    descriptor.identifierOverride = some identifier ∨ identifier = descriptor.primaryAlias ∨
      descriptor.typeName.map TypeName.short = some identifier := by
  unfold Descriptor.identifier at yields
  split at yields
  · rename_i declared valid
    obtain rfl := Except.ok.inj yields
    exact .inl (Option.filter_eq_some_iff.mp valid).1
  · change descriptor.undeclaredIdentifier.outcome = .ok identifier at yields
    unfold undeclaredIdentifier at yields
    split at yields
    · exact .inr (.inl (Except.ok.inj yields).symm)
    · unfold typeNameIdentifier at yields
      split at yields
      · cases yields
      · rename_i typeName names
        dsimp only at yields
        split at yields
        · exact .inr (.inr (by rw [names, Option.map_some, Except.ok.inj yields]))
        · cases yields

end Descriptor

namespace Encoder

/-- The encoder advertises aliases, and not its identifier. -/
def AdvertisesAliases (encoder : Encoder) : Prop :=
  encoder.descriptor.publishMode = .allAliases ∧ encoder.descriptor.publishableAliases ≠ []

theorem mem_publishableAliases (descriptor : Descriptor) (name : String) :
    name ∈ descriptor.publishableAliases ↔
      name ∈ descriptor.aliases ∧ ElementName.isValid name = true := by
  rw [Descriptor.publishableAliases, Text.mem_sortedSet, List.mem_filter]

theorem mem_elementNames (encoder : Encoder) (name : String) :
    name ∈ encoder.elementNames ↔
      (encoder.AdvertisesAliases ∧ name ∈ encoder.descriptor.publishableAliases) ∨
        (¬ encoder.AdvertisesAliases ∧ name = encoder.identifier) := by
  unfold elementNames AdvertisesAliases
  cases mode : encoder.descriptor.publishMode with
  | primary => simp
  | allAliases =>
      cases names : encoder.descriptor.publishableAliases with
      | nil => simp
      | cons first rest => simp

end Encoder

namespace Registry

/-- The name is the identifier of the encoder, which does not declare it, and an
alias of another encoder. -/
def Borrows (registry : Registry) (encoder : Encoder) (name : String) : Prop :=
  name = encoder.identifier ∧ name ∉ encoder.descriptor.aliases ∧
    ∃ owner ∈ registry.encoders, name ∈ owner.descriptor.aliases

/-- Each advertised name leads to the encoder that advertises it, or to none. -/
def RoutesAdvertised (registry : Registry) : Prop :=
  ∀ encoder ∈ registry.encoders, ∀ name ∈ encoder.elementNames,
    registry.get? name = none ∨ registry.get? name = some encoder

def AdvertisesOnce (registry : Registry) : Prop :=
  ∀ (i j : Nat) (first second : Encoder) (name : String),
    registry.encoders[i]? = some first → registry.encoders[j]? = some second →
    name ∈ first.elementNames → name ∈ second.elementNames → i = j

variable {registry : Registry}

/-- A name that an encoder advertises leads elsewhere exactly if it is borrowed. -/
theorem Indexed.routes_iff_not_borrows (indexed : registry.Indexed) {encoder : Encoder}
    (mem : encoder ∈ registry.encoders) {name : String} (advertised : name ∈ encoder.elementNames) :
    (registry.get? name = none ∨ registry.get? name = some encoder) ↔
      ¬ registry.Borrows encoder name := by
  by_cases own : name ∈ encoder.descriptor.aliases
  · have found := (indexed.get?_eq_some_iff name encoder).mpr ⟨mem, own⟩
    constructor
    · rintro _ ⟨_, foreign, _⟩
      exact foreign own
    · intro _
      exact .inr found
  · have identifier : name = encoder.identifier := by
      rcases (encoder.mem_elementNames name).mp advertised with ⟨_, published⟩ | ⟨_, same⟩
      · exact absurd ((Encoder.mem_publishableAliases _ name).mp published).1 own
      · exact same
    constructor
    · rintro leads ⟨_, _, owner, inside, declares⟩
      have found := (indexed.get?_eq_some_iff name owner).mpr ⟨inside, declares⟩
      rcases leads with absent | same
      · rw [absent] at found
        cases found
      · obtain rfl := Option.some.inj (same.symm.trans found)
        exact own declares
    · intro free
      refine .inl ((indexed.get?_eq_none_iff name).mpr fun owner inside declares => ?_)
      exact free ⟨identifier, own, owner, inside, declares⟩

/-- Of two encoders that advertise one name, one borrows it from the other, and
the other advertises aliases, unless the two have one identifier. -/
theorem Indexed.shared_name (indexed : registry.Indexed) {i j : Nat} {first second : Encoder}
    {name : String} (firstAt : registry.encoders[i]? = some first)
    (secondAt : registry.encoders[j]? = some second) (apart : i ≠ j)
    (differ : first.identifier ≠ second.identifier)
    (byFirst : name ∈ first.elementNames) (bySecond : name ∈ second.elementNames) :
    (registry.Borrows first name ∧ second.AdvertisesAliases ∧
        second.descriptor.declares name) ∨
      (registry.Borrows second name ∧ first.AdvertisesAliases ∧
        first.descriptor.declares name) := by
  have notBoth : ¬ (name ∈ first.descriptor.aliases ∧ name ∈ second.descriptor.aliases) := by
    rintro ⟨inFirst, inSecond⟩
    exact apart (indexed.place_eq firstAt inFirst secondAt inSecond)
  rw [Descriptor.declares_iff, Descriptor.declares_iff]
  rcases (first.mem_elementNames name).mp byFirst with ⟨firstAll, inFirst⟩ | ⟨_, isFirst⟩
  · have declaresFirst := ((Encoder.mem_publishableAliases _ name).mp inFirst).1
    rcases (second.mem_elementNames name).mp bySecond with ⟨_, inSecond⟩ | ⟨_, isSecond⟩
    · have declaresSecond := ((Encoder.mem_publishableAliases _ name).mp inSecond).1
      exact absurd ⟨declaresFirst, declaresSecond⟩ notBoth
    · refine .inr ⟨⟨isSecond, fun declaresSecond => notBoth ⟨declaresFirst, declaresSecond⟩,
        first, List.mem_of_getElem? firstAt, declaresFirst⟩, firstAll, declaresFirst⟩
  · rcases (second.mem_elementNames name).mp bySecond with ⟨secondAll, inSecond⟩ | ⟨_, isSecond⟩
    · have declaresSecond := ((Encoder.mem_publishableAliases _ name).mp inSecond).1
      refine .inl ⟨⟨isFirst, fun declaresFirst => notBoth ⟨declaresFirst, declaresSecond⟩,
        second, List.mem_of_getElem? secondAt, declaresSecond⟩, secondAll, declaresSecond⟩
    · exact absurd (isFirst.symm.trans isSecond) differ

theorem Borrows.source {encoder : Encoder} {name : String}
    (borrows : registry.Borrows encoder name) (derived : encoder.Derived) :
    encoder.descriptor.identifierOverride = some name ∨
      encoder.descriptor.typeName.map TypeName.short = some name := by
  obtain ⟨rfl, foreign, _⟩ := borrows
  rcases Descriptor.identifier_source derived with declared | primary | short
  · exact .inl declared
  · refine absurd ?_ foreign
    rw [primary]
    exact List.head_mem encoder.descriptor.aliases_ne_nil
  · exact .inr short

end Registry

/-! ## Advertised names of a registry -/

/-- A format that is published under a name it does not declare. -/
def borrower : Descriptor where
  aliases := ["geojson"]
  predicate := .acceptAll
  identifierOverride := some "json"
  typeName := none
  mimeType := "text/xml"
  publishMode := .primary

/-- A format that declares and publishes that name. -/
def lender : Descriptor where
  aliases := ["text", "json"]
  predicate := .acceptAll
  identifierOverride := none
  typeName := none
  mimeType := "text/xml"
  publishMode := .allAliases

/-- Without any report, an advertised name can lead to another encoder, and two
encoders can advertise one name. -/
theorem advertised_name_misrouted :
    let draft := RegistryDraft.empty.offerAll [borrower, lender]
    let registry : Registry := ⟨[⟨borrower, "json"⟩, ⟨lender, "text"⟩], draft.owners⟩
    RegistryDraft.empty.registerAll [borrower, lender] = .ok draft ∧
      draft.build = ⟨[], .ok registry⟩ ∧
      ¬ registry.RoutesAdvertised ∧ ¬ registry.AdvertisesOnce := by
  intro draft registry
  refine ⟨rfl, rfl, ?_, ?_⟩
  · intro routes
    have leads : registry.get? "json" = some ⟨lender, "text"⟩ := rfl
    rcases routes ⟨borrower, "json"⟩ (List.mem_cons_self ..) "json" (by decide) with absent | same
    · rw [leads] at absent
      cases absent
    · rw [leads] at same
      have aliases := congrArg (fun encoder => encoder.descriptor.aliases) (Option.some.inj same)
      exact absurd aliases (by decide)
  · intro once
    have same := once 0 1 ⟨borrower, "json"⟩ ⟨lender, "text"⟩ "json" rfl rfl (by decide) (by decide)
    exact absurd same (by decide)

/-- An advertised name leads to no other encoder unless it is borrowed, which
needs an override or a type name. Where no two identifiers collide, two encoders
advertise one name only if one of them borrows it and the other, which declares
it, advertises its aliases. -/
theorem advertised_unless_borrowed (descriptors : List Descriptor) (draft : RegistryDraft)
    (registry : Registry) (registered : RegistryDraft.empty.registerAll descriptors = .ok draft)
    (built : draft.build.outcome = .ok registry)
    (quiet : RegistryDraft.Quiet draft.build.diagnostics) :
    (∀ encoder ∈ registry.encoders, ∀ name ∈ encoder.elementNames,
      ((registry.get? name = none ∨ registry.get? name = some encoder) ↔
        ¬ registry.Borrows encoder name) ∧
      (registry.Borrows encoder name →
        encoder.descriptor.identifierOverride = some name ∨
          encoder.descriptor.typeName.map TypeName.short = some name)) ∧
    ∀ (i j : Nat) (first second : Encoder) (name : String),
      registry.encoders[i]? = some first → registry.encoders[j]? = some second → i ≠ j →
      name ∈ first.elementNames → name ∈ second.elementNames →
      (registry.Borrows first name ∧ second.AdvertisesAliases ∧
        second.descriptor.declares name = true) ∨
      (registry.Borrows second name ∧ first.AdvertisesAliases ∧
        first.descriptor.declares name = true) := by
  have indexed : registry.Indexed := by
    apply Registry.indexed_of_built _ built
    rw [← RegistryDraft.offerAll_of_registerAll registered]
    exact RegistryDraft.indexed_offerAll_empty descriptors
  have builds := (draft.build_outcome_eq_ok_iff registry).mp built
  rw [RegistryDraft.build_diagnostics built] at quiet
  have distinct := RegistryDraft.identifiers_nodup_of_quiet registry.encoders quiet
  constructor
  · intro encoder mem name advertised
    exact ⟨indexed.routes_iff_not_borrows mem advertised,
      fun borrows => borrows.source (builds.derived encoder mem)⟩
  · intro i j first second name firstAt secondAt apart byFirst bySecond
    have differ : first.identifier ≠ second.identifier := by
      intro same
      apply apart
      have inside := (List.getElem?_eq_some_iff.mp firstAt).1
      apply (List.getElem?_inj (by simpa using inside) distinct).mp
      simp [firstAt, secondAt, same]
    exact indexed.shared_name firstAt secondAt apart differ byFirst bySecond

/-- A format that is published under its own alias, and one that borrows its name
from a third, which advertises it too. -/
theorem advertised_unless_borrowed_json :
    let draft := RegistryDraft.empty.offerAll [BuiltIn.gml3, borrower, lender]
    let registry : Registry :=
      ⟨[⟨BuiltIn.gml3, "GML3"⟩, ⟨borrower, "json"⟩, ⟨lender, "text"⟩], draft.owners⟩
    RegistryDraft.empty.registerAll [BuiltIn.gml3, borrower, lender] = .ok draft ∧
      draft.build.outcome = .ok registry ∧ RegistryDraft.Quiet draft.build.diagnostics ∧
      ¬ registry.Borrows ⟨BuiltIn.gml3, "GML3"⟩ "GML3" ∧
      registry.Borrows ⟨borrower, "json"⟩ "json" ∧
      "json" ∈ (Encoder.mk borrower "json").elementNames ∧
      "json" ∈ (Encoder.mk lender "text").elementNames ∧
      (Encoder.mk lender "text").AdvertisesAliases ∧ lender.declares "json" = true := by
  intro draft registry
  have quiet : RegistryDraft.Quiet draft.build.diagnostics := by
    intro identifier first second
    have reports : draft.build.diagnostics =
        [.aliasNotPublishable "text/xml; subtype=gml/3.1.1"] := rfl
    rw [reports]
    simp
  obtain ⟨routed, shared⟩ := advertised_unless_borrowed [BuiltIn.gml3, borrower, lender] draft
    registry rfl rfl quiet
  have own := (routed ⟨BuiltIn.gml3, "GML3"⟩ (List.mem_cons_self ..) "GML3" (by decide)).1
  have byBorrower : "json" ∈ (Encoder.mk borrower "json").elementNames := by decide
  have byLender : "json" ∈ (Encoder.mk lender "text").elementNames := by decide
  refine ⟨rfl, rfl, quiet, own.mp (.inr rfl), ?_⟩
  rcases shared 1 2 ⟨borrower, "json"⟩ ⟨lender, "text"⟩ "json" rfl rfl (by decide) byBorrower
    byLender with ⟨borrows, advertises, declared⟩ | ⟨borrows, _⟩
  · exact ⟨borrows, byBorrower, byLender, advertises, declared⟩
  · exact absurd borrows.1 (by decide)

end FeatureService
