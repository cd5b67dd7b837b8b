import FeatureService.Proofs.Registry.Names
import FeatureService.Proofs.Text.Comparison

/-!
# What a registry lists

One listing of a registry holds the aliases that can be published, the other
the names under which its encoders are published. Both are gathered by walks
over the encoders; the index that answers look-ups is built apart from them.
Here each listing is described by its members: the first by what the index
finds, the second by the publish mode of the encoders. Neither repeats a name,
and no encoder is missing from the second.
-/

namespace FeatureService

namespace Encoder

/-- How an encoder comes to be published under a name. -/
inductive PublishedAs (encoder : Encoder) (name : String) : Prop where
  | byAlias (mode : encoder.descriptor.publishMode = .allAliases)
      (declared : name ∈ encoder.descriptor.aliases) (valid : ElementName.isValid name = true)
  | byIdentifier (same : encoder.identifier = name)
      (alone : encoder.descriptor.publishMode = .primary ∨
        ∀ label ∈ encoder.descriptor.aliases, ElementName.isValid label = false)

variable {encoder : Encoder}

theorem advertisesAliases_iff (encoder : Encoder) :
    encoder.AdvertisesAliases ↔ encoder.descriptor.publishMode = .allAliases ∧
      ∃ label ∈ encoder.descriptor.aliases, ElementName.isValid label = true := by
  unfold AdvertisesAliases
  rw [← List.isEmpty_eq_false_iff, List.isEmpty_eq_false_iff_exists_mem]
  simp only [mem_publishableAliases]

theorem not_advertisesAliases_iff (encoder : Encoder) :
    ¬ encoder.AdvertisesAliases ↔ encoder.descriptor.publishMode = .primary ∨
      ∀ label ∈ encoder.descriptor.aliases, ElementName.isValid label = false := by
  rw [advertisesAliases_iff]
  cases encoder.descriptor.publishMode with
  | primary => simp
  | allAliases => simp

theorem mem_elementNames_iff_publishedAs (encoder : Encoder) (name : String) :
    name ∈ encoder.elementNames ↔ encoder.PublishedAs name := by
  rw [mem_elementNames]
  constructor
  · rintro (⟨advertises, published⟩ | ⟨alone, rfl⟩)
    · obtain ⟨declared, valid⟩ := (mem_publishableAliases _ _).mp published
      exact .byAlias advertises.1 declared valid
    · exact .byIdentifier rfl ((not_advertisesAliases_iff encoder).mp alone)
  · rintro (⟨mode, declared, valid⟩ | ⟨rfl, alone⟩)
    · exact .inl ⟨(advertisesAliases_iff encoder).mpr ⟨mode, name, declared, valid⟩,
        (mem_publishableAliases _ _).mpr ⟨declared, valid⟩⟩
    · exact .inr ⟨(not_advertisesAliases_iff encoder).mpr alone, rfl⟩

theorem exists_publishedAs (encoder : Encoder) : ∃ name, encoder.PublishedAs name := by
  by_cases advertises : encoder.AdvertisesAliases
  · obtain ⟨mode, label, declared, valid⟩ := (advertisesAliases_iff encoder).mp advertises
    exact ⟨label, .byAlias mode declared valid⟩
  · have alone := (not_advertisesAliases_iff encoder).mp advertises
    exact ⟨encoder.identifier, .byIdentifier rfl alone⟩

end Encoder

namespace Registry

variable {registry : Registry}

theorem mem_elementNames (registry : Registry) (name : String) :
    name ∈ registry.elementNames ↔
      ∃ encoder ∈ registry.encoders, encoder.PublishedAs name := by
  rw [mem_elementNames_iff]
  simp only [Encoder.mem_elementNames_iff_publishedAs]

/-- The aliases that are listed are the element names that the index finds. -/
theorem Indexed.mem_publishableIdentifiers_iff (indexed : registry.Indexed) (name : String) :
    name ∈ registry.publishableIdentifiers ↔
      ElementName.isValid name = true ∧ ∃ encoder, registry.get? name = some encoder := by
  rw [registry.mem_publishableIdentifiers, and_comm]
  simp only [indexed.get?_eq_some_iff]

end Registry

/-- Whatever was registered, the listings of a registry ascend strictly, and they
hold what the index finds and what the publish modes call for. -/
theorem listed_names (calls : List Descriptor) (registry : Registry)
    (built : (RegistryDraft.empty.offerAll calls).build.outcome = .ok registry) :
    Text.StrictlyAscending registry.publishableIdentifiers ∧
    Text.StrictlyAscending registry.elementNames ∧
    (∀ name, name ∈ registry.publishableIdentifiers ↔
      ElementName.isValid name = true ∧ ∃ encoder, registry.get? name = some encoder) ∧
    (∀ name, name ∈ registry.elementNames ↔
      ∃ encoder ∈ registry.encoders, encoder.PublishedAs name) ∧
    (∀ name ∈ registry.elementNames, name ∈ registry.publishableIdentifiers ∨
      ∃ encoder ∈ registry.encoders, encoder.identifier = name) ∧
    ∀ encoder ∈ registry.encoders, ∃ name ∈ registry.elementNames, encoder.PublishedAs name := by
  have indexed := Registry.indexed_of_built (RegistryDraft.indexed_offerAll_empty calls) built
  refine ⟨Text.strictlyAscending_sortedSet _, Text.strictlyAscending_sortedSet _,
    indexed.mem_publishableIdentifiers_iff, registry.mem_elementNames, ?_, ?_⟩
  · intro name advertised
    obtain ⟨encoder, mem, published⟩ := (registry.mem_elementNames name).mp advertised
    cases published with
    | byAlias _ declared valid =>
        have listed := (registry.mem_publishableIdentifiers name).mpr
          ⟨⟨encoder, mem, declared⟩, valid⟩
        exact .inl listed
    | byIdentifier same _ => exact .inr ⟨encoder, mem, same⟩
  · intro encoder mem
    obtain ⟨name, published⟩ := encoder.exists_publishedAs
    exact ⟨name, (registry.mem_elementNames name).mpr ⟨encoder, mem, published⟩, published⟩

def atlas : Descriptor where
  aliases := ["text/atlas", "a:b"]
  predicate := .acceptAll
  identifierOverride := some "Ätlas"
  typeName := none
  mimeType := "text/atlas"
  publishMode := .allAliases

def archive : Descriptor where
  aliases := ["zip", "application/zip", "Äpfel"]
  predicate := .acceptAll
  identifierOverride := none
  typeName := none
  mimeType := "application/zip"
  publishMode := .allAliases

/-- The format without a publishable alias is listed by its identifier, behind
all ASCII names. Its aliases are found though they are not listed. -/
theorem listed_names_atlas :
    let draft := RegistryDraft.empty.offerAll [atlas, archive, BuiltIn.shapeZip, BuiltIn.csv]
    let registry : Registry :=
      ⟨[⟨atlas, "Ätlas"⟩, ⟨archive, "zip"⟩, ⟨BuiltIn.csv, "csv"⟩], draft.owners⟩
    draft.build.outcome = .ok registry ∧
      registry.elementNames = ["csv", "zip", "Äpfel", "Ätlas"] ∧
      Text.StrictlyAscending registry.elementNames ∧
      (Encoder.mk atlas "Ätlas").PublishedAs "Ätlas" ∧
      (∃ name ∈ registry.elementNames, (Encoder.mk atlas "Ätlas").PublishedAs name) ∧
      "a:b" ∉ registry.publishableIdentifiers ∧
      (∃ encoder, registry.get? "a:b" = some encoder) := by
  intro draft registry
  have built : draft.build.outcome = .ok registry := rfl
  obtain ⟨_, ascending, listed, _, _, present⟩ :=
    listed_names [atlas, archive, BuiltIn.shapeZip, BuiltIn.csv] registry built
  have alone : ∀ label ∈ atlas.aliases, ElementName.isValid label = false := by decide
  refine ⟨built, rfl, ascending, .byIdentifier rfl (.inr alone),
    present _ (List.mem_cons_self ..), fun mem => ?_, _, rfl⟩
  exact absurd ((listed "a:b").mp mem).1 (by decide)

end FeatureService
