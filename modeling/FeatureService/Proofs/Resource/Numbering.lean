import FeatureService.Catalog.Workspaces
import FeatureService.Resource.Listing

/-!
# The numbers in a listing

A listing numbers resources by their places. Where the layers stand before the
tables, the layers have the first numbers and the tables continue them.
-/

namespace FeatureService

/-- No table stands before a layer. -/
def LayersFirst (resources : List Resource) : Prop :=
  resources.Pairwise fun first second => second.kind = .layer → first.kind = .layer

namespace LayersFirst

theorem append {layers tables : List Resource}
    (areLayers : ∀ resource ∈ layers, resource.kind = .layer)
    (areTables : ∀ resource ∈ tables, resource.kind = .table) : LayersFirst (layers ++ tables) := by
  refine List.pairwise_append.mpr ⟨?_, ?_, ?_⟩
  · exact List.pairwise_of_forall_mem_list fun first mem _ _ _ => areLayers first mem
  · apply List.pairwise_of_forall_mem_list
    intro _ _ second mem isLayer
    rw [areTables second mem] at isLayer
    cases isLayer
  · intro first mem _ _ _
    exact areLayers first mem

/-- Resources with the layers first are layers followed by tables. -/
theorem split {resources : List Resource} (ordered : LayersFirst resources) :
    ∃ layers tables, resources = layers ++ tables ∧
      (∀ resource ∈ layers, resource.kind = .layer) ∧
      ∀ resource ∈ tables, resource.kind = .table := by
  induction resources with
  | nil => exact ⟨[], [], rfl, by simp, by simp⟩
  | cons first rest ih =>
      obtain ⟨before, ordered⟩ := List.pairwise_cons.mp ordered
      cases kind : first.kind with
      | layer =>
          obtain ⟨layers, tables, same, areLayers, areTables⟩ := ih ordered
          refine ⟨first :: layers, tables, by rw [same, List.cons_append], ?_, areTables⟩
          exact List.forall_mem_cons.mpr ⟨kind, areLayers⟩
      | table =>
          refine ⟨[], first :: rest, rfl, by simp, List.forall_mem_cons.mpr ⟨kind, ?_⟩⟩
          intro resource mem
          cases other : resource.kind with
          | table => rfl
          | layer =>
              have isLayer := before resource mem other
              rw [kind] at isLayer
              cases isLayer

end LayersFirst

theorem Workspaces.layersFirst_ordered (resources : List Resource) :
    LayersFirst (Workspaces.layersFirst resources) := by
  apply LayersFirst.append
  · intro resource mem
    simpa using (List.mem_filter.mp mem).2
  · intro resource mem
    have noLayer : resource.kind ≠ .layer := by simpa using (List.mem_filter.mp mem).2
    cases kind : resource.kind with
    | layer => exact absurd kind noLayer
    | table => rfl

/-- The entry shows a resource of the list with its place. -/
def ListingEntry.Shows (entry : ListingEntry) (resources : List Resource)
    (resource : Resource) : Prop :=
  resources[entry.id]? = some resource ∧ entry.name = resource.name ∧
    entry.title = resource.title

namespace Listing

def entries (listing : Listing) : List ListingEntry :=
  listing.layers ++ listing.tables

theorem mem_entriesOf (kind : ResourceKind) (resources : List Resource) (entry : ListingEntry) :
    entry ∈ entriesOf kind resources.zipIdx ↔
      ∃ resource, entry.Shows resources resource ∧ resource.kind = kind := by
  unfold entriesOf
  rw [List.mem_filterMap]
  constructor
  · rintro ⟨⟨resource, id⟩, mem, kept⟩
    have there := List.mk_mem_zipIdx_iff_getElem?.mp mem
    dsimp only at kept
    split at kept
    · rename_i same
      obtain rfl := Option.some.inj kept
      exact ⟨resource, ⟨there, rfl, rfl⟩, same⟩
    · cases kept
  · rintro ⟨resource, ⟨there, name, title⟩, same⟩
    refine ⟨(resource, entry.id), List.mk_mem_zipIdx_iff_getElem?.mpr there, ?_⟩
    change (if resource.kind = kind then some _ else none) = some entry
    rw [if_pos same, ← name, ← title]

/-- The entries of a listing are the resources with their places. -/
theorem mem_entries (resources : List Resource) (entry : ListingEntry) :
    entry ∈ (ofResources resources).entries ↔ ∃ resource, entry.Shows resources resource := by
  unfold entries ofResources
  rw [List.mem_append, mem_entriesOf, mem_entriesOf]
  constructor
  · rintro (⟨resource, shows, _⟩ | ⟨resource, shows, _⟩)
    · exact ⟨resource, shows⟩
    · exact ⟨resource, shows⟩
  · rintro ⟨resource, shows⟩
    cases kind : resource.kind with
    | layer => exact .inl ⟨resource, shows, kind⟩
    | table => exact .inr ⟨resource, shows, kind⟩

theorem entriesOf_cons_of_kind {kind : ResourceKind} {first : Resource} (start : Nat)
    (rest : List (Resource × Nat)) (same : first.kind = kind) :
    entriesOf kind ((first, start) :: rest) =
      ⟨start, first.name, first.title⟩ :: entriesOf kind rest :=
  List.filterMap_cons_some (if_pos same)

theorem entriesOf_cons_of_other {kind : ResourceKind} {first : Resource} (start : Nat)
    (rest : List (Resource × Nat)) (other : first.kind ≠ kind) :
    entriesOf kind ((first, start) :: rest) = entriesOf kind rest :=
  List.filterMap_cons_none (if_neg other)

theorem ids_entriesOf_of_kind {kind : ResourceKind} {resources : List Resource} (start : Nat)
    (same : ∀ resource ∈ resources, resource.kind = kind) :
    (entriesOf kind (resources.zipIdx start)).map ListingEntry.id =
      List.range' start resources.length := by
  induction resources generalizing start with
  | nil => rfl
  | cons first rest ih =>
      obtain ⟨isKind, others⟩ := List.forall_mem_cons.mp same
      have inner := ih (start + 1) others
      rw [List.zipIdx_cons, entriesOf_cons_of_kind start _ isKind, List.map_cons, inner,
        List.length_cons, List.range'_succ]

theorem entriesOf_of_other {kind : ResourceKind} {resources : List Resource} (start : Nat)
    (other : ∀ resource ∈ resources, resource.kind ≠ kind) :
    entriesOf kind (resources.zipIdx start) = [] := by
  rw [entriesOf, List.filterMap_eq_nil_iff]
  rintro ⟨resource, id⟩ mem
  exact if_neg (other resource (List.fst_mem_of_mem_zipIdx mem))

theorem entriesOf_append (kind : ResourceKind) (first second : List (Resource × Nat)) :
    entriesOf kind (first ++ second) = entriesOf kind first ++ entriesOf kind second :=
  List.filterMap_append

/-- The layers have the first numbers and the tables those that follow. -/
theorem ids_of_layersFirst {resources : List Resource} (ordered : LayersFirst resources) :
    let listing := ofResources resources
    listing.layers.map ListingEntry.id = List.range listing.layers.length ∧
      listing.tables.map ListingEntry.id =
        List.range' listing.layers.length listing.tables.length := by
  obtain ⟨layers, tables, rfl, areLayers, areTables⟩ := ordered.split
  have noTables : ∀ resource ∈ layers, resource.kind ≠ .table := by
    intro resource mem
    rw [areLayers resource mem]
    decide
  have noLayers : ∀ resource ∈ tables, resource.kind ≠ .layer := by
    intro resource mem
    rw [areTables resource mem]
    decide
  have layerIds : (ofResources (layers ++ tables)).layers.map ListingEntry.id =
      List.range layers.length := by
    change (entriesOf .layer (layers ++ tables).zipIdx).map ListingEntry.id = _
    rw [List.zipIdx_append, entriesOf_append, entriesOf_of_other _ noLayers, List.append_nil,
      ids_entriesOf_of_kind 0 areLayers, List.range_eq_range']
  have tableIds : (ofResources (layers ++ tables)).tables.map ListingEntry.id =
      List.range' layers.length tables.length := by
    change (entriesOf .table (layers ++ tables).zipIdx).map ListingEntry.id = _
    rw [List.zipIdx_append, entriesOf_append, entriesOf_of_other _ noTables, List.nil_append,
      ids_entriesOf_of_kind _ areTables, Nat.zero_add]
  have layerCount := congrArg List.length layerIds
  have tableCount := congrArg List.length tableIds
  rw [List.length_map, List.length_range] at layerCount
  rw [List.length_map, List.length_range'] at tableCount
  intro listing
  rw [layerCount, tableCount]
  exact ⟨layerIds, tableIds⟩

end Listing

end FeatureService
