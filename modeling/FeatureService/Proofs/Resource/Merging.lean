import FeatureService.Proofs.Resource.Numbering
import Mathlib.Data.List.Sort

/-!
# A listing loses nothing

The layers and the tables of a listing are taken apart but keep the numbers of their
places. Merged by these numbers they are the resources again, in whatever order the
kinds stood.
-/

namespace FeatureService

/-- An entry of a listing with the kind under which it is listed. -/
structure Listed where
  kind : ResourceKind
  entry : ListingEntry

namespace Listed

def resource (listed : Listed) : Resource :=
  ⟨listed.entry.name, listed.kind, listed.entry.title⟩

/-- How a numbered resource is listed. -/
def ofNumbered (numbered : Resource × Nat) : Listed :=
  ⟨numbered.1.kind, ⟨numbered.2, numbered.1.name, numbered.1.title⟩⟩

/-- Whether an entry has no greater number than another. -/
def upTo (first second : Listed) : Bool :=
  first.entry.id ≤ second.entry.id

end Listed

namespace Listing

def listedOf (kind : ResourceKind) (numbered : List (Resource × Nat)) : List Listed :=
  (entriesOf kind numbered).map (Listed.mk kind)

/-- The layers and the tables, merged by their numbers. -/
def merged (listing : Listing) : List Listed :=
  (listing.layers.map (Listed.mk .layer)).merge (listing.tables.map (Listed.mk .table)) Listed.upTo

/-! ## Numbered resources, one by one -/

theorem le_id_of_mem {kind : ResourceKind} {resources : List Resource} {start : Nat}
    {entry : ListingEntry} (mem : entry ∈ entriesOf kind (resources.zipIdx start)) :
    start ≤ entry.id := by
  obtain ⟨⟨resource, id⟩, numbered, kept⟩ := List.mem_filterMap.mp mem
  dsimp only at kept
  split at kept
  · obtain rfl := Option.some.inj kept
    exact List.le_snd_of_mem_zipIdx numbered
  · cases kept

theorem pairwise_entriesOf (kind : ResourceKind) (resources : List Resource) (start : Nat) :
    (entriesOf kind (resources.zipIdx start)).Pairwise
      fun first second => first.id < second.id := by
  induction resources generalizing start with
  | nil => exact List.Pairwise.nil
  | cons first rest ih =>
      rw [List.zipIdx_cons]
      by_cases same : first.kind = kind
      · rw [entriesOf_cons_of_kind start _ same]
        exact List.pairwise_cons.mpr ⟨fun entry mem => le_id_of_mem mem, ih (start + 1)⟩
      · rw [entriesOf_cons_of_other start _ same]
        exact ih (start + 1)

/-! ## Merging -/

theorem merge_cons_left {first : Listed} {others : List Listed}
    (least : ∀ other ∈ others, first.upTo other = true) (rest : List Listed) :
    (first :: rest).merge others Listed.upTo = first :: rest.merge others Listed.upTo := by
  cases others with
  | nil => simp
  | cons other later =>
      exact List.cons_merge_cons_pos _ _ _ (least other (List.mem_cons_self ..))

theorem merge_cons_right {first : Listed} {others : List Listed}
    (least : ∀ other ∈ others, other.upTo first = false) (rest : List Listed) :
    others.merge (first :: rest) Listed.upTo = first :: others.merge rest Listed.upTo := by
  cases others with
  | nil => simp
  | cons other later =>
      refine List.cons_merge_cons_neg _ _ _ ?_
      rw [least other (List.mem_cons_self ..)]
      exact Bool.false_ne_true

theorem listedOf_cons_of_kind {kind : ResourceKind} {first : Resource} (start : Nat)
    (rest : List (Resource × Nat)) (same : first.kind = kind) :
    listedOf kind ((first, start) :: rest) =
      Listed.ofNumbered (first, start) :: listedOf kind rest := by
  rw [listedOf, entriesOf_cons_of_kind start rest same, ← same]
  rfl

theorem listedOf_cons_of_other {kind : ResourceKind} {first : Resource} (start : Nat)
    (rest : List (Resource × Nat)) (other : first.kind ≠ kind) :
    listedOf kind ((first, start) :: rest) = listedOf kind rest := by
  rw [listedOf, entriesOf_cons_of_other start rest other]
  rfl

theorem lt_id_of_mem_listedOf {kind : ResourceKind} {resources : List Resource} {start : Nat}
    {listed : Listed} (mem : listed ∈ listedOf kind (resources.zipIdx (start + 1))) :
    start < listed.entry.id := by
  obtain ⟨entry, inside, rfl⟩ := List.mem_map.mp mem
  exact le_id_of_mem inside

/-- Whatever the order of the kinds is, layers and tables merge into the resources,
since the first resource has the least number of all. -/
theorem merge_listedOf (resources : List Resource) (start : Nat) :
    (listedOf .layer (resources.zipIdx start)).merge (listedOf .table (resources.zipIdx start))
      Listed.upTo = (resources.zipIdx start).map Listed.ofNumbered := by
  induction resources generalizing start with
  | nil => simp [listedOf, entriesOf]
  | cons first rest ih =>
      rw [List.zipIdx_cons, List.map_cons, ← ih (start + 1)]
      cases kind : first.kind with
      | layer =>
          have noTable : first.kind ≠ .table := by
            rw [kind]
            decide
          rw [listedOf_cons_of_kind start _ kind, listedOf_cons_of_other start _ noTable]
          refine merge_cons_left (fun other mem => ?_) _
          exact decide_eq_true (Nat.le_of_lt (lt_id_of_mem_listedOf mem))
      | table =>
          have noLayer : first.kind ≠ .layer := by
            rw [kind]
            decide
          rw [listedOf_cons_of_kind start _ kind, listedOf_cons_of_other start _ noLayer]
          refine merge_cons_right (fun other mem => ?_) _
          exact decide_eq_false (Nat.not_le_of_lt (lt_id_of_mem_listedOf mem))

theorem merged_ofResources (resources : List Resource) :
    (ofResources resources).merged = resources.zipIdx.map Listed.ofNumbered :=
  merge_listedOf resources 0

theorem resources_merged (resources : List Resource) :
    (ofResources resources).merged.map Listed.resource = resources := by
  rw [merged_ofResources, List.map_map]
  exact List.zipIdx_map_fst 0 resources

/-- Merging keeps the numbers, whatever the listing is. -/
theorem perm_ids_merged (listing : Listing) :
    (listing.merged.map fun listed => listed.entry.id).Perm
      (listing.entries.map ListingEntry.id) := by
  have together : listing.merged.Perm
      (listing.layers.map (Listed.mk .layer) ++ listing.tables.map (Listed.mk .table)) :=
    List.merge_perm_append Listed.upTo
  have ids := together.map fun listed => listed.entry.id
  rw [List.map_append, List.map_map, List.map_map] at ids
  rw [entries, List.map_append]
  exact ids

/-- The numbers of all entries are the places of the resources. -/
theorem perm_ids (resources : List Resource) :
    ((ofResources resources).entries.map ListingEntry.id).Perm (List.range resources.length) := by
  have ids : (ofResources resources).merged.map (fun listed => listed.entry.id) =
      List.range resources.length := by
    rw [merged_ofResources, List.map_map, List.range_eq_range']
    exact List.zipIdx_map_snd 0 resources
  rw [← ids]
  exact (perm_ids_merged _).symm

theorem size_ofResources (resources : List Resource) :
    (ofResources resources).size = resources.length := by
  have counted := (perm_ids resources).length_eq
  rwa [List.length_map, List.length_range, entries, List.length_append] at counted

/-! ## The order of the kinds -/

/-- The layers have the lesser numbers exactly if no table stands before a layer. -/
theorem layers_before_tables_iff (resources : List Resource) :
    (∀ layer ∈ (ofResources resources).layers, ∀ table ∈ (ofResources resources).tables,
      layer.id < table.id) ↔ LayersFirst resources := by
  constructor
  · intro before
    refine List.pairwise_iff_getElem.mpr fun low high inLow inHigh less isLayer => ?_
    cases kind : resources[low].kind with
    | layer => rfl
    | table =>
        have layer := (mem_entriesOf .layer resources ⟨high, _, _⟩).mpr
          ⟨resources[high], ⟨List.getElem?_eq_getElem inHigh, rfl, rfl⟩, isLayer⟩
        have table := (mem_entriesOf .table resources ⟨low, _, _⟩).mpr
          ⟨resources[low], ⟨List.getElem?_eq_getElem inLow, rfl, rfl⟩, kind⟩
        exact absurd less (Nat.lt_asymm (before _ layer _ table))
  · intro ordered layer isLayer table isTable
    obtain ⟨first, ⟨atLayer, -⟩, firstKind⟩ := (mem_entriesOf _ _ _).mp isLayer
    obtain ⟨second, ⟨atTable, -⟩, secondKind⟩ := (mem_entriesOf _ _ _).mp isTable
    obtain ⟨inLayer, rfl⟩ := List.getElem?_eq_some_iff.mp atLayer
    obtain ⟨inTable, rfl⟩ := List.getElem?_eq_some_iff.mp atTable
    rcases Nat.lt_trichotomy layer.id table.id with less | same | greater
    · exact less
    · simp only [same, secondKind] at firstKind
      cases firstKind
    · have tableIsLayer :=
        List.pairwise_iff_getElem.mp ordered _ _ inTable inLayer greater firstKind
      rw [secondKind] at tableIsLayer
      cases tableIsLayer

/-- A listing loses nothing. The numbers rise among the layers and among the tables,
and together they are the places of the resources, each once. Merged by their
numbers, the entries are the resources with their kinds, names and titles. The
layers have the lesser numbers exactly if no table stands before a layer. -/
theorem ofResources_lossless (resources : List Resource) :
    let listing := ofResources resources
    (listing.layers.Pairwise fun first second => first.id < second.id) ∧
      (listing.tables.Pairwise fun first second => first.id < second.id) ∧
      (listing.entries.map ListingEntry.id).Perm (List.range resources.length) ∧
      listing.size = resources.length ∧
      listing.merged.map Listed.resource = resources ∧
      ((∀ layer ∈ listing.layers, ∀ table ∈ listing.tables, layer.id < table.id) ↔
        LayersFirst resources) :=
  ⟨pairwise_entriesOf .layer resources 0, pairwise_entriesOf .table resources 0,
    perm_ids resources, size_ofResources resources, resources_merged resources,
    layers_before_tables_iff resources⟩

end Listing

end FeatureService
