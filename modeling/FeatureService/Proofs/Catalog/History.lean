import FeatureService.Proofs.Catalog.Contract
import FeatureService.Proofs.Keyed.Entries

/-!
# Histories of workspaces

Workspaces are set one after another, some for the first time and some again.
Each set leaves a sound state behind: the names stay apart, and the layers of a
workspace stay before its tables. What a workspace holds in the end is what it
was given last.
-/

namespace FeatureService

/-! ## Arrangement -/

/-- The resources of one kind in their order. -/
def resourcesOf (kind : ResourceKind) (resources : List Resource) : List Resource :=
  resources.filter fun resource => resource.kind = kind

/-- The same resources with the layers first, where those of one kind keep
their order. -/
structure Arranges (given arranged : List Resource) : Prop where
  same : arranged.Perm given
  order : ∀ kind, resourcesOf kind arranged = resourcesOf kind given
  layersFirst : LayersFirst arranged

theorem resourcesOf_append (kind : ResourceKind) (first second : List Resource) :
    resourcesOf kind (first ++ second) = resourcesOf kind first ++ resourcesOf kind second :=
  List.filter_append ..

theorem resourcesOf_of_kind {kind : ResourceKind} {resources : List Resource}
    (same : ∀ resource ∈ resources, resource.kind = kind) :
    resourcesOf kind resources = resources :=
  List.filter_eq_self.mpr fun resource mem => decide_eq_true (same resource mem)

theorem resourcesOf_resourcesOf (kind other : ResourceKind) (resources : List Resource) :
    resourcesOf kind (resourcesOf other resources) =
      if kind = other then resourcesOf kind resources else [] := by
  split
  · rename_i same
    subst same
    exact resourcesOf_of_kind fun resource mem => by simpa using (List.mem_filter.mp mem).2
  · rename_i apart
    refine List.filter_eq_nil_iff.mpr fun resource mem isKind => apart ?_
    have isOther : resource.kind = other := by simpa using (List.mem_filter.mp mem).2
    exact (of_decide_eq_true isKind).symm.trans isOther

/-- Resources with the layers first are their layers and then their tables. -/
theorem LayersFirst.eq_append {resources : List Resource} (ordered : LayersFirst resources) :
    resources = resourcesOf .layer resources ++ resourcesOf .table resources := by
  obtain ⟨layers, tables, rfl, areLayers, areTables⟩ := ordered.split
  have onlyLayers := resourcesOf_of_kind areLayers
  have onlyTables := resourcesOf_of_kind areTables
  rw [← onlyLayers, ← onlyTables]
  simp [resourcesOf_append, resourcesOf_resourcesOf]

namespace Workspaces

theorem layersFirst_eq (given : List Resource) :
    layersFirst given = resourcesOf .layer given ++ resourcesOf .table given := by
  have others : (given.filter fun resource => resource.kind ≠ .layer) = resourcesOf .table given := by
    apply List.filter_congr
    intro resource _
    cases resource.kind <;> rfl
  rw [layersFirst, others]
  rfl

theorem arranges_layersFirst (given : List Resource) : Arranges given (layersFirst given) where
  same := by
    have others : (given.filter fun resource => resource.kind ≠ .layer) =
        given.filter fun resource => !decide (resource.kind = .layer) := by
      simp only [ne_eq, decide_not]
    rw [layersFirst, others]
    exact List.filter_append_perm _ given
  order kind := by
    rw [layersFirst_eq, resourcesOf_append, resourcesOf_resourcesOf, resourcesOf_resourcesOf]
    cases kind with
    | layer => exact List.append_nil _
    | table => rfl
  layersFirst := layersFirst_ordered given

/-- There is only one arrangement. -/
theorem arranges_iff (given arranged : List Resource) :
    Arranges given arranged ↔ arranged = layersFirst given := by
  constructor
  · intro arranges
    rw [arranges.layersFirst.eq_append, arranges.order, arranges.order, layersFirst_eq]
  · rintro rfl
    exact arranges_layersFirst given

end Workspaces

/-! ## Histories -/

namespace Workspaces

variable {workspaces : Workspaces}

def setAll (calls : List (String × List Resource)) (workspaces : Workspaces) : Workspaces :=
  calls.foldl (fun held call => held.set call.1 call.2) workspaces

theorem setAll_append (first second : List (String × List Resource)) (workspaces : Workspaces) :
    workspaces.setAll (first ++ second) = (workspaces.setAll first).setAll second :=
  List.foldl_append

/-- The sets by which a document is loaded. -/
def loading (document : CatalogDocument) : List (String × List Resource) :=
  document.workspaces.map fun member => (member.1, member.2.resources)

theorem ofDocument_eq_setAll (document : CatalogDocument) :
    ofDocument document = empty.setAll (loading document) := by
  rw [setAll, loading, List.foldl_map]
  rfl

/-- What holds of the workspaces at any time. -/
structure Sound (workspaces : Workspaces) : Prop where
  names : workspaces.names.Nodup
  ordered : workspaces.Ordered

theorem sound_empty : empty.Sound :=
  ⟨List.nodup_nil, ordered_empty⟩

theorem Sound.set (sound : workspaces.Sound) (workspace : String) (given : List Resource) :
    (workspaces.set workspace given).Sound :=
  ⟨Keyed.nodup_keys_put sound.names workspace _, sound.ordered.set workspace given⟩

theorem Sound.setAll (sound : workspaces.Sound) (calls : List (String × List Resource)) :
    (workspaces.setAll calls).Sound := by
  induction calls generalizing workspaces with
  | nil => exact sound
  | cons call rest ih => exact ih (sound.set call.1 call.2)

theorem names_set (workspaces : Workspaces) (workspace : String) (given : List Resource) :
    (workspaces.set workspace given).names =
      if workspace ∈ workspaces.names then workspaces.names else workspaces.names ++ [workspace] :=
  Keyed.keys_put ..

theorem set_comm {first second : String} (known : first ∈ workspaces.names)
    (apart : first ≠ second) (given further : List Resource) :
    (workspaces.set first given).set second further =
      (workspaces.set second further).set first given :=
  congrArg Workspaces.mk (Keyed.put_comm known apart _ _)

/-- Sets of other workspaces leave a workspace as it is. -/
theorem resources_setAll_of_not_mem {calls : List (String × List Resource)} {workspace : String}
    (others : workspace ∉ calls.map Prod.fst) (workspaces : Workspaces) :
    (workspaces.setAll calls).resources workspace = workspaces.resources workspace := by
  induction calls generalizing workspaces with
  | nil => rfl
  | cons call rest ih =>
      obtain ⟨apart, further⟩ := not_or.mp (mt List.mem_cons.mpr others)
      exact (ih further (workspaces.set call.1 call.2)).trans
        (resources_set_of_ne workspaces call.2 apart)

/-- A workspace holds what it was given last. -/
theorem resources_setAll_of_last {after : List (String × List Resource)} {workspace : String}
    (last : workspace ∉ after.map Prod.fst) (before : List (String × List Resource))
    (given : List Resource) (workspaces : Workspaces) :
    (workspaces.setAll (before ++ (workspace, given) :: after)).resources workspace =
      .ok (layersFirst given) := by
  rw [setAll_append]
  exact (resources_setAll_of_not_mem last _).trans (resources_set_self _ workspace given)

/-- Where a history begins. -/
inductive Origin : Workspaces → Prop where
  | empty : Origin empty
  | loaded (document : CatalogDocument) : Origin (ofDocument document)

theorem Origin.sound (origin : workspaces.Origin) : workspaces.Sound := by
  cases origin with
  | empty => exact sound_empty
  | loaded document =>
      rw [ofDocument_eq_setAll]
      exact sound_empty.setAll _

/-- Whatever is set in whatever order, names stay apart and layers first. A set
gives one workspace the only arrangement of the given resources, in its place or
at the end, and leaves all others as they are. So the last set of a workspace
counts alone, and known workspaces can be set in either order. -/
theorem arranged_in_every_history (start : Workspaces) (origin : start.Origin)
    (calls : List (String × List Resource)) :
    let state := start.setAll calls
    state.names.Nodup ∧
    (∀ workspace held, state.resources workspace = .ok held → LayersFirst held) ∧
    (∀ workspace given,
      (∃ arranged, (state.set workspace given).resources workspace = .ok arranged ∧
        ∀ other, Arranges given other ↔ other = arranged) ∧
      (workspace ∈ state.names → (state.set workspace given).names = state.names) ∧
      (workspace ∉ state.names →
        (state.set workspace given).names = state.names ++ [workspace]) ∧
      ∀ other, other ≠ workspace →
        (state.set workspace given).resources other = state.resources other) ∧
    (∀ before workspace given after, calls = before ++ (workspace, given) :: after →
      workspace ∉ after.map Prod.fst → state.resources workspace = .ok (layersFirst given)) ∧
    (∀ workspace, workspace ∉ calls.map Prod.fst →
      state.resources workspace = start.resources workspace) ∧
    ∀ first second, first ∈ state.names → second ∈ state.names → first ≠ second →
      ∀ given further, (state.set first given).set second further =
        (state.set second further).set first given := by
  intro state
  have sound : state.Sound := origin.sound.setAll calls
  refine ⟨sound.names, sound.ordered, ?_, ?_, ?_, ?_⟩
  · intro workspace given
    refine ⟨⟨_, resources_set_self state workspace given, arranges_iff given⟩, ?_, ?_, ?_⟩
    · intro known
      rw [names_set, if_pos known]
    · intro fresh
      rw [names_set, if_neg fresh]
    · intro other apart
      exact resources_set_of_ne state given apart
  · rintro before workspace given after rfl last
    exact resources_setAll_of_last last before given start
  · intro workspace others
    exact resources_setAll_of_not_mem others start
  · intro first second known _ apart given further
    exact set_comm known apart given further

/-- A city and a port, each with resources of its own. -/
def coast : CatalogDocument :=
  ⟨[("city", ⟨[⟨"walls", none⟩], [⟨"owners", none⟩]⟩), ("port", ⟨[⟨"piers", none⟩], []⟩)]⟩

/-- An island is added and set again, and the city in between, with its tables
among its layers. -/
def survey : List (String × List Resource) :=
  [("island", [⟨"wells", .table, none⟩]),
   ("city", [⟨"taxes", .table, none⟩, ⟨"roads", .layer, none⟩, ⟨"owners", .table, none⟩,
     ⟨"rivers", .layer, some "Rivers"⟩]),
   ("island", [⟨"paths", .layer, none⟩])]

/-- The city keeps the first place, the port keeps its resources and the island
has those of its last set. -/
theorem arranged_in_every_history_survey :
    let start := ofDocument coast
    start.Origin ∧
      let state := start.setAll survey
      state.names = ["city", "port", "island"] ∧ state.names.Nodup ∧
      state.resources "city" = .ok [⟨"roads", .layer, none⟩, ⟨"rivers", .layer, some "Rivers"⟩,
        ⟨"taxes", .table, none⟩, ⟨"owners", .table, none⟩] ∧
      state.resources "port" = .ok [⟨"piers", .layer, none⟩] ∧
      state.resources "island" = .ok [⟨"paths", .layer, none⟩] ∧
      ∀ given further, (state.set "city" given).set "island" further =
        (state.set "island" further).set "city" given := by
  intro start
  have origin : start.Origin := .loaded coast
  obtain ⟨apart, _, _, last, untouched, commute⟩ :=
    arranged_in_every_history start origin survey
  refine ⟨origin, rfl, apart, ?_, ?_, ?_, ?_⟩
  · exact last [_] "city" _ [_] rfl (by decide)
  · exact untouched "port" (by decide)
  · exact last [_, _] "island" _ [] rfl (by decide)
  · exact commute "city" "island" (by decide) (by decide) (by decide)

end Workspaces

end FeatureService
