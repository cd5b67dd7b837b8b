import FeatureService.Catalog.Document
import FeatureService.Proofs.Resource.Numbering

/-!
# What a catalog promises

Whatever the effects of asking it, a catalog gives the same resources whenever
it is asked, layers first, and the resource at a place is the one that stands
there. Workspaces in memory keep this promise however they came about.
-/

namespace FeatureService

/-! ## Answers -/

/-- Whatever else the computation does, this is its answer. Without effects, it
is the answer itself. -/
def Answers {m : Type → Type} [Monad m] {α : Type} (computation : m α) (answer : α) : Prop :=
  computation = (fun _ => answer) <$> computation

namespace Answers

variable {m : Type → Type} [Monad m] [LawfulMonad m] {α β : Type}

theorem pure (answer : α) : Answers (Pure.pure answer : m α) answer :=
  (map_pure (fun _ => answer) answer).symm

theorem bind {first : m α} {middle : α} {next : α → m β} {last : β}
    (asked : Answers first middle) (continued : Answers (next middle) last) :
    Answers (first >>= next) last := by
  have known : first >>= next = first >>= fun _ => next middle := by
    calc first >>= next
        = ((fun _ => middle) <$> first) >>= next := congrArg (· >>= next) asked
      _ = first >>= fun _ => next middle := bind_map_left _ _ _
  calc first >>= next
      = first >>= fun _ => next middle := known
    _ = first >>= fun _ => (fun _ => last) <$> next middle :=
        congrArg (fun after => first >>= fun _ => after) continued
    _ = (fun _ => last) <$> (first >>= fun _ => next middle) := (map_bind _ _ _).symm
    _ = (fun _ => last) <$> (first >>= next) := by rw [known]

end Answers

/-! ## The promise -/

/-- The catalog holds these resources in a workspace. Places are asked for as
numbers of 64 bits. -/
structure Catalog.Holds {m : Type → Type} [Monad m] (catalog : Catalog m) (workspace : String)
    (resources : List Resource) : Prop where
  entries : Answers (catalog.entries workspace) (.ok resources)
  entryAt : ∀ place < Nat.pow 2 64,
    Answers (catalog.entryAt workspace place) (.ok resources[place]?)
  ordered : LayersFirst resources

namespace Workspaces

/-- The workspaces that come about by setting one after another, from nothing
or from what a document holds. -/
inductive Reachable : Workspaces → Prop where
  | empty : Reachable empty
  | set {workspaces : Workspaces} (workspace : String) (resources : List Resource)
      (before : Reachable workspaces) : Reachable (workspaces.set workspace resources)
  | parse {workspaces : Workspaces} (text : String) (read : parse text = some workspaces) :
      Reachable workspaces

/-- Every workspace has its layers first. -/
def Ordered (workspaces : Workspaces) : Prop :=
  ∀ workspace resources, workspaces.resources workspace = .ok resources → LayersFirst resources

theorem resources_set_self (workspaces : Workspaces) (workspace : String)
    (resources : List Resource) :
    (workspaces.set workspace resources).resources workspace = .ok (layersFirst resources) := by
  simp only [Workspaces.resources, set, Keyed.lookup_put_self]

theorem resources_set_of_ne (workspaces : Workspaces) {workspace other : String}
    (resources : List Resource) (ne : other ≠ workspace) :
    (workspaces.set workspace resources).resources other = workspaces.resources other := by
  simp only [Workspaces.resources, set, Keyed.lookup_put_of_ne _ _ ne]

theorem ordered_empty : Ordered empty := by
  intro workspace resources held
  cases held

theorem Ordered.set {workspaces : Workspaces} (ordered : Ordered workspaces) (workspace : String)
    (resources : List Resource) : Ordered (workspaces.set workspace resources) := by
  intro other found held
  by_cases same : other = workspace
  · subst same
    rw [resources_set_self] at held
    obtain rfl := Except.ok.inj held
    exact layersFirst_ordered resources
  · rw [resources_set_of_ne _ _ same] at held
    exact ordered other found held

theorem ordered_ofDocument (document : CatalogDocument) : Ordered (ofDocument document) := by
  have start := ordered_empty
  unfold ofDocument
  -- Whatever is ordered before the members are set stays so.
  generalize empty = before at start ⊢
  generalize document.workspaces = members
  induction members generalizing before with
  | nil => exact start
  | cons member rest ih => exact ih _ (start.set member.1 member.2.resources)

theorem Reachable.ordered {workspaces : Workspaces} (reachable : Reachable workspaces) :
    Ordered workspaces := by
  induction reachable with
  | empty => exact ordered_empty
  | set workspace resources _ ih => exact ih.set workspace resources
  | parse text read =>
      obtain ⟨document, _, rfl⟩ := Option.map_eq_some_iff.mp read
      exact ordered_ofDocument document

/-- Ordered workspaces keep the promise of a catalog. -/
theorem Ordered.holds {m : Type → Type} [Monad m] [LawfulMonad m] {workspaces : Workspaces}
    (ordered : Ordered workspaces) {workspace : String} {resources : List Resource}
    (held : workspaces.resources workspace = .ok resources) :
    Catalog.Holds (workspaces.catalog : Catalog m) workspace resources where
  entries := by
    change Answers (pure (workspaces.resources workspace)) _
    rw [held]
    exact .pure _
  entryAt place _ := by
    change Answers (pure ((workspaces.resources workspace).map (·[place]?))) _
    rw [held]
    exact .pure _
  ordered := ordered workspace resources held

end Workspaces

end FeatureService
