import FeatureService.Encoder.Descriptor
import Mathlib.Data.List.Basic

/-!
# Which labels a descriptor keeps

A draft collects labels one by one, and building it keeps each label that is not
empty at its first place. What is kept is determined by that, so a draft with the
kept labels builds the same descriptor again.
-/

namespace FeatureService

/-- What is left of labels that may be empty or repeated: each label that is not
empty, once, in the order of the first places. -/
structure FirstPlaces (labels kept : List String) : Prop where
  mem_iff : ∀ label, label ∈ kept ↔ label ∈ labels ∧ label ≠ ""
  nodup : kept.Nodup
  ordered : kept.Pairwise fun first second => labels.idxOf first < labels.idxOf second

namespace FirstPlaces

variable {labels kept : List String}

theorem unique (places : FirstPlaces labels kept) {other : List String}
    (others : FirstPlaces labels other) : kept = other := by
  have members : kept.Perm other := (List.perm_ext_iff_of_nodup places.nodup others.nodup).mpr
    fun label => (places.mem_iff label).trans (others.mem_iff label).symm
  refine members.eq_of_pairwise (fun first second _ _ before after => ?_) places.ordered
    others.ordered
  exact absurd after (Nat.lt_asymm before)

theorem of_nodup (distinct : kept.Nodup) (nonempty : "" ∉ kept) : FirstPlaces kept kept := by
  refine ⟨fun label => ?_, distinct, ?_⟩
  · exact (and_iff_left_of_imp fun mem => ne_of_mem_of_not_mem mem nonempty).symm
  · rw [List.pairwise_iff_getElem]
    intro first second inFirst inSecond before
    rwa [distinct.idxOf_getElem, distinct.idxOf_getElem]

end FirstPlaces

theorem ordered_distinctLabels (seen labels : List String) :
    (distinctLabels seen labels).Pairwise
      fun first second => labels.idxOf first < labels.idxOf second := by
  induction labels generalizing seen with
  | nil => exact List.Pairwise.nil
  | cons first rest ih =>
      -- Among the labels that are kept behind it, none is the first one.
      have later (seen : List String) (apart : first = "" ∨ first ∈ seen) :
          (distinctLabels seen rest).Pairwise fun before after =>
            (first :: rest).idxOf before < (first :: rest).idxOf after := by
        have other : ∀ label ∈ distinctLabels seen rest, first ≠ label := by
          rintro _ mem rfl
          obtain ⟨-, nonempty, fresh⟩ := (mem_distinctLabels _ _ _).mp mem
          exact apart.elim nonempty fresh
        refine (ih seen).imp_of_mem fun {before after} inFront behind less => ?_
        rw [List.idxOf_cons_ne rest (other before inFront),
          List.idxOf_cons_ne rest (other after behind)]
        exact Nat.succ_lt_succ less
      unfold distinctLabels
      split
      · rename_i apart
        exact later seen apart
      · have behind := later (first :: seen) (.inr (List.mem_cons_self ..))
        refine List.pairwise_cons.mpr ⟨fun label mem => ?_, behind⟩
        have fresh := ((mem_distinctLabels _ _ _).mp mem).2.2
        rw [List.idxOf_cons_self, List.idxOf_cons_ne rest fun same => fresh ?_]
        · exact Nat.succ_pos _
        · rw [← same]
          exact List.mem_cons_self ..

/-- The labels that are kept are those at their first places. -/
theorem firstPlaces_iff (labels kept : List String) :
    FirstPlaces labels kept ↔ distinctLabels [] labels = kept := by
  have places : FirstPlaces labels (distinctLabels [] labels) := by
    refine ⟨fun label => ?_, nodup_distinctLabels [] labels, ordered_distinctLabels [] labels⟩
    rw [mem_distinctLabels]
    simp
  constructor
  · exact places.unique
  · rintro rfl
    exact places

theorem head?_distinctLabels (labels : List String) :
    (distinctLabels [] labels).head? = labels.find? fun label => label ≠ "" := by
  induction labels with
  | nil => rfl
  | cons first rest ih =>
      unfold distinctLabels
      by_cases empty : first = ""
      · rw [if_pos (.inl empty), ih]
        simp [empty]
      · rw [if_neg (by simp [empty])]
        simp [empty]

namespace DescriptorDraft

variable {draft : DescriptorDraft} {descriptor : Descriptor}

theorem foldl_withLabel (draft : DescriptorDraft) (further : List String) :
    further.foldl withLabel draft = { draft with labels := draft.labels ++ further } := by
  induction further generalizing draft with
  | nil => rw [List.append_nil]; rfl
  | cons label rest ih =>
      rw [List.foldl_cons, ih]
      simp [withLabel]

/-- A draft is built with the labels that are kept and all else as it is. -/
theorem build_eq_ok_iff (draft : DescriptorDraft) (descriptor : Descriptor) :
    draft.build = .ok descriptor ↔
      FirstPlaces draft.labels descriptor.aliases ∧ descriptor.predicate = draft.predicate ∧
        descriptor.identifierOverride = draft.identifierOverride ∧
        descriptor.typeName = draft.typeName ∧ descriptor.mimeType = draft.mimeType ∧
        descriptor.publishMode = draft.publishMode := by
  constructor
  · intro built
    unfold build at built
    split at built
    · rw [← Except.ok.inj built]
      exact ⟨(firstPlaces_iff _ _).mpr rfl, rfl, rfl, rfl, rfl, rfl⟩
    · cases built
  · rintro ⟨places, predicate, override, typeName, mimeType, publishMode⟩
    have kept := (firstPlaces_iff _ _).mp places
    rw [build, dif_pos (kept ▸ descriptor.aliases_ne_nil)]
    cases descriptor
    simp only [kept, ← predicate, ← override, ← typeName, ← mimeType, ← publishMode]

theorem aliases_of_build (built : draft.build = .ok descriptor) :
    descriptor.aliases = distinctLabels [] draft.labels :=
  ((firstPlaces_iff _ _).mp ((build_eq_ok_iff _ _).mp built).1).symm

theorem build_eq_error_iff (draft : DescriptorDraft) (error : RegistrationError) :
    draft.build = .error error ↔
      error = .emptyAliases (draft.typeName.getD "<unnamed>") ∧
        ∀ label ∈ draft.labels, label = "" := by
  by_cases labelled : draft.Labelled
  · obtain ⟨descriptor, built⟩ := exists_build_of_labelled labelled
    rw [built]
    constructor
    · intro failed
      cases failed
    · rintro ⟨-, empty⟩
      obtain ⟨label, mem, nonempty⟩ := labelled
      exact absurd (empty label mem) nonempty
  · have empty : ∀ label ∈ draft.labels, label = "" := fun label mem =>
      Decidable.byContradiction fun nonempty => labelled ⟨label, mem, nonempty⟩
    rw [build_of_not_labelled labelled, and_iff_left empty]
    exact ⟨fun same => (Except.error.inj same).symm, fun same => congrArg _ same.symm⟩

theorem exists_build_iff_labelled (draft : DescriptorDraft) :
    (∃ descriptor, draft.build = .ok descriptor) ↔ ∃ label ∈ draft.labels, label ≠ "" := by
  constructor
  · rintro ⟨descriptor, built⟩
    by_contra unlabelled
    rw [build_of_not_labelled unlabelled] at built
    cases built
  · exact exists_build_of_labelled

/-- Of the labels only those count that are kept. -/
theorem build_eq_of_kept {labels : List String}
    (same : distinctLabels [] labels = distinctLabels [] draft.labels) :
    { draft with labels }.build = draft.build := by
  simp only [build, same]

theorem find?_of_build (built : draft.build = .ok descriptor) :
    (draft.labels.find? fun label => label ≠ "") = some descriptor.primaryAlias := by
  rw [← head?_distinctLabels, ← aliases_of_build built]
  exact List.head?_eq_some_head descriptor.aliases_ne_nil

/-- A draft without a label that is not empty is refused, and no other draft is. A
descriptor answers to the labels of its draft that are not empty, each once and in
the order of their first places. The first of them is its primary alias, and the
draft with these labels builds the same descriptor. -/
theorem kept_labels (draft : DescriptorDraft) (further : List String) :
    let given := draft.labels ++ further
    let built := (further.foldl withLabel draft).build
    (∀ error, built = .error error ↔
      error = .emptyAliases (draft.typeName.getD "<unnamed>") ∧ ∀ label ∈ given, label = "") ∧
    ((∃ descriptor, built = .ok descriptor) ↔ ∃ label ∈ given, label ≠ "") ∧
    ∀ descriptor, built = .ok descriptor →
      "" ∉ descriptor.aliases ∧
      FirstPlaces given descriptor.aliases ∧
      (given.find? fun label => label ≠ "") = some descriptor.primaryAlias ∧
      (∀ label, descriptor.declares label = true ↔ label ≠ "" ∧ label ∈ given) ∧
      { draft with labels := descriptor.aliases }.build = .ok descriptor := by
  rw [foldl_withLabel]
  intro given built
  refine ⟨build_eq_error_iff _, exists_build_iff_labelled _, fun descriptor made => ?_⟩
  have places := ((build_eq_ok_iff _ _).mp made).1
  refine ⟨descriptor.empty_not_mem, places, find?_of_build made, fun label => ?_, ?_⟩
  · rw [Descriptor.declares, List.contains_iff_mem, places.mem_iff, and_comm]
  · have again := FirstPlaces.of_nodup descriptor.aliases_nodup descriptor.empty_not_mem
    rw [← made]
    exact build_eq_of_kept (((firstPlaces_iff _ _).mp again).trans (aliases_of_build made))

/-- Labels that are empty, repeated and added later. -/
theorem kept_labels_json :
    let draft : DescriptorDraft := { labels := ["", "json", "application/json"] }
    ∃ descriptor, (["json", "", "geojson"].foldl withLabel draft).build = .ok descriptor ∧
      descriptor.aliases = ["json", "application/json", "geojson"] ∧
      descriptor.primaryAlias = "json" ∧
      { draft with labels := descriptor.aliases }.build = .ok descriptor := by
  intro draft
  obtain ⟨-, builds, kept⟩ := kept_labels draft ["json", "", "geojson"]
  obtain ⟨descriptor, built⟩ := builds.mpr ⟨"json", by decide, by decide⟩
  obtain ⟨-, places, first, -, again⟩ := kept descriptor built
  have aliases := (firstPlaces_iff _ _).mp places
  exact ⟨descriptor, built, aliases.symm, (Option.some.inj first).symm, again⟩

end DescriptorDraft

end FeatureService
