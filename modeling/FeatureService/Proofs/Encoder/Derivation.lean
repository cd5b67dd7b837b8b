import FeatureService.Encoder.Identifier

/-!
# Derivation of identifiers

An encoder is published under the first element name among its candidates. The
four ways in which a derivation can go are listed once, each with all that it
reports.
-/

namespace FeatureService.Descriptor

/-- The names that the identifier is chosen from, the preferred one first. -/
def candidates (descriptor : Descriptor) : List String :=
  descriptor.identifierOverride.toList ++ descriptor.primaryAlias ::
    (descriptor.typeName.map TypeName.short).toList

def Publishable (descriptor : Descriptor) : Prop :=
  ∃ name ∈ descriptor.candidates, ElementName.isValid name = true

def LacksOverride (descriptor : Descriptor) : Prop :=
  ∀ name, descriptor.identifierOverride = some name → ElementName.isValid name = false

/-- Neither an override nor the primary alias is an element name. -/
def NeedsTypeName (descriptor : Descriptor) : Prop :=
  descriptor.LacksOverride ∧ ElementName.isValid descriptor.primaryAlias = false

/-- Why no candidate can serve. -/
def unpublishableReason (descriptor : Descriptor) : String :=
  descriptor.typeName.elim noTypeNameReason fun typeName =>
    badTypeNameReason (TypeName.short typeName)

/-- How the identifier of an encoder comes about, with what is reported. -/
inductive Derivation (descriptor : Descriptor) : Reported String → Prop where
  | override {name : String} (declared : descriptor.identifierOverride = some name)
      (valid : ElementName.isValid name = true) : Derivation descriptor ⟨[], .ok name⟩
  | primaryAlias (lacks : descriptor.LacksOverride)
      (valid : ElementName.isValid descriptor.primaryAlias = true) :
      Derivation descriptor ⟨descriptor.overrideReport, .ok descriptor.primaryAlias⟩
  | typeName {typeName : String} (needed : descriptor.NeedsTypeName)
      (named : descriptor.typeName = some typeName)
      (valid : ElementName.isValid (TypeName.short typeName) = true) :
      Derivation descriptor
        ⟨descriptor.overrideReport
          ++ [.typeNameFallback descriptor.primaryAlias (TypeName.short typeName)],
          .ok (TypeName.short typeName)⟩
  | refused (unpublishable : ¬ descriptor.Publishable) :
      Derivation descriptor
        ⟨descriptor.overrideReport,
          .error (.invalidIdentifier descriptor.primaryAlias descriptor.unpublishableReason)⟩

theorem mem_candidates (descriptor : Descriptor) (name : String) :
    name ∈ descriptor.candidates ↔ descriptor.identifierOverride = some name ∨
      name = descriptor.primaryAlias ∨ descriptor.typeName.map TypeName.short = some name := by
  simp only [candidates, List.mem_append, List.mem_cons, Option.mem_toList]

theorem lacksOverride_iff (descriptor : Descriptor) :
    descriptor.LacksOverride ↔
      descriptor.identifierOverride.filter ElementName.isValid = none := by
  rw [Option.filter_eq_none_iff]
  simp only [LacksOverride, Bool.not_eq_true]

theorem NeedsTypeName.not_publishable {descriptor : Descriptor} (needs : descriptor.NeedsTypeName)
    (unnamed : ∀ typeName, descriptor.typeName = some typeName →
      ElementName.isValid (TypeName.short typeName) = false) : ¬ descriptor.Publishable := by
  rintro ⟨name, mem, valid⟩
  have invalid : ElementName.isValid name = false := by
    rcases (descriptor.mem_candidates name).mp mem with declared | rfl | short
    · exact needs.1 name declared
    · exact needs.2
    · obtain ⟨typeName, named, rfl⟩ := Option.map_eq_some_iff.mp short
      exact unnamed typeName named
  rw [invalid] at valid
  cases valid

/-- All that a derivation can do. -/
theorem derivation (descriptor : Descriptor) : descriptor.Derivation descriptor.identifier := by
  unfold Descriptor.identifier
  split
  · rename_i name found
    obtain ⟨declared, valid⟩ := Option.filter_eq_some_iff.mp found
    exact .override declared valid
  · rename_i absent
    have lacks := descriptor.lacksOverride_iff.mpr absent
    unfold undeclaredIdentifier
    split
    · rename_i valid
      simpa using Derivation.primaryAlias lacks valid
    · rename_i invalid
      have needs : descriptor.NeedsTypeName := ⟨lacks, by simpa using invalid⟩
      unfold typeNameIdentifier
      split
      · rename_i unnamed
        have refused := Derivation.refused (needs.not_publishable (by simp [unnamed]))
        simpa [unpublishableReason, unnamed] using refused
      · rename_i typeName named
        dsimp only
        split
        · rename_i valid
          exact .typeName needs named valid
        · rename_i invalid
          have refused := Derivation.refused
            (needs.not_publishable (by simpa [named] using invalid))
          simpa [unpublishableReason, named] using refused

namespace Derivation

variable {descriptor : Descriptor} {derived : Reported String}

/-- An identifier is derived exactly if some candidate can serve. -/
theorem publishable_iff (derivation : Derivation descriptor derived) :
    descriptor.Publishable ↔ ∃ identifier, derived.outcome = .ok identifier := by
  cases derivation with
  | @override name declared valid =>
      have mem := (descriptor.mem_candidates name).mpr (.inl declared)
      exact ⟨fun _ => ⟨name, rfl⟩, fun _ => ⟨name, mem, valid⟩⟩
  | primaryAlias _ valid =>
      have mem := (descriptor.mem_candidates _).mpr (.inr (.inl rfl))
      exact ⟨fun _ => ⟨_, rfl⟩, fun _ => ⟨_, mem, valid⟩⟩
  | @typeName typeName _ named valid =>
      have short : descriptor.typeName.map TypeName.short = some (TypeName.short typeName) := by
        rw [named, Option.map_some]
      have mem := (descriptor.mem_candidates _).mpr (.inr (.inr short))
      exact ⟨fun _ => ⟨_, rfl⟩, fun _ => ⟨_, mem, valid⟩⟩
  | refused unpublishable =>
      constructor
      · intro publishable
        exact absurd publishable unpublishable
      · rintro ⟨_, impossible⟩
        cases impossible

theorem eq_of_not_publishable (derivation : Derivation descriptor derived)
    (unpublishable : ¬ descriptor.Publishable) :
    derived = ⟨descriptor.overrideReport,
      .error (.invalidIdentifier descriptor.primaryAlias descriptor.unpublishableReason)⟩ := by
  have underived := fun found => unpublishable (derivation.publishable_iff.mpr found)
  cases derivation with
  | refused => rfl
  | override | primaryAlias | typeName => exact absurd ⟨_, rfl⟩ underived

theorem isValid {identifier : String} (derivation : Derivation descriptor derived)
    (named : derived.outcome = .ok identifier) : ElementName.isValid identifier = true := by
  cases derivation with
  | override _ valid | primaryAlias _ valid | typeName _ _ valid =>
      obtain rfl := Except.ok.inj named
      exact valid
  | refused => cases named

end Derivation

end FeatureService.Descriptor
