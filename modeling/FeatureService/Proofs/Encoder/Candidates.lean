import FeatureService.Proofs.Encoder.Grammar
import FeatureService.Proofs.Registry.Reports

/-!
# The first candidate that can serve

The candidates for an identifier are tried in one order, and the first element
name among them is the identifier. Two things are reported on the way, and in
this order: a declared identifier that is passed over, and the use of the type
name.
-/

namespace FeatureService

/-- A step behind what was reported before it. -/
def Reported.after {α : Type} (earlier : List Diagnostic) (step : Reported α) : Reported α :=
  { step with diagnostics := earlier ++ step.diagnostics }

/-- The report on the use of a type name, by the outcome of a derivation. -/
inductive FallbackReport (descriptor : Descriptor) :
    Except RegistrationError String → List Diagnostic → Prop where
  | named {identifier : String} {reports : List Diagnostic}
      (onTypeName : TypeNameReport ⟨descriptor, identifier⟩ reports) :
      FallbackReport descriptor (.ok identifier) reports
  | refused (error : RegistrationError) : FallbackReport descriptor (.error error) []

namespace Descriptor

theorem not_publishable_iff (descriptor : Descriptor) :
    ¬ descriptor.Publishable ↔
      ∀ name ∈ descriptor.candidates, ElementName.isValid name = false := by
  simp [Publishable]

/-- Without an override that can serve, the search goes on with the primary alias. -/
theorem LacksOverride.find?_candidates {descriptor : Descriptor}
    (lacks : descriptor.LacksOverride) :
    descriptor.candidates.find? ElementName.isValid =
      (descriptor.primaryAlias :: (descriptor.typeName.map TypeName.short).toList).find?
        ElementName.isValid := by
  unfold candidates
  cases declared : descriptor.identifierOverride with
  | none => rfl
  | some name =>
      rw [Option.toList_some, List.singleton_append, List.find?_cons, lacks name declared]

namespace Derivation

variable {descriptor : Descriptor} {derived : Reported String}

/-- A derivation finds the first candidate that is an element name. -/
theorem outcome_eq_ok_iff (derivation : Derivation descriptor derived) (name : String) :
    derived.outcome = .ok name ↔
      descriptor.candidates.find? ElementName.isValid = some name := by
  cases derivation with
  | override declared valid =>
      simp [candidates, declared, valid]
  | primaryAlias lacks valid =>
      rw [lacks.find?_candidates, List.find?_cons, valid]
      simp
  | typeName needs named valid =>
      rw [needs.1.find?_candidates, List.find?_cons, needs.2, named]
      simp [valid]
  | refused unpublishable =>
      have absent : descriptor.candidates.find? ElementName.isValid = none := by
        simpa using descriptor.not_publishable_iff.mp unpublishable
      simp [absent]

theorem outcome_eq_error_iff (derivation : Derivation descriptor derived) :
    (∃ reason, derived.outcome = .error (.invalidIdentifier descriptor.primaryAlias reason)) ↔
      ∀ name ∈ descriptor.candidates, ElementName.isValid name = false := by
  rw [← not_publishable_iff]
  constructor
  · rintro ⟨reason, failed⟩ publishable
    obtain ⟨identifier, named⟩ := derivation.publishable_iff.mp publishable
    rw [failed] at named
    cases named
  · intro unpublishable
    exact ⟨_, congrArg Reported.outcome (derivation.eq_of_not_publishable unpublishable)⟩

theorem diagnostics_eq (derivation : Derivation descriptor derived) :
    ∃ fallback, FallbackReport descriptor derived.outcome fallback ∧
      derived.diagnostics = descriptor.overrideReport ++ fallback := by
  cases outcome : derived.outcome with
  | ok identifier =>
      obtain ⟨fallback, onTypeName, diagnostics⟩ := derivation.reports outcome
      exact ⟨fallback, .named onTypeName, diagnostics⟩
  | error error =>
      have unpublishable : ¬ descriptor.Publishable := fun publishable => by
        obtain ⟨identifier, named⟩ := derivation.publishable_iff.mp publishable
        rw [outcome] at named
        cases named
      refine ⟨[], .refused error, ?_⟩
      rw [derivation.eq_of_not_publishable unpublishable, List.append_nil]

end Derivation

/-- The identifier is the first candidate that is an element name; without one
the derivation fails. Behind the earlier reports stand one on an override that
is no element name and one on a type name that is used, and nothing else. -/
theorem identifier_is_first_candidate (descriptor : Descriptor) (earlier : List Diagnostic) :
    let derived := descriptor.identifier.after earlier
    (∀ name, derived.outcome = .ok name ↔
      descriptor.candidates.find? ElementName.isValid = some name) ∧
    (∀ name, derived.outcome = .ok name → ElementName.isValid name = true ∧ name ≠ "") ∧
    ((∃ reason, derived.outcome =
        .error (.invalidIdentifier descriptor.primaryAlias reason)) ↔
      ∀ name ∈ descriptor.candidates, ElementName.isValid name = false) ∧
    ∃ override fallback,
      OverrideReport descriptor override ∧
      FallbackReport descriptor derived.outcome fallback ∧
      derived.diagnostics = earlier ++ override ++ fallback := by
  intro derived
  have derivation := descriptor.derivation
  obtain ⟨fallback, onTypeName, diagnostics⟩ := derivation.diagnostics_eq
  refine ⟨derivation.outcome_eq_ok_iff, fun name named => ?_, derivation.outcome_eq_error_iff,
    descriptor.overrideReport, fallback, descriptor.overrideReport_holds, onTypeName, ?_⟩
  · have valid := derivation.isValid named
    exact ⟨valid, (ElementName.plain_of_isValid valid).nonempty⟩
  · calc earlier ++ descriptor.identifier.diagnostics
        = earlier ++ (descriptor.overrideReport ++ fallback) := by rw [diagnostics]
      _ = earlier ++ descriptor.overrideReport ++ fallback := (List.append_assoc ..).symm

end Descriptor

/-- A format whose declared names cannot serve, so that its type name does. -/
def zippedShape : Descriptor :=
  { BuiltIn.csv with
    aliases := ["application/zip", "SHAPE-ZIP"]
    identifierOverride := some "2zip"
    typeName := some "plugins::Zipped<shape::Writer>"
    aliases_ne_nil := by decide
    aliases_nodup := by decide
    empty_not_mem := by decide }

/-- Of the declared names only the override and the primary alias are tried. -/
theorem identifier_is_first_candidate_zipped :
    let earlier : List Diagnostic := [.aliasNotPublishable "text/csv"]
    let derived := zippedShape.identifier.after earlier
    derived.outcome = .ok "Zipped" ∧
      zippedShape.candidates.find? ElementName.isValid = some "Zipped" ∧
      ElementName.isValid "Zipped" = true ∧
      ∃ override fallback, OverrideReport zippedShape override ∧
        FallbackReport zippedShape (.ok "Zipped") fallback ∧
        derived.diagnostics = earlier ++ override ++ fallback ∧
        override = [.overrideRejected "application/zip" "2zip"] ∧
        fallback = [.typeNameFallback "application/zip" "Zipped"] := by
  intro earlier derived
  have named : derived.outcome = .ok "Zipped" := rfl
  obtain ⟨first, valid, _, override, fallback, onOverride, onTypeName, diagnostics⟩ :=
    Descriptor.identifier_is_first_candidate zippedShape earlier
  refine ⟨named, (first "Zipped").mp named, (valid "Zipped" named).1, override, fallback,
    onOverride, onTypeName, diagnostics, ?_, ?_⟩
  · cases onOverride with
    | rejected declared =>
        obtain rfl := Option.some.inj declared
        rfl
    | silent valid => exact absurd (valid "2zip" rfl) (by decide)
  · cases onTypeName with
    | named onTypeName =>
        cases onTypeName with
        | used => rfl
        | silent unneeded =>
            refine absurd ⟨?_, by decide⟩ unneeded
            intro name declared
            obtain rfl := Option.some.inj declared
            decide

end FeatureService
