import FeatureService.Negotiation
import FeatureService.Proofs.List.Basic
import FeatureService.Proofs.Registry.Construction

/-!
# Operations that name a format

The encoder for an operation is found by a walk over all encoders, the owner of
a label by the index. Where an operation names a format, both lead to the same
encoder, since no two encoders declare one label.
-/

namespace FeatureService

namespace Registry

variable {registry : Registry}

theorem Indexed.encoders_apart (indexed : registry.Indexed) :
    registry.encoders.Pairwise fun first second => first.descriptor.Apart second.descriptor :=
  List.pairwise_map.mp indexed.pairwise_apart

/-- The encoders that declare a label are the owner of the label, if it has one. -/
theorem Indexed.filter_declares (indexed : registry.Indexed) (label : String) :
    registry.encoders.filter (fun encoder => encoder.descriptor.declares label) =
      (registry.get? label).toList := by
  have member (encoder : Encoder) :
      encoder ∈ registry.encoders.filter (fun encoder => encoder.descriptor.declares label) ↔
        registry.get? label = some encoder := by
    rw [List.mem_filter, Descriptor.declares_iff, indexed.get?_eq_some_iff]
  have apart := indexed.encoders_apart.filter fun encoder => encoder.descriptor.declares label
  cases found : registry.encoders.filter (fun encoder => encoder.descriptor.declares label) with
  | nil =>
      cases owner : registry.get? label with
      | none => rfl
      | some encoder =>
          have mem := (member encoder).mpr owner
          rw [found] at mem
          cases mem
  | cons first others =>
      have owner := (member first).mp (by rw [found]; exact List.mem_cons_self ..)
      cases others with
      | nil => rw [owner, Option.toList_some]
      | cons second rest =>
          rw [found] at apart
          have second_mem : second ∈ first :: second :: rest := by simp
          have second_owner := (member second).mp (found ▸ second_mem)
          have in_first := ((indexed.get?_eq_some_iff label first).mp owner).2
          have in_second := ((indexed.get?_eq_some_iff label second).mp second_owner).2
          have disjoint := (List.pairwise_cons.mp apart).1 second (List.mem_cons_self ..)
          exact absurd in_second (disjoint label in_first)

end Registry

namespace Negotiator

@[simp] theorem offers_some (format : String) :
    offers (some format) = fun encoder => encoder.descriptor.declares format := rfl

/-- A recognized operation that asks for results is served by the first encoder
that offers its format and accepts it. -/
theorem negotiate_of_eligible (negotiator : Negotiator) (operation : Operation)
    (known : negotiator.recognizes operation.kind = true)
    (asks : operation.resultType = .results) :
    negotiator.negotiate operation =
      ((negotiator.registry.encoders.filter (offers operation.outputFormat?)).find?
        fun encoder => encoder.descriptor.accepts operation).elim
        (.error ⟨operation.kind.name, operation.outputFormat?, .noAcceptingEncoder⟩) .ok := by
  simp only [negotiate, known, asks, Bool.not_true, Bool.false_eq_true, if_false, ne_eq,
    not_true_eq_false]
  split
  · rename_i encoder found
    rw [found, Option.elim_some]
  · rename_i absent
    rw [absent, Option.elim_none]

/-- Where an operation names a format, nothing but the owner of that label counts. -/
theorem negotiate_eq_of_owner_eq {first second : Registry} (firstIndexed : first.Indexed)
    (secondIndexed : second.Indexed) (recognized : List OperationKind) {operation : Operation}
    {format : String} (named : operation.outputFormat? = some format)
    (same : first.get? format = second.get? format) :
    (Negotiator.mk first recognized).negotiate operation =
      (Negotiator.mk second recognized).negotiate operation := by
  have known : (Negotiator.mk first recognized).recognizes operation.kind =
      (Negotiator.mk second recognized).recognizes operation.kind := rfl
  simp only [negotiate, named, known, offers_some, firstIndexed.filter_declares,
    secondIndexed.filter_declares, same]

/-- An operation that names a format is served by the owner of that label if the
owner accepts it, and else by no encoder. At most one encoder offers a label. -/
theorem negotiate_named_format (calls : List Descriptor) (registry : Registry)
    (recognized : List OperationKind) (operation : Operation) (format : String)
    (built : (RegistryDraft.empty.offerAll calls).build.outcome = .ok registry)
    (known : (Negotiator.mk registry recognized).recognizes operation.kind = true)
    (asks : operation.resultType = .results)
    (named : operation.outputFormat? = some format) :
    let negotiator : Negotiator := ⟨registry, recognized⟩
    (∀ encoder, negotiator.negotiate operation = .ok encoder ↔
      registry.get? format = some encoder ∧ encoder.descriptor.accepts operation = true) ∧
    ((∀ encoder, registry.get? format = some encoder →
        encoder.descriptor.accepts operation = false) →
      negotiator.negotiate operation =
        .error ⟨operation.kind.name, some format, .noAcceptingEncoder⟩) ∧
    ∀ label, registry.encoders.filter (offers (some label)) = (registry.get? label).toList := by
  intro negotiator
  have indexed := Registry.indexed_of_built (RegistryDraft.indexed_offerAll_empty calls) built
  have outcome := negotiator.negotiate_of_eligible operation known asks
  rw [named, offers_some, indexed.filter_declares, find?_toList] at outcome
  refine ⟨fun encoder => ?_, fun declined => ?_, fun label => ?_⟩
  · have served : negotiator.negotiate operation = .ok encoder ↔
        (registry.get? format).filter (fun encoder => encoder.descriptor.accepts operation) =
          some encoder := by
      rw [outcome]
      cases (registry.get? format).filter fun encoder => encoder.descriptor.accepts operation with
      | none => simp
      | some owner => simp
    rw [served, Option.filter_eq_some_iff]
  · have none_accepts : ((registry.get? format).filter fun encoder =>
        encoder.descriptor.accepts operation) = none := by
      rw [Option.filter_eq_none_iff]
      intro owner owns
      simp [declined owner owns]
    rw [outcome, none_accepts, Option.elim_none]
  · rw [offers_some, indexed.filter_declares]

def textQuery (types : String) : Operation :=
  ((Operation.new .getFeature .results).withParameter "OUTPUTFORMAT" (.text "text/csv"))
    |>.withParameter "typeName" (.text types)

/-- The format for one feature type serves a query for one, and no other format
serves a query for two in its place. -/
theorem negotiate_named_format_csv :
    let draft := RegistryDraft.empty.offerAll [BuiltIn.gml2, BuiltIn.csv]
    let registry : Registry := ⟨[⟨BuiltIn.gml2, "GML2"⟩, ⟨BuiltIn.csv, "csv"⟩], draft.owners⟩
    let negotiator : Negotiator := ⟨registry, [.getFeature]⟩
    draft.build.outcome = .ok registry ∧
      (∀ types, negotiator.recognizes (textQuery types).kind = true ∧
        (textQuery types).resultType = .results ∧
        (textQuery types).outputFormat? = some "text/csv") ∧
      negotiator.negotiate (textQuery "topp:states") = .ok ⟨BuiltIn.csv, "csv"⟩ ∧
      negotiator.negotiate (textQuery "topp:states,topp:roads") =
        .error ⟨"GetFeature", some "text/csv", .noAcceptingEncoder⟩ := by
  intro draft registry negotiator
  have known : negotiator.recognizes .getFeature = true := by decide
  have served := negotiate_named_format [BuiltIn.gml2, BuiltIn.csv] registry [.getFeature]
    (textQuery "topp:states") "text/csv" rfl known rfl rfl
  have declined := negotiate_named_format [BuiltIn.gml2, BuiltIn.csv] registry [.getFeature]
    (textQuery "topp:states,topp:roads") "text/csv" rfl known rfl rfl
  refine ⟨rfl, fun types => ⟨known, rfl, rfl⟩, (served.1 _).mpr ⟨rfl, by decide⟩, declined.2.1 ?_⟩
  intro encoder owns
  have owner : registry.get? "text/csv" = some ⟨BuiltIn.csv, "csv"⟩ := rfl
  obtain rfl := Option.some.inj (owner.symm.trans owns)
  decide

end Negotiator

end FeatureService
