import FeatureService.Proofs.List.LeastPlace
import FeatureService.Registry

/-!
# First holders of identifiers

A construction keeps its encoders and the identifiers that were published apart
from each other. After any encoders, a published identifier leads to the place
of the first encoder that bears it, and no other identifier leads anywhere. The
report on an identifier therefore names that first encoder.
-/

namespace FeatureService

namespace Construction

/-- The published identifiers are those of the encoders, each with the least place
of an encoder that bears it. -/
def Aligned (construction : Construction) : Prop :=
  ∀ identifier, construction.published.lookup identifier =
    construction.encoders.findIdx? fun encoder => encoder.identifier == identifier

def push (construction : Construction) (encoder : Encoder) : Construction :=
  (construction.publish construction.encoders.length encoder).1

/-- The report on an encoder that comes behind the others. -/
def collisionReport (construction : Construction) (encoder : Encoder) : List Diagnostic :=
  (construction.publish construction.encoders.length encoder).2

variable {construction : Construction}

theorem Aligned.lookup_eq_some_iff (aligned : construction.Aligned) (identifier : String)
    (place : Nat) :
    construction.published.lookup identifier = some place ↔
      ∃ holder, LeastWith (fun other => other.identifier = identifier) construction.encoders
        place holder := by
  rw [aligned identifier, findIdx?_eq_some_iff_leastWith]
  simp only [beq_iff_eq]

theorem Aligned.lookup_eq_none_iff (aligned : construction.Aligned) (identifier : String) :
    construction.published.lookup identifier = none ↔
      ∀ other ∈ construction.encoders, other.identifier ≠ identifier := by
  rw [aligned identifier, List.findIdx?_eq_none_iff]
  simp only [beq_eq_false_iff_ne]

/-- All that a further encoder can do: its identifier is published, or it is
reported together with the first encoder that bears it. -/
theorem Aligned.publish_cases (aligned : construction.Aligned) (encoder : Encoder) :
    ((∀ other ∈ construction.encoders, other.identifier ≠ encoder.identifier) ∧
      construction.push encoder =
        ⟨construction.encoders ++ [encoder],
          construction.published ++ [(encoder.identifier, construction.encoders.length)]⟩ ∧
      construction.collisionReport encoder = []) ∨
    ∃ place holder,
      LeastWith (fun other => other.identifier = encoder.identifier) construction.encoders place
        holder ∧
      construction.push encoder =
        ⟨construction.encoders ++ [encoder], construction.published⟩ ∧
      construction.collisionReport encoder =
        [.identifierCollision encoder.identifier holder.descriptor.displayName
          encoder.descriptor.displayName] := by
  unfold push collisionReport publish
  cases found : construction.published.lookup encoder.identifier with
  | none => exact .inl ⟨(aligned.lookup_eq_none_iff _).mp found, rfl, rfl⟩
  | some place =>
      obtain ⟨holder, first⟩ := (aligned.lookup_eq_some_iff _ place).mp found
      have there : (construction.encoders.map Encoder.descriptor)[place]? =
          some holder.descriptor := by
        rw [List.getElem?_map, first.there, Option.map_some]
      refine .inr ⟨place, holder, first, rfl, ?_⟩
      simp only [Descriptor.displayNameAt_of_getElem? there]

@[simp] theorem push_encoders (construction : Construction) (encoder : Encoder) :
    (construction.push encoder).encoders = construction.encoders ++ [encoder] := by
  unfold push publish
  split <;> rfl

theorem aligned_empty : empty.Aligned := fun _ => rfl

/-- A further encoder leaves the published identifiers in line with the encoders. -/
theorem Aligned.push (aligned : construction.Aligned) (encoder : Encoder) :
    (construction.push encoder).Aligned := by
  intro identifier
  rw [push_encoders, List.findIdx?_append, ← aligned identifier]
  -- The encoder matters to its own identifier alone, and only if it is the first to bear it.
  rcases aligned.publish_cases encoder with ⟨apart, extended, _⟩ | ⟨place, holder, first, same, _⟩
  · rw [extended, List.lookup_append]
    by_cases own : identifier = encoder.identifier
    · simp [own]
    · simp [List.lookup_cons, beq_eq_false_iff_ne.mpr own, Ne.symm own]
  · rw [same]
    by_cases own : identifier = encoder.identifier
    · rw [own, (aligned.lookup_eq_some_iff _ place).mpr ⟨holder, first⟩, Option.some_or]
    · simp [Ne.symm own]

/-! ## Any further encoders -/

def pushAll (construction : Construction) (encoders : List Encoder) : Construction :=
  encoders.foldl Construction.push construction

@[simp] theorem pushAll_encoders (construction : Construction) (encoders : List Encoder) :
    (construction.pushAll encoders).encoders = construction.encoders ++ encoders := by
  induction encoders generalizing construction with
  | nil => simp [pushAll]
  | cons encoder rest ih =>
      change ((construction.push encoder).pushAll rest).encoders = _
      rw [ih, push_encoders, List.append_assoc, List.singleton_append]

theorem Aligned.pushAll (aligned : construction.Aligned) (encoders : List Encoder) :
    (construction.pushAll encoders).Aligned := by
  induction encoders generalizing construction with
  | nil => exact aligned
  | cons encoder rest ih => exact ih (aligned.push encoder)

/-- Whatever encoders were taken in, the published identifiers are in line. -/
theorem aligned_pushAll_empty (encoders : List Encoder) : (empty.pushAll encoders).Aligned :=
  aligned_empty.pushAll encoders

end Construction

end FeatureService
