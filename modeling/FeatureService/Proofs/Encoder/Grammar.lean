import FeatureService.Encoder.ElementName

/-!
# What element names are made of

Beyond ASCII the grammar of element names takes characters from many ranges. In
ASCII it leaves out whatever has a meaning in markup, so that an element name
stays one name wherever it is written.
-/

namespace FeatureService.ElementName

/-- Characters without a meaning in markup: all beyond ASCII, and in ASCII the
letters, the digits and three signs. -/
def isPlain (c : Char) : Bool :=
  0x80 ≤ c.toNat || c.isAlphanum || c == '_' || c == '-' || c == '.'

/-- Plain characters that continue a name but start none. -/
def isContinuing (c : Char) : Bool :=
  c.isDigit || c == '-' || c == '.'

/-- A text that stands for one name wherever it is written. -/
structure Plain (name : String) : Prop where
  nonempty : name ≠ ""
  start : ∀ c, name.toList.head? = some c → isContinuing c = false
  plain : ∀ c ∈ name.toList, isPlain c = true

theorem of_ascii (property : Char → Prop) (each : ∀ code < 0x80, property (Char.ofNat code))
    {c : Char} (ascii : c.toNat < 0x80) : property c := by
  have found := each c.toNat ascii
  rwa [Char.ofNat_toNat] at found

theorem ascii_of_isContinuing {c : Char} (continuing : isContinuing c = true) :
    c.toNat < 0x80 := by
  simp only [isContinuing, Bool.or_eq_true, beq_iff_eq, Char.isDigit_iff_toNat] at continuing
  rcases continuing with (digit | rfl) | rfl
  · have last : '9'.toNat < 0x80 := by decide
    omega
  · decide
  · decide

theorem isPart_of_isStart {c : Char} (start : isStart c = true) : isPart c = true := by
  rw [isPart, start, Bool.true_or]

theorem isPlain_of_isPart {c : Char} (part : isPart c = true) : isPlain c = true := by
  by_cases ascii : c.toNat < 0x80
  · exact of_ascii (fun c => isPart c = true → isPlain c = true) (by decide) ascii part
  · have beyond : 0x80 ≤ c.toNat := Nat.le_of_not_lt ascii
    simp [isPlain, beyond]

theorem isContinuing_of_isStart {c : Char} (start : isStart c = true) :
    isContinuing c = false := by
  cases continuing : isContinuing c with
  | false => rfl
  | true =>
      have ascii := ascii_of_isContinuing continuing
      have apart := of_ascii (fun c => isStart c = true → isContinuing c = false) (by decide)
        ascii start
      rw [continuing] at apart
      cases apart

theorem Plain.not_mem {name : String} (plain : Plain name) {c : Char}
    (special : isPlain c = false) : c ∉ name.toList := by
  intro mem
  have isPlain := plain.plain c mem
  rw [special] at isPlain
  cases isPlain

/-- The grammar of element names lets no name leave its place. -/
theorem plain_of_isValid {name : String} (valid : isValid name = true) : Plain name := by
  unfold isValid at valid
  split at valid
  · cases valid
  · rename_i first rest characters
    obtain ⟨start, parts⟩ := Bool.and_eq_true_iff.mp valid
    refine ⟨?_, ?_, ?_⟩
    · rintro rfl
      cases characters
    · intro c isFirst
      rw [characters, List.head?_cons] at isFirst
      obtain rfl := Option.some.inj isFirst
      exact isContinuing_of_isStart start
    · intro c mem
      rw [characters] at mem
      rcases List.mem_cons.mp mem with rfl | further
      · exact isPlain_of_isPart (isPart_of_isStart start)
      · exact isPlain_of_isPart (List.all_eq_true.mp parts c further)

end FeatureService.ElementName
