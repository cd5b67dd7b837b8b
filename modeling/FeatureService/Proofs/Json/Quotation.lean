import FeatureService.Json.Quotation

/-!
# Quoted texts are read back

Every character is written in a way that reads back as this character alone,
whatever follows. So a text between quotes is read back whole, and reading goes
on behind its closing quote.
-/

namespace FeatureService.Quotation

theorem hexDigit?_digitChar {digit : Nat} (small : digit < 16) :
    hexDigit? (Nat.digitChar digit) = some digit := by
  decide +revert

/-- A letter behind a backslash stands for the character that it was written for. -/
theorem unletter?_of_letter? {c letter : Char} (escaped : letter? c = some letter) :
    unletter? letter = some c ∧ letter ≠ 'u' := by
  unfold letter? at escaped
  -- One case for each of the seven characters, and one for all others.
  repeat' split at escaped
  all_goals cases escaped
  all_goals
    rename_i same
    subst same
    decide

theorem unit?_control {c : Char} (control : c.toNat < 0x20) :
    unit? '0' '0' (Nat.digitChar (c.toNat / 16)) (Nat.digitChar (c.toNat % 16)) =
      some c.toNat := by
  have zero : hexDigit? '0' = some 0 := rfl
  have high : hexDigit? (Nat.digitChar (c.toNat / 16)) = some (c.toNat / 16) :=
    hexDigit?_digitChar (by omega)
  have low : hexDigit? (Nat.digitChar (c.toNat % 16)) = some (c.toNat % 16) :=
    hexDigit?_digitChar (by omega)
  simp only [unit?, zero, high, low, Option.bind_eq_bind, Option.bind_some]
  congr 1
  omega

theorem pieceOf_control {c : Char} (control : c.toNat < 0x20) : pieceOf c.toNat = .char c := by
  have lead : isLead c.toNat = false := by simp [isLead]; omega
  have trail : isTrail c.toNat = false := by simp [isTrail]; omega
  rw [pieceOf, lead, trail, Char.ofNat_toNat]
  rfl

theorem readPieces_encodeChar (done : List Piece) (c : Char) (rest : List Char) :
    readPieces done (encodeChar c ++ rest) = readPieces (.char c :: done) rest := by
  unfold encodeChar
  split
  · rename_i letter escaped
    obtain ⟨known, notUnit⟩ := unletter?_of_letter? escaped
    simp [readPieces, known, notUnit]
  · rename_i unescaped
    split
    · rename_i control
      simp only [controlEscape, List.cons_append, List.nil_append, readPieces,
        unit?_control control, pieceOf_control control, Option.bind_eq_bind, Option.bind_some]
    · rename_i printable
      have quote : c ≠ '"' := by rintro rfl; cases unescaped
      have backslash : c ≠ '\\' := by rintro rfl; cases unescaped
      rw [List.singleton_append, readPieces, if_neg (not_or.mpr ⟨printable, backslash⟩)]
      · exact quote
      · intro _ _ _ _ _ same
        exact absurd same backslash
      · intro _ _ same
        exact absurd same backslash

theorem readPieces_encode (done : List Piece) (text rest : List Char) :
    readPieces done (encode text ++ '"' :: rest) =
      some (done.reverse ++ text.map .char, rest) := by
  induction text generalizing done with
  | nil => simp [encode, readPieces]
  | cons c text ih =>
      have split : encode (c :: text) = encodeChar c ++ encode text := rfl
      rw [split, List.append_assoc, readPieces_encodeChar, ih]
      simp

theorem join_chars (text : List Char) : join (text.map .char) = some text := by
  induction text with
  | nil => rfl
  | cons c text ih => rw [List.map_cons, join, ih, Option.map_some]

theorem read_encode (text : String) (rest : List Char) :
    read (encode text.toList ++ '"' :: rest) = some (some text, rest) := by
  rw [read, readPieces_encode]
  simp [join_chars, String.ofList_toList]

end FeatureService.Quotation
