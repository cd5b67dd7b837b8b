import FeatureService.Text.Emoji
import FeatureService.Text.Width

/-!
# Ligatures

The pairs of letters that some scripts write as one sign, so that the pair takes
fewer columns than its letters. A pair is found from its second letter, and
marks that do not show may stand between the two.
-/

namespace FeatureService.Text

/-- The second part of a ligature. -/
inductive LigatureEnd where
  /-- An Arabic alef, behind a lam. -/
  | alef
  /-- A Hebrew lamed, joined to an alef. -/
  | lamed
  /-- A Buginese ya, joined to the vowel of the letter before it. -/
  | ya
  /-- A Buginese vowel that is joined to a ya. -/
  | vowelYa
  /-- A Tifinagh consonant, joined to another. -/
  | consonant
  /-- A Tifinagh consonant behind the joiner of consonants. -/
  | joinedConsonant
  /-- The second half of a Lisu tone. -/
  | tone
  /-- An Old Turkic i, joined to a letter ash. -/
  | orkhonI
  /-- A Khmer letter that is written below the letter before it. -/
  | subscript
  deriving DecidableEq

def alefRanges : Ranges :=
  [(0x622, 0x623), (0x625, 0x625), (0x627, 0x627), (0x671, 0x673), (0x675, 0x675), (0x773, 0x774),
   (0x870, 0x882)]

def lamRanges : Ranges :=
  [(0x644, 0x644), (0x6B5, 0x6B8), (0x76A, 0x76A), (0x8A6, 0x8A6), (0x8C7, 0x8C7)]

def tifinaghRanges : Ranges :=
  [(0x2D31, 0x2D65), (0x2D6F, 0x2D6F)]

/-- The Khmer letters that have a form below another letter. -/
def subscriptRanges : Ranges :=
  [(0x1780, 0x1782), (0x1784, 0x1787), (0x1789, 0x178C), (0x178E, 0x1793), (0x1795, 0x1798),
   (0x179B, 0x179D), (0x17A0, 0x17A0), (0x17A2, 0x17A2), (0x17A7, 0x17A7), (0x17AB, 0x17AC),
   (0x17AF, 0x17AF)]

/-- The characters without columns that Arabic letters are not joined across. -/
def dividingRanges : Ranges :=
  [(0x605, 0x605), (0x890, 0x891), (0x8E2, 0x8E2), (0x9BE, 0x9BE), (0x9D7, 0x9D7),
   (0xB3E, 0xB3E), (0xB57, 0xB57), (0xBBE, 0xBBE), (0xBD7, 0xBD7), (0xCC0, 0xCC0),
   (0xCC2, 0xCC2), (0xCC7, 0xCC8), (0xCCA, 0xCCB), (0xCD5, 0xCD6), (0xD3E, 0xD3E),
   (0xD4E, 0xD4E), (0xD57, 0xD57), (0xDCF, 0xDCF), (0xDDF, 0xDDF), (0x1160, 0x11FF),
   (0x1715, 0x1715), (0x1734, 0x1734), (0x180E, 0x180E), (0x1B35, 0x1B35), (0x1B3B, 0x1B3B),
   (0x1B3D, 0x1B3D), (0x1B43, 0x1B44), (0x1BAA, 0x1BAA), (0x1BF2, 0x1BF3), (0x200C, 0x200D),
   (0x2065, 0x2069), (0x302E, 0x302F), (0x3164, 0x3164), (0xA8FA, 0xA8FA), (0xA953, 0xA953),
   (0xA9C0, 0xA9C0), (0xD7B0, 0xD7C6), (0xD7CB, 0xD7FB), (0xFFA0, 0xFFA0), (0xFFF0, 0xFFF8),
   (0x111C0, 0x111C0), (0x111C2, 0x111C3), (0x11235, 0x11235), (0x1133E, 0x1133E),
   (0x1134D, 0x1134D), (0x11357, 0x11357), (0x113B8, 0x113B8), (0x113C2, 0x113C2),
   (0x113C5, 0x113C5), (0x113C7, 0x113C9), (0x113CF, 0x113CF), (0x113D1, 0x113D1),
   (0x114B0, 0x114B0), (0x114BD, 0x114BD), (0x115AF, 0x115AF), (0x116B6, 0x116B6),
   (0x11930, 0x11930), (0x1193D, 0x1193D), (0x1193F, 0x1193F), (0x11941, 0x11941),
   (0x11A84, 0x11A89), (0x11D46, 0x11D46), (0x11F02, 0x11F02), (0x11F41, 0x11F41),
   (0x16FF0, 0x16FF1), (0x1D165, 0x1D166), (0x1D16D, 0x1D172), (0x1D250, 0x1D251),
   (0x1D25C, 0x1D25F), (0xE0000, 0xE0000), (0xE0002, 0xE001F), (0xE0080, 0xE00FF),
   (0xE01F0, 0xE0FFF)]

/-- The marks that do not show where nothing is known of them. -/
def ignorableMarkRanges : Ranges :=
  [(0x34F, 0x34F), (0x17B4, 0x17B5), (0x180B, 0x180D), (0x180F, 0x180F), (0xFE00, 0xFE0F),
   (0xE0100, 0xE01EF)]

def isTransparent (c : Char) : Bool :=
  columnsOf c == 0 && !dividingRanges.holds c

namespace LigatureEnd

/-- The ligature that a character can end. -/
def ofChar? (c : Char) : Option LigatureEnd :=
  if c = '\u05dc' then some lamed
  else if c = '\u1a10' then some ya
  else if c = Char.ofNat 0x10C03 then some orkhonI
  else if c = '\ua4fc' || c = '\ua4fd' then some tone
  else if alefRanges.holds c then some alef
  else if tifinaghRanges.holds c then some consonant
  else if subscriptRanges.holds c then some subscript
  else none

/-- What a letter takes in front of the second part of a ligature that it belongs
to, and the second part that both make together, if they make one. `joined` tells
whether a joiner stands between them. -/
def precede? (ending : LigatureEnd) (joined : Bool) (c : Char) :
    Option (Int × Option LigatureEnd) :=
  match ending with
  | alef => if lamRanges.holds c then some (0, none) else none
  | lamed => if joined && c = '\u05d0' then some (0, none) else none
  | ya => if joined && c = '\u1a17' then some (0, some vowelYa) else none
  | vowelYa => if c = '\u1a15' then some (0, none) else none
  | consonant =>
      if c = '\u2d7f' then some (1, some joinedConsonant)
      else if joined && tifinaghRanges.holds c then some (0, none)
      else none
  | joinedConsonant => if tifinaghRanges.holds c then some (-1, none) else none
  | tone => if 0xA4F8 ≤ c.toNat ∧ c.toNat ≤ 0xA4FB then some (0, none) else none
  | orkhonI => if joined && c = Char.ofNat 0x10C32 then some (0, none) else none
  | subscript => if c = '\u17d2' then some (-1, none) else none

/-- Whether a mark may stand between the parts of a ligature. -/
def passes (ending : LigatureEnd) (mark : Char) : Bool :=
  match ending with
  | alef => isTransparent mark
  | _ => ignorableMarkRanges.holds mark

def admitsJoiner (ending : LigatureEnd) : Bool :=
  ending != alef

end LigatureEnd

end FeatureService.Text
