import Folio.Unicode.Lowercase

/-! # Case folding

Two texts are the same without regard to case when their foldings agree.  Folding takes each character
by itself to its lower-case form, but for three kinds of character: those with several lower-case
forms are folded to one of them, those without an upper case of one character are spelled out (the
sharp s becomes two), and the Cherokee letters are folded to their capitals. -/

namespace Folio.Unicode

/-- The characters that fold to one character other than their lower-case form. -/
def foldRuns : List CaseRun :=
  [⟨0x00B5, 0x00B5, 1, 775⟩, ⟨0x017F, 0x017F, 1, -268⟩, ⟨0x0345, 0x0345, 1, 116⟩,
   ⟨0x03C2, 0x03C2, 1, 1⟩, ⟨0x03D0, 0x03D0, 1, -30⟩, ⟨0x03D1, 0x03D1, 1, -25⟩, ⟨0x03D5, 0x03D5, 1, -15⟩,
   ⟨0x03D6, 0x03D6, 1, -22⟩, ⟨0x03F0, 0x03F0, 1, -54⟩, ⟨0x03F1, 0x03F1, 1, -48⟩,
   ⟨0x03F5, 0x03F5, 1, -64⟩, ⟨0x13A0, 0x13F5, 1, 0⟩, ⟨0x13F8, 0x13FD, 1, -8⟩,
   ⟨0x1C80, 0x1C80, 1, -6222⟩, ⟨0x1C81, 0x1C81, 1, -6221⟩, ⟨0x1C82, 0x1C82, 1, -6212⟩,
   ⟨0x1C83, 0x1C84, 1, -6210⟩, ⟨0x1C85, 0x1C85, 1, -6211⟩, ⟨0x1C86, 0x1C86, 1, -6204⟩,
   ⟨0x1C87, 0x1C87, 1, -6180⟩, ⟨0x1C88, 0x1C88, 1, 35267⟩, ⟨0x1E9B, 0x1E9B, 1, -58⟩,
   ⟨0x1FBE, 0x1FBE, 1, -7173⟩, ⟨0xAB70, 0xABBF, 1, -38864⟩]

/-- The characters that fold to several. -/
def foldExpansions : List (Nat × List Nat) :=
  [(0x00DF, [0x0073, 0x0073]), (0x0149, [0x02BC, 0x006E]), (0x01F0, [0x006A, 0x030C]),
   (0x0390, [0x03B9, 0x0308, 0x0301]), (0x03B0, [0x03C5, 0x0308, 0x0301]),
   (0x0587, [0x0565, 0x0582]), (0x1E96, [0x0068, 0x0331]), (0x1E97, [0x0074, 0x0308]),
   (0x1E98, [0x0077, 0x030A]), (0x1E99, [0x0079, 0x030A]), (0x1E9A, [0x0061, 0x02BE]),
   (0x1E9E, [0x0073, 0x0073]), (0x1F50, [0x03C5, 0x0313]), (0x1F52, [0x03C5, 0x0313, 0x0300]),
   (0x1F54, [0x03C5, 0x0313, 0x0301]), (0x1F56, [0x03C5, 0x0313, 0x0342]),
   (0x1F80, [0x1F00, 0x03B9]), (0x1F81, [0x1F01, 0x03B9]), (0x1F82, [0x1F02, 0x03B9]),
   (0x1F83, [0x1F03, 0x03B9]), (0x1F84, [0x1F04, 0x03B9]), (0x1F85, [0x1F05, 0x03B9]),
   (0x1F86, [0x1F06, 0x03B9]), (0x1F87, [0x1F07, 0x03B9]), (0x1F88, [0x1F00, 0x03B9]),
   (0x1F89, [0x1F01, 0x03B9]), (0x1F8A, [0x1F02, 0x03B9]), (0x1F8B, [0x1F03, 0x03B9]),
   (0x1F8C, [0x1F04, 0x03B9]), (0x1F8D, [0x1F05, 0x03B9]), (0x1F8E, [0x1F06, 0x03B9]),
   (0x1F8F, [0x1F07, 0x03B9]), (0x1F90, [0x1F20, 0x03B9]), (0x1F91, [0x1F21, 0x03B9]),
   (0x1F92, [0x1F22, 0x03B9]), (0x1F93, [0x1F23, 0x03B9]), (0x1F94, [0x1F24, 0x03B9]),
   (0x1F95, [0x1F25, 0x03B9]), (0x1F96, [0x1F26, 0x03B9]), (0x1F97, [0x1F27, 0x03B9]),
   (0x1F98, [0x1F20, 0x03B9]), (0x1F99, [0x1F21, 0x03B9]), (0x1F9A, [0x1F22, 0x03B9]),
   (0x1F9B, [0x1F23, 0x03B9]), (0x1F9C, [0x1F24, 0x03B9]), (0x1F9D, [0x1F25, 0x03B9]),
   (0x1F9E, [0x1F26, 0x03B9]), (0x1F9F, [0x1F27, 0x03B9]), (0x1FA0, [0x1F60, 0x03B9]),
   (0x1FA1, [0x1F61, 0x03B9]), (0x1FA2, [0x1F62, 0x03B9]), (0x1FA3, [0x1F63, 0x03B9]),
   (0x1FA4, [0x1F64, 0x03B9]), (0x1FA5, [0x1F65, 0x03B9]), (0x1FA6, [0x1F66, 0x03B9]),
   (0x1FA7, [0x1F67, 0x03B9]), (0x1FA8, [0x1F60, 0x03B9]), (0x1FA9, [0x1F61, 0x03B9]),
   (0x1FAA, [0x1F62, 0x03B9]), (0x1FAB, [0x1F63, 0x03B9]), (0x1FAC, [0x1F64, 0x03B9]),
   (0x1FAD, [0x1F65, 0x03B9]), (0x1FAE, [0x1F66, 0x03B9]), (0x1FAF, [0x1F67, 0x03B9]),
   (0x1FB2, [0x1F70, 0x03B9]), (0x1FB3, [0x03B1, 0x03B9]), (0x1FB4, [0x03AC, 0x03B9]),
   (0x1FB6, [0x03B1, 0x0342]), (0x1FB7, [0x03B1, 0x0342, 0x03B9]), (0x1FBC, [0x03B1, 0x03B9]),
   (0x1FC2, [0x1F74, 0x03B9]), (0x1FC3, [0x03B7, 0x03B9]), (0x1FC4, [0x03AE, 0x03B9]),
   (0x1FC6, [0x03B7, 0x0342]), (0x1FC7, [0x03B7, 0x0342, 0x03B9]), (0x1FCC, [0x03B7, 0x03B9]),
   (0x1FD2, [0x03B9, 0x0308, 0x0300]), (0x1FD3, [0x03B9, 0x0308, 0x0301]),
   (0x1FD6, [0x03B9, 0x0342]), (0x1FD7, [0x03B9, 0x0308, 0x0342]),
   (0x1FE2, [0x03C5, 0x0308, 0x0300]), (0x1FE3, [0x03C5, 0x0308, 0x0301]),
   (0x1FE4, [0x03C1, 0x0313]), (0x1FE6, [0x03C5, 0x0342]), (0x1FE7, [0x03C5, 0x0308, 0x0342]),
   (0x1FF2, [0x1F7C, 0x03B9]), (0x1FF3, [0x03C9, 0x03B9]), (0x1FF4, [0x03CE, 0x03B9]),
   (0x1FF6, [0x03C9, 0x0342]), (0x1FF7, [0x03C9, 0x0342, 0x03B9]), (0x1FFC, [0x03C9, 0x03B9]),
   (0xFB00, [0x0066, 0x0066]), (0xFB01, [0x0066, 0x0069]), (0xFB02, [0x0066, 0x006C]),
   (0xFB03, [0x0066, 0x0066, 0x0069]), (0xFB04, [0x0066, 0x0066, 0x006C]),
   (0xFB05, [0x0073, 0x0074]), (0xFB06, [0x0073, 0x0074]), (0xFB13, [0x0574, 0x0576]),
   (0xFB14, [0x0574, 0x0565]), (0xFB15, [0x0574, 0x056B]), (0xFB16, [0x057E, 0x0576]),
   (0xFB17, [0x0574, 0x056D])]

/-- The folding of one character. -/
def foldChar (c : Char) : List Char :=
  let n := c.toNat
  if n < 0x80 then [c.toLower]
  else
    match foldExpansions.lookup n with
    | some parts => parts.map Char.ofNat
    | none =>
      match CaseRun.image? foldRuns n with
      | some folded => [folded]
      | none => lowerChar c

/-- The folding of a text. -/
def fold (cs : List Char) : List Char := cs.flatMap foldChar

end Folio.Unicode
