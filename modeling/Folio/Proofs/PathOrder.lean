import Folio.Path.Basic
import Mathlib.Tactic.SplitIfs

/-! # The order of paths

Paths are compared by the code points of their texts, and this is the order of their UTF-8 bytes
(`ContentPath.isLE_iff`).  The first byte of a character tells how many follow, and it is greater the more
there are; so of two characters the one with the smaller code point has the smaller bytes, whatever follows
(`utf8EncodeChar_append_lt`), and a text is decided where its first two different characters stand. -/

namespace Folio

/-! ### Characters -/

/-- The bytes of a smaller character stand before those of a greater one, whatever follows them. -/
theorem utf8EncodeChar_append_lt {c d : Char} (h : c < d) (x y : List UInt8) :
    String.utf8EncodeChar c ++ x < String.utf8EncodeChar d ++ y := by
  have hlt : c.val.toNat < d.val.toNat := h
  have hmax : d.val.toNat < 1114112 := by
    have := d.valid
    simp only [UInt32.isValidChar, Nat.isValidChar] at this
    omega
  -- the digits of a code point in base 64, each from the one above it
  have hdigit : ∀ v : Nat, v / 4096 = v / 64 / 64 := fun v => by omega
  have hdigit' : ∀ v : Nat, v / 262144 = v / 64 / 64 / 64 := fun v => by omega
  unfold String.utf8EncodeChar
  dsimp only
  split_ifs <;>
    simp only [List.cons_append, List.nil_append, List.cons_lt_cons_iff, UInt8.lt_iff_toNat_lt,
      ← UInt8.toNat_inj, UInt8.toNat_ofNat', hdigit, hdigit'] <;>
    omega

/-! ### Texts -/

/-- The UTF-8 bytes of a text. -/
def utf8Bytes (cs : List Char) : List UInt8 := cs.flatMap String.utf8EncodeChar

theorem utf8Bytes_lt {cs ds : List Char} (h : cs < ds) : utf8Bytes cs < utf8Bytes ds := by
  induction cs generalizing ds with
  | nil =>
    cases ds with
    | nil => exact absurd h (List.lt_irrefl [])
    | cons d ds =>
      have hne : String.utf8EncodeChar d ≠ [] := String.utf8EncodeChar_ne_nil
      obtain ⟨b, bs, hd⟩ := List.exists_cons_of_ne_nil hne
      rw [utf8Bytes, utf8Bytes, List.flatMap_cons, hd]
      exact List.nil_lt_cons _ _
  | cons c cs ih =>
    cases ds with
    | nil => exact absurd h (List.not_lt_nil _)
    | cons d ds =>
      rw [utf8Bytes, utf8Bytes, List.flatMap_cons, List.flatMap_cons]
      rcases List.cons_lt_cons_iff.mp h with hlt | ⟨rfl, hlt⟩
      · exact utf8EncodeChar_append_lt hlt _ _
      · exact List.append_left_lt (ih hlt)

/-- Texts stand in the order of their bytes. -/
theorem utf8Bytes_lt_iff {cs ds : List Char} : utf8Bytes cs < utf8Bytes ds ↔ cs < ds := by
  refine ⟨fun h => ?_, utf8Bytes_lt⟩
  rcases Std.lt_trichotomy cs ds with hlt | rfl | hgt
  · exact hlt
  · exact absurd h (List.lt_irrefl _)
  · exact absurd (List.lt_trans h (utf8Bytes_lt hgt)) (List.lt_irrefl _)

/-! ### Paths -/

namespace ContentPath

/-- The UTF-8 bytes of the text of a path. -/
def bytes (p : ContentPath) : List UInt8 := p.text.toUTF8.data.toList

theorem bytes_eq (p : ContentPath) : p.bytes = utf8Bytes p.text.toList := by
  rw [bytes, String.toUTF8_eq_toByteArray, ← String.utf8Encode_toList, List.utf8Encode, List.data_toByteArray]
  rfl

/-- Paths are compared byte by byte. -/
theorem isLE_iff {p q : ContentPath} : (compare p q).isLE ↔ p.bytes ≤ q.bytes := by
  have hcompare : compare p q = compareOfLessAndEq p.text q.text := rfl
  have hlt : q.bytes < p.bytes ↔ q.text < p.text := by
    rw [bytes_eq, bytes_eq, utf8Bytes_lt_iff]
    rfl
  rw [← List.not_lt, hlt, hcompare, isLE_compareOfLessAndEq String.le_antisymm String.not_le String.le_total,
    String.not_lt]

end ContentPath

end Folio
