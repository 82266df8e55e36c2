import Folio.Unicode.Lowercase
import Mathlib.Data.List.Basic

/-! # Text in lower case

Lower case is reached in one step: no character of a lowered text is moved again, and the capital
sigma, whose form depends on its neighbours, does not stand in one.  For the table of runs this is
a comparison of intervals: the images of one run lie beside every run, or between the characters of
a run that takes every second one. -/

namespace Folio.Unicode

/-! ### Runs of the table -/

namespace CaseRun

variable {r s : CaseRun} {n : Nat}

/-- The run moves the code point. -/
structure Holds (r : CaseRun) (n : Nat) : Prop where
  first_le : r.first ≤ n
  le_last : n ≤ r.last
  onStep : (n - r.first) % r.step = 0

/-- The image of the first code point of a run. -/
def low (r : CaseRun) : Nat := Int.toNat (r.first + r.shift)

/-- The image of the last code point of a run. -/
def high (r : CaseRun) : Nat := Int.toNat (r.last + r.shift)

/-- Whether a run has an image at every second code point at most. -/
def isSparse (r : CaseRun) : Bool := r.step == 2 || r.first == r.last

/-- Whether `s` moves none of the code points from `low` to `high`, or, if these are `sparse`, none
of every second one of them. -/
def avoids (s : CaseRun) (low high : Nat) (sparse : Bool) : Bool :=
  high.blt s.first || s.last.blt low || (sparse && s.step == 2 && (low + s.first) % 2 == 1)

/-- Whether the images of a run are characters, and small letters where they are in ASCII. -/
def isSound (r : CaseRun) : Bool :=
  (0 ≤ r.first + r.shift) && (r.high < 0xD800 || (0xE000 ≤ r.low && r.high < 0x110000)) &&
    (0x80 ≤ r.low || (0x61 ≤ r.low && r.high ≤ 0x7A))

theorem image?_eq_some {runs : List CaseRun} {d : Char} (h : image? runs n = some d) :
    ∃ r ∈ runs, r.Holds n ∧ d = Char.ofNat (Int.toNat (n + r.shift)) := by
  unfold image? at h
  rw [Option.map_eq_some_iff] at h
  obtain ⟨r, hfind, hd⟩ := h
  have hp := List.find?_some hfind
  simp only [Bool.and_eq_true, decide_eq_true_eq, beq_iff_eq] at hp
  exact ⟨r, List.mem_of_find?_eq_some hfind, ⟨hp.1.1, hp.1.2, hp.2⟩, hd.symm⟩

theorem image?_eq_none {runs : List CaseRun} (h : ∀ r ∈ runs, ¬ r.Holds n) : image? runs n = none := by
  unfold image?
  rw [Option.map_eq_none_iff, List.find?_eq_none]
  intro r hr hp
  simp only [Bool.and_eq_true, decide_eq_true_eq, beq_iff_eq] at hp
  exact h r hr ⟨hp.1.1, hp.1.2, hp.2⟩

theorem Holds.image_not_holds (hr : r.Holds n) (hsound : 0 ≤ (r.first : Int) + r.shift)
    (h : s.avoids r.low r.high r.isSparse = true) : ¬ s.Holds (Int.toNat (n + r.shift)) := by
  intro hs
  obtain ⟨hfirst, hlast, hstep⟩ := hr
  obtain ⟨hfirst', hlast', hstep'⟩ := hs
  simp only [avoids, isSparse, low, high, Bool.or_eq_true, Bool.and_eq_true, Nat.blt_eq, beq_iff_eq] at h
  obtain (hbefore | hafter) | ⟨⟨hsparse, hsecond⟩, hodd⟩ := h
  · omega
  · omega
  · -- the images and `s` take every second code point, and start on different parities
    rw [hsecond] at hstep'
    rcases hsparse with hr | hr
    · rw [hr] at hstep
      omega
    · omega

theorem Holds.toNat_image (hr : r.Holds n) (h : r.isSound = true) :
    (Char.ofNat (Int.toNat (n + r.shift))).toNat = Int.toNat (n + r.shift) := by
  obtain ⟨hfirst, hlast, -⟩ := hr
  simp only [isSound, Bool.and_eq_true, Bool.or_eq_true, decide_eq_true_eq] at h
  have hvalid : (Int.toNat (n + r.shift)).isValidChar := by
    simp only [low, high] at h
    unfold Nat.isValidChar
    omega
  rw [Char.ofNat, dif_pos hvalid]
  rfl

end CaseRun

/-- The dotted capital, whose form is of two characters, as one more run. -/
def movedRuns : List CaseRun := ⟨0x130, 0x130, 2, 0⟩ :: lowerRuns

theorem lowerRuns_settled :
    (lowerRuns.all fun r => r.isSound && movedRuns.all (CaseRun.avoids · r.low r.high r.isSparse)) = true := by
  decide +kernel

/-! ### Lowered characters -/

/-- A character that stays as it is when a text is lowered, wherever it stands. -/
structure IsLowered (c : Char) : Prop where
  notSigma : c.toNat ≠ 0x3A3
  lowerChar_eq : lowerChar c = [c]

instance (c : Char) : Decidable (IsLowered c) :=
  decidable_of_iff (c.toNat ≠ 0x3A3 ∧ lowerChar c = [c]) ⟨fun h => ⟨h.1, h.2⟩, fun h => ⟨h.1, h.2⟩⟩

variable {c d : Char} {cs : List Char}

theorem isLowered_toLower_of_lt (h : c.toNat < 0x80) : IsLowered c.toLower := by
  have hascii : ∀ n < 0x80, IsLowered (Char.ofNat n).toLower := by decide +kernel
  have hlower := hascii c.toNat h
  rwa [Char.ofNat_toNat] at hlower

theorem isLowered_of_small (hlow : 0x61 ≤ c.toNat) (hhigh : c.toNat ≤ 0x7A) : IsLowered c := by
  have hself : c.toLower = c := by
    unfold Char.toLower
    rw [dif_neg]
    intro hupper
    have hle : c.toNat ≤ 0x5A := hupper.2
    omega
  rw [← hself]
  exact isLowered_toLower_of_lt (by omega)

theorem isLowered_of_not_holds (hc : 0x80 ≤ c.toNat) (h : ∀ r ∈ movedRuns, ¬ r.Holds c.toNat) :
    IsLowered c := by
  have hdotted : c.toNat ≠ 0x130 := fun heq =>
    h ⟨0x130, 0x130, 2, 0⟩ List.mem_cons_self ⟨by simp [heq], by simp [heq], by simp [heq]⟩
  refine ⟨fun hsigma => ?_, ?_⟩
  · have hrun : movedRuns[70]? = some ⟨0x3A3, 0x3AB, 1, 32⟩ := rfl
    exact h _ (List.mem_of_getElem? hrun) ⟨by simp [hsigma], by simp [hsigma], by simp [hsigma]⟩
  · have himage : CaseRun.image? lowerRuns c.toNat = none :=
      CaseRun.image?_eq_none fun r hr => h r (List.mem_cons_of_mem _ hr)
    simp only [lowerChar, Nat.not_lt.2 hc, hdotted, if_false, himage]

theorem isLowered_image {r : CaseRun} {n : Nat} (hr : r ∈ lowerRuns) (hn : r.Holds n) :
    IsLowered (Char.ofNat (Int.toNat (n + r.shift))) := by
  have hr := List.all_eq_true.1 lowerRuns_settled r hr
  rw [Bool.and_eq_true] at hr
  obtain ⟨hsound, havoid⟩ := hr
  have hnat := hn.toNat_image hsound
  simp only [CaseRun.isSound, Bool.and_eq_true, Bool.or_eq_true, decide_eq_true_eq] at hsound
  obtain ⟨⟨hshift, -⟩, habove | ⟨hlow, hhigh⟩⟩ := hsound
  · refine isLowered_of_not_holds ?_ fun s hs => ?_
    · rw [hnat]
      have hfirst := hn.first_le
      unfold CaseRun.low at habove
      omega
    · rw [hnat]
      exact hn.image_not_holds hshift (List.all_eq_true.1 havoid s hs)
  · obtain ⟨hfirst, hlast, -⟩ := hn
    unfold CaseRun.low at hlow
    unfold CaseRun.high at hhigh
    exact isLowered_of_small (by omega) (by omega)

/-- The letter and the dot of the dotted capital, and the two forms of the capital sigma. -/
theorem isLowered_forms : IsLowered 'i' ∧ IsLowered (Char.ofNat 0x307) ∧ IsLowered (Char.ofNat 0x3C2) ∧
    IsLowered (Char.ofNat 0x3C3) := by
  decide +kernel

theorem isLowered_of_mem_lowerChar (hc : c.toNat ≠ 0x3A3) (h : d ∈ lowerChar c) : IsLowered d := by
  unfold lowerChar at h
  by_cases hascii : c.toNat < 0x80
  · rw [if_pos hascii, List.mem_singleton] at h
    exact h ▸ isLowered_toLower_of_lt hascii
  rw [if_neg hascii] at h
  by_cases hdotted : c.toNat = 0x130
  · rw [if_pos hdotted, List.mem_pair] at h
    rcases h with rfl | rfl
    · exact isLowered_forms.1
    · exact isLowered_forms.2.1
  rw [if_neg hdotted] at h
  cases himage : CaseRun.image? lowerRuns c.toNat with
  | none =>
    rw [himage, List.mem_singleton] at h
    refine h ▸ ⟨hc, ?_⟩
    simp only [lowerChar, hascii, hdotted, if_false, himage]
  | some e =>
    rw [himage, List.mem_singleton] at h
    subst h
    obtain ⟨r, hr, hholds, rfl⟩ := CaseRun.image?_eq_some himage
    exact isLowered_image hr hholds

theorem lowercase_eq_self (h : ∀ c ∈ cs, IsLowered c) : lowercase cs = cs := by
  suffices hfrom : ∀ before, lowerFrom before cs = cs from hfrom []
  induction cs with
  | nil => exact fun _ => rfl
  | cons c cs ih =>
    intro before
    have hc := h c List.mem_cons_self
    rw [lowerFrom, if_neg hc.notSigma, hc.lowerChar_eq, ih fun d hd => h d (List.mem_cons_of_mem _ hd)]
    rfl

theorem isLowered_of_mem_lowercase (h : d ∈ lowercase cs) : IsLowered d := by
  suffices hfrom : ∀ before, d ∈ lowerFrom before cs → IsLowered d from hfrom [] h
  clear h
  induction cs with
  | nil => exact fun _ hd => absurd hd List.not_mem_nil
  | cons c cs ih =>
    intro before hd
    rw [lowerFrom, List.mem_append] at hd
    rcases hd with hd | hd
    · by_cases hsigma : c.toNat = 0x3A3
      · rw [if_pos hsigma, List.mem_singleton] at hd
        subst hd
        split
        · exact isLowered_forms.2.2.1
        · exact isLowered_forms.2.2.2
      · rw [if_neg hsigma] at hd
        exact isLowered_of_mem_lowerChar hsigma hd
    · exact ih _ hd

end Folio.Unicode
