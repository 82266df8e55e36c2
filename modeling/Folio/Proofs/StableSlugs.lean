import Folio.Proofs.ClusterCuts
import Folio.Proofs.LoweredText
import Folio.Proofs.SlugText

/-! # How stable a slug is

A slug is cleaned cluster by cluster, while its hyphens are collapsed and trimmed character by
character.  `slugOf_stable` says what comes of it for every text.  The hyphens are right always.
A blank is left in the slug where it shares a cluster with a letter that is prepended to what
follows it (`KeepsBlank`), and a mark is left to begin the slug where the hyphen that carried it is
trimmed (`StrandsMark`); a slug that begins with such a mark is the only one that is changed when
it is made again. -/

namespace Folio.Text

open Folio.Unicode

variable {c d : Char} {k cs u : List Char} {ks : List (List Char)}

/-- Whether a cluster that begins with the character is kept in a slug. -/
def isSlugChar (c : Char) : Bool := isAlphanumeric c || c = '-' || c = '_'

/-- Hyphens stand one by one, and between other characters only. -/
structure SpacedHyphens (cs : List Char) : Prop where
  start : cs.head? ≠ some '-'
  finish : cs.getLast? ≠ some '-'
  single : ¬ ['-', '-'] <:+: cs

/-- A kept cluster has a blank in it, which a character before it holds there. -/
def KeepsBlank (cs : List Char) : Prop :=
  ∃ k ∈ clusters (lowercase cs), (∃ c ∈ k.head?, isSlugChar c = true) ∧
    ∃ a b, [a, b] <:+: k ∧ clusterClass a = .prepend ∧ isBlank b = true

/-- The first of the clusters that put more than a hyphen into the slug is a hyphen with a mark that the
slug would not keep by itself. -/
def Strands (ks : List (List Char)) : Prop :=
  ∃ before m marks after, ks = before ++ ('-' :: m :: marks) :: after ∧
    (∀ k ∈ before, slugCluster k = [] ∨ slugCluster k = ['-']) ∧ isSlugChar m = false

/-- The hyphen that is trimmed from the start of the slug carries a mark that is not. -/
def StrandsMark (cs : List Char) : Prop := Strands (clusters (lowercase cs))

/-! ### Characters of slugs -/

/-- No letter or number is a blank, a control or a regional indicator. -/
theorem alphanumericRanges_apart :
    alphanumericRanges.apart (blankRanges ++ controlRanges ++ [(0x1F1E6, 0x1F1FF)]) = true := by
  decide +kernel

/-- A kept character of ASCII is no blank and of no class of its own; any other is a letter or a number. -/
theorem isSlugChar_cases (h : isSlugChar c = true) :
    (isBlank c = false ∧ clusterClass c = .other) ∨
      (blankRanges.contains c.toNat = false ∧ controlRanges.contains c.toNat = false ∧
        Ranges.contains [(0x1F1E6, 0x1F1FF)] c.toNat = false) := by
  by_cases hascii : c.toNat < 0x80
  · have hall : ∀ n < 0x80, isSlugChar (Char.ofNat n) = true →
        isBlank (Char.ofNat n) = false ∧ clusterClass (Char.ofNat n) = .other := by decide +kernel
    have hc := hall c.toNat hascii
    rw [Char.ofNat_toNat] at hc
    exact .inl (hc h)
  · have hhyphen : c ≠ '-' := by rintro rfl; exact hascii (by decide)
    have hline : c ≠ '_' := by rintro rfl; exact hascii (by decide)
    have hin : alphanumericRanges.contains c.toNat = true := by
      simpa [isSlugChar, isAlphanumeric, hascii, hhyphen, hline] using h
    have hout := Ranges.contains_eq_false alphanumericRanges_apart hin
    rw [Ranges.contains_append, Ranges.contains_append, Bool.or_eq_false_iff, Bool.or_eq_false_iff] at hout
    exact .inr ⟨hout.1.1, hout.1.2, hout.2⟩

theorem isBlank_eq_false_of_isSlugChar (h : isSlugChar c = true) : isBlank c = false := by
  rcases isSlugChar_cases h with hc | hc
  · exact hc.1
  · exact hc.1

theorem isControl_eq_false_of_isSlugChar (h : isSlugChar c = true) : (clusterClass c).isControl = false := by
  rcases isSlugChar_cases h with ⟨-, hother⟩ | ⟨-, hcontrol, -⟩
  · rw [hother]
    rfl
  · exact Bool.eq_false_iff.2 fun h => absurd (contains_of_isControl h) (by simp [hcontrol])

theorem ne_regional_of_isSlugChar (h : isSlugChar c = true) : clusterClass c ≠ .regional := by
  intro hclass
  rcases isSlugChar_cases h with ⟨-, hother⟩ | ⟨-, -, hregional⟩
  · exact absurd (hother.symm.trans hclass) ClusterClass.noConfusion
  · exact absurd (contains_of_regional hclass) (by simp [hregional])

/-- A blank is a control, or plain. -/
theorem isControl_or_isPlain (h : isBlank c = true) : (clusterClass c).isControl = true ∨ IsPlain c := by
  have hall : ∀ r ∈ blankRanges, ∀ n ∈ List.range' r.1 (r.2 + 1 - r.1),
      (clusterClass (Char.ofNat n)).isControl = true ∨ (clusterClass (Char.ofNat n) = .other ∧
        isPictograph (Char.ofNat n) = false ∧ isConjunctConsonant (Char.ofNat n) = false) := by
    decide +kernel
  obtain ⟨r, hr, hin⟩ := List.any_eq_true.1 h
  simp only [Bool.and_eq_true, decide_eq_true_eq] at hin
  have hc := hall r hr c.toNat (List.mem_range'_1.2 ⟨hin.1, by omega⟩)
  rw [Char.ofNat_toNat] at hc
  exact hc.imp_right fun ⟨h₁, h₂, h₃⟩ => ⟨h₁, h₂, h₃⟩

theorem isPlain_hyphen : IsPlain '-' := ⟨by decide, by decide, by decide +kernel⟩

/-! ### Clusters of slugs -/

theorem slugCluster_eq_self (h : isSlugChar c = true) (cs : List Char) : slugCluster (c :: cs) = c :: cs := by
  rw [slugCluster, isBlank_eq_false_of_isSlugChar h, if_neg Bool.false_ne_true]
  exact if_pos h

theorem slugCluster_of_not (h : ∀ c ∈ k.head?, isSlugChar c = false) :
    slugCluster k = [] ∨ slugCluster k = ['-'] := by
  cases k with
  | nil => exact .inl rfl
  | cons c k =>
    have hc := h c rfl
    unfold isSlugChar at hc
    rw [slugCluster, hc, if_neg Bool.false_ne_true]
    split
    · exact .inr rfl
    · exact .inl rfl

/-- A cluster is kept as it is, or adds a hyphen at most. -/
theorem slugCluster_cases (k : List Char) :
    (∃ c cs, k = c :: cs ∧ isSlugChar c = true ∧ slugCluster k = k) ∨
      ((∀ c ∈ k.head?, isSlugChar c = false) ∧ (slugCluster k = [] ∨ slugCluster k = ['-'])) := by
  by_cases h : ∀ c ∈ k.head?, isSlugChar c = false
  · exact .inr ⟨h, slugCluster_of_not h⟩
  · cases k with
    | nil => exact absurd (fun c hc => absurd hc (by simp)) h
    | cons c k =>
      have hc : isSlugChar c = true := by simpa using h
      exact .inl ⟨c, k, rfl, hc, slugCluster_eq_self hc k⟩

theorem cutsOnly_flatMap_slugCluster (hks : ∀ k ∈ ks, ∃ v, IsCluster v k) (u : List Char) :
    (∀ c ∈ (ks.flatMap slugCluster).head?, isSlugChar c = true) ∧
      CutsOnly (isSlugChar · = true) u (ks.flatMap slugCluster) := by
  have hhyphen : isSlugChar '-' = true := by decide
  induction ks generalizing u with
  | nil => exact ⟨fun c hc => absurd hc (by simp), trivial⟩
  | cons k ks ih =>
    have hrest := ih (fun l hl => hks l (List.mem_cons_of_mem _ hl))
    rw [List.flatMap_cons]
    rcases slugCluster_cases k with ⟨c, cs, rfl, hc, hkeep⟩ | ⟨-, hnil | hhyph⟩
    · obtain ⟨v, hv⟩ := hks _ List.mem_cons_self
      have hwhole := hv.moved (by rintro d ⟨⟩; exact ne_regional_of_isSlugChar hc) u
      rw [hkeep]
      refine ⟨by rintro d ⟨⟩; exact hc, ?_⟩
      exact (hwhole.imp fun d => False.elim).append (hrest u).1 (hrest _).2
    · rw [hnil]
      exact hrest u
    · rw [hhyph]
      refine ⟨by rintro d ⟨⟩; exact hhyphen, ?_⟩
      exact CutsOnly.append trivial (hrest u).1 (hrest _).2

/-- Whatever begins a cluster inside of the kept text is a character that slugs keep. -/
theorem cutsOnly_keptText (cs : List Char) : CutsOnly (isSlugChar · = true) [] (keptText cs) :=
  (cutsOnly_flatMap_slugCluster (fun _ => exists_isCluster) []).2

/-! ### Hyphens -/

theorem cutsOnly_collapseHyphens {p : Char → Prop} (h : CutsOnly p u cs) :
    CutsOnly p u (collapseHyphens cs) := by
  induction cs using collapseHyphens.induct generalizing u with
  | case1 => exact h
  | case2 c => exact h
  | case3 c d cs hhyphens ih =>
    rw [collapseHyphens, if_pos hhyphens]
    obtain ⟨-, rfl⟩ := hhyphens
    exact ih ((isPlain_hyphen.cutsOnly _ u).1 h.2)
  | case4 c d cs hhyphens ih =>
    rw [collapseHyphens, if_neg hhyphens]
    have hrest := ih h.2
    obtain ⟨rest, hd⟩ := collapseHyphens_cons d cs
    rw [hd] at hrest ⊢
    exact ⟨h.1, hrest⟩

theorem cutsOnly_dropWhile_hyphen {p : Char → Prop} (h : CutsOnly p [] cs) :
    CutsOnly p [] (cs.dropWhile (· = '-')) := by
  induction cs with
  | nil => trivial
  | cons c cs ih =>
    rw [List.dropWhile_cons]
    split
    · next hc =>
      obtain rfl : c = '-' := by simpa using hc
      refine ih ?_
      cases cs with
      | nil => trivial
      | cons d cs => exact ((isPlain_hyphen.bars []).cutsOnly_append []).1 h.2
    · exact h

/-- Whatever begins a cluster inside of a slug is a character that slugs keep. -/
theorem cutsOnly_slugChars (cs : List Char) : CutsOnly (isSlugChar · = true) [] (slugChars cs) := by
  have hdropped := cutsOnly_dropWhile_hyphen (cutsOnly_collapseHyphens (cutsOnly_keptText cs))
  obtain ⟨rest, hrest⟩ := trimMatches_isPrefix (· = '-') (collapseHyphens (keptText cs))
  rw [← hrest] at hdropped
  exact hdropped.of_append

theorem spacedHyphens_slugChars (cs : List Char) : SpacedHyphens (slugChars cs) where
  start h := by
    rw [slugChars_eq, head?_trimMatches] at h
    exact absurd (eq_false_of_mem_head?_dropWhile _ _ _ h) (by simp)
  finish h := absurd (getLast?_trimMatches _ _ _ h) (by simp)
  single h := not_infix_collapseHyphens _ (h.trans (trimMatches_isInfix _ _))

/-! ### The character that begins a slug -/

theorem ne_hyphen_of_isCluster {v m : List Char} (h : IsCluster v ('-' :: d :: m)) : d ≠ '-' := by
  rintro rfl
  have hprepend := eq_prepend_of_isBoundary_eq_false isPlain_hyphen.other isPlain_hyphen.notPictograph
    isPlain_hyphen.notConsonant (Bool.eq_false_iff.2 h.whole.1)
  exact absurd (isPlain_hyphen.other.symm.trans hprepend) ClusterClass.noConfusion

theorem strands_cons_of_not_kept (h : slugCluster k = [] ∨ slugCluster k = ['-']) :
    Strands (k :: ks) ↔ Strands ks := by
  constructor
  · rintro ⟨before, m, marks, after, heq, hbefore, hm⟩
    cases before with
    | nil =>
      obtain ⟨rfl, rfl⟩ := List.cons.inj heq
      rw [slugCluster_eq_self (by decide)] at h
      simp at h
    | cons l before =>
      obtain ⟨rfl, rfl⟩ := List.cons.inj heq
      exact ⟨before, m, marks, after, rfl, fun k hk => hbefore k (List.mem_cons_of_mem _ hk), hm⟩
  · rintro ⟨before, m, marks, after, rfl, hbefore, hm⟩
    exact ⟨k :: before, m, marks, after, rfl, List.forall_mem_cons.2 ⟨h, hbefore⟩, hm⟩

theorem strands_cons_of_kept (h : ¬ (slugCluster k = [] ∨ slugCluster k = ['-'])) :
    Strands (k :: ks) ↔ ∃ m marks, k = '-' :: m :: marks ∧ isSlugChar m = false := by
  constructor
  · rintro ⟨before, m, marks, after, heq, hbefore, hm⟩
    cases before with
    | nil => exact ⟨m, marks, (List.cons.inj heq).1, hm⟩
    | cons l before =>
      obtain ⟨rfl, -⟩ := List.cons.inj heq
      exact absurd (hbefore k List.mem_cons_self) h
  · rintro ⟨m, marks, rfl, hm⟩
    exact ⟨[], m, marks, ks, rfl, fun k hk => absurd hk List.not_mem_nil, hm⟩

/-- Behind the hyphens that are trimmed stands a character that slugs keep, if they strand no mark. -/
theorem isSlugChar_head?_iff (hks : ∀ k ∈ ks, ∃ v, IsCluster v k) :
    (∀ c ∈ ((ks.flatMap slugCluster).dropWhile (· = '-')).head?, isSlugChar c = true) ↔ ¬ Strands ks := by
  induction ks with
  | nil =>
    refine iff_of_true (fun c hc => absurd hc (by simp)) ?_
    rintro ⟨before, m, marks, after, heq, -⟩
    exact absurd heq (by simp)
  | cons k ks ih =>
    have hrest := ih fun l hl => hks l (List.mem_cons_of_mem _ hl)
    rw [List.flatMap_cons]
    by_cases hk : slugCluster k = [] ∨ slugCluster k = ['-']
    · rw [strands_cons_of_not_kept hk, ← hrest]
      rcases hk with hk | hk <;> rw [hk] <;> rfl
    · rw [strands_cons_of_kept hk]
      rcases slugCluster_cases k with ⟨c, cs, rfl, hc, hkeep⟩ | ⟨-, hnot⟩
      · rw [hkeep] at hk ⊢
        by_cases hhyphen : c = '-'
        · subst hhyphen
          cases cs with
          | nil => exact absurd (.inr rfl) hk
          | cons m marks =>
            obtain ⟨v, hv⟩ := hks _ List.mem_cons_self
            have hm := ne_hyphen_of_isCluster hv
            simp [hm]
        · simp [hhyphen, hc]
      · exact absurd hnot hk

/-- All clusters of a slug begin with a character that slugs keep, if it strands no mark. -/
theorem isSlugChar_clusters_iff (cs : List Char) :
    (∀ k ∈ clusters (slugChars cs), ∀ c ∈ k.head?, isSlugChar c = true) ↔ ¬ StrandsMark cs := by
  rw [forall_head?_clusters (isSlugChar · = true), and_iff_left (cutsOnly_slugChars cs), head?_slugChars]
  exact isSlugChar_head?_iff fun _ => exists_isCluster

/-! ### Blanks -/

theorem mem_slugChars_iff (hc : c ≠ '-') : c ∈ slugChars cs ↔ c ∈ keptText cs := by
  have hfilter := congrArg (c ∈ ·) (filter_slugChars cs)
  simpa [hc] using hfilter

theorem exists_infix_of_mem_tail {a : Char} (h : c ∈ cs) : ∃ b, [b, c] <:+: a :: cs := by
  induction cs generalizing a with
  | nil => exact absurd h List.not_mem_nil
  | cons d cs ih =>
    rcases List.mem_cons.1 h with rfl | h
    · exact ⟨a, [], cs, rfl⟩
    · obtain ⟨b, hb⟩ := ih (a := d) h
      exact ⟨b, List.infix_cons hb⟩

theorem isBoundary_eq_false_of_infix {v : List Char} {a b : Char} (h : IsCluster v k) (hab : [a, b] <:+: k) :
    ∃ u, isBoundary u a b = false := by
  obtain ⟨u, hu⟩ := h.whole.of_infix hab
  exact ⟨u, Bool.eq_false_iff.2 hu⟩

/-- A blank in a cluster that begins with a kept character stands behind a prepended one. -/
theorem exists_prepend_of_isBlank {v : List Char} (h : IsCluster v (c :: k)) (hc : isSlugChar c = true)
    (hd : d ∈ k) (hblank : isBlank d = true) : ∃ a, [a, d] <:+: c :: k ∧ clusterClass a = .prepend := by
  obtain ⟨a, ha⟩ := exists_infix_of_mem_tail (a := c) hd
  obtain ⟨u, hu⟩ := isBoundary_eq_false_of_infix h ha
  rcases isControl_or_isPlain hblank with hcontrol | hplain
  · -- a line feed behind a carriage return, which nothing stands before
    obtain ⟨hreturn, -⟩ := isBoundary_eq_false_of_isControl hcontrol hu
    have ha : a ∈ c :: k := ha.subset List.mem_cons_self
    rcases List.mem_cons.1 ha with rfl | ha
    · exact absurd (isControl_eq_false_of_isSlugChar hc) (by simp [hreturn, ClusterClass.isControl])
    · obtain ⟨b, hb⟩ := exists_infix_of_mem_tail (a := c) ha
      obtain ⟨u', hu'⟩ := isBoundary_eq_false_of_infix h hb
      have hfeed := (isBoundary_eq_false_of_isControl (by rw [hreturn]; rfl) hu').2
      exact absurd (hreturn.symm.trans hfeed) (by decide)
  · refine ⟨a, ha, ?_⟩
    exact eq_prepend_of_isBoundary_eq_false hplain.other hplain.notPictograph hplain.notConsonant hu

theorem exists_isBlank_slugChars_iff (cs : List Char) :
    (∃ c ∈ slugChars cs, isBlank c = true) ↔ KeepsBlank cs := by
  have hne : ∀ c, isBlank c = true → c ≠ '-' := by
    rintro c hc rfl
    exact absurd hc (by decide)
  constructor
  · rintro ⟨d, hd, hblank⟩
    obtain ⟨k, hk, hd⟩ := List.mem_flatMap.1 ((mem_slugChars_iff (hne d hblank)).1 hd)
    rcases slugCluster_cases k with ⟨c, l, rfl, hc, hkeep⟩ | ⟨-, hnot⟩
    · rw [hkeep] at hd
      obtain ⟨v, hv⟩ := exists_isCluster hk
      rcases List.mem_cons.1 hd with rfl | hd
      · exact absurd hblank (by simp [isBlank_eq_false_of_isSlugChar hc])
      · obtain ⟨a, ha, hprepend⟩ := exists_prepend_of_isBlank hv hc hd hblank
        exact ⟨_, hk, ⟨c, rfl, hc⟩, a, d, ha, hprepend, hblank⟩
    · rcases hnot with hnot | hnot <;> rw [hnot] at hd <;> simp [hne d hblank] at hd
  · rintro ⟨k, hk, ⟨c, hhead, hc⟩, a, b, hab, -, hblank⟩
    refine ⟨b, (mem_slugChars_iff (hne b hblank)).2 (List.mem_flatMap.2 ⟨k, hk, ?_⟩), hblank⟩
    obtain ⟨l, rfl⟩ := List.head?_eq_some_iff.1 hhead
    rw [slugCluster_eq_self hc]
    exact hab.subset (by simp)

/-! ### The slug of a slug -/

theorem isLowered_of_mem_slugChars (h : c ∈ slugChars cs) : IsLowered c := by
  rcases mem_slugChars h with rfl | h
  · exact ⟨by decide, rfl⟩
  · exact isLowered_of_mem_lowercase h

theorem keptText_slugChars (cs : List Char) :
    keptText (slugChars cs) = (clusters (slugChars cs)).flatMap slugCluster := by
  rw [keptText, lowercase_eq_self fun _ => isLowered_of_mem_slugChars]

theorem flatMap_slugCluster_eq_flatten (h : ∀ k ∈ ks, ∀ c ∈ k.head?, isSlugChar c = true) :
    ks.flatMap slugCluster = ks.flatten := by
  rw [List.flatten_eq_flatMap]
  refine List.flatMap_congr fun k hk => ?_
  cases k with
  | nil => rfl
  | cons c k => exact slugCluster_eq_self (h _ hk c rfl) k

/-- How many characters other than hyphens stand in a text. -/
def otherCount (cs : List Char) : Nat := cs.countP (· ≠ '-')

theorem otherCount_slugCluster_le (k : List Char) : otherCount (slugCluster k) ≤ otherCount k := by
  rcases slugCluster_cases k with ⟨-, -, -, -, hkeep⟩ | ⟨-, hnot⟩
  · rw [hkeep]
  · rcases hnot with hnot | hnot <;> rw [hnot] <;> exact Nat.zero_le _

theorem otherCount_flatMap_le (ks : List (List Char)) :
    otherCount (ks.flatMap slugCluster) ≤ otherCount ks.flatten := by
  induction ks with
  | nil => exact Nat.le_refl _
  | cons k ks ih =>
    have hk := otherCount_slugCluster_le k
    unfold otherCount at *
    rw [List.flatMap_cons, List.flatten_cons, List.countP_append, List.countP_append]
    omega

/-- A cluster that slugs do not keep takes its first character with it. -/
theorem otherCount_flatMap_lt (hk : k ∈ ks) (hc : c ∈ k.head?) (hnot : isSlugChar c = false) :
    otherCount (ks.flatMap slugCluster) < otherCount ks.flatten := by
  have hlost : otherCount (slugCluster k) < otherCount k := by
    obtain ⟨l, rfl⟩ := List.head?_eq_some_iff.1 hc
    have hother : c ≠ '-' := by rintro rfl; exact absurd hnot (by decide)
    have hzero : otherCount (slugCluster (c :: l)) = 0 := by
      rcases slugCluster_of_not (k := c :: l) (by rintro d ⟨⟩; exact hnot) with h | h <;> rw [h] <;> rfl
    rw [hzero, otherCount, List.countP_cons_of_pos (by simpa using hother)]
    exact Nat.succ_pos _
  obtain ⟨before, after, rfl⟩ := List.append_of_mem hk
  have hbefore := otherCount_flatMap_le before
  have hafter := otherCount_flatMap_le after
  unfold otherCount at *
  simp only [List.flatMap_append, List.flatMap_cons, List.flatten_append, List.flatten_cons, List.countP_append]
  omega

theorem slugChars_slugChars_iff (cs : List Char) :
    slugChars (slugChars cs) = slugChars cs ↔ ¬ StrandsMark cs := by
  rw [← isSlugChar_clusters_iff]
  constructor
  · intro hsame k hk c hc
    by_contra hnot
    have hlt := otherCount_flatMap_lt hk hc (Bool.eq_false_iff.2 hnot)
    have hkept := congrArg List.length (filter_slugChars (slugChars cs))
    rw [hsame, keptText_slugChars, ← List.countP_eq_length_filter, ← List.countP_eq_length_filter] at hkept
    rw [flatten_clusters] at hlt
    unfold otherCount at hlt
    omega
  · intro hheads
    have hspaced := spacedHyphens_slugChars cs
    refine slugChars_eq_self ?_ hspaced.start hspaced.finish hspaced.single
    rw [keptText_slugChars, flatMap_slugCluster_eq_flatten hheads, flatten_clusters]

/-! ### What holds of every slug -/

/-- Hyphens stand one by one, and between other characters of the slug only.  There is a blank in it
exactly if the text keeps one.  Its clusters all begin with a letter, a number, a hyphen or an
underscore exactly if the text strands no mark, and exactly then the slug is its own slug. -/
theorem slugOf_stable (t : String) :
    SpacedHyphens (slugOf t).toList ∧
      ((∃ c ∈ (slugOf t).toList, isBlank c = true) ↔ KeepsBlank t.toList) ∧
      ((∀ k ∈ clusters (slugOf t).toList, ∀ c ∈ k.head?, isSlugChar c = true) ↔ ¬ StrandsMark t.toList) ∧
      (slugOf (slugOf t) = slugOf t ↔ ¬ StrandsMark t.toList) := by
  unfold slugOf
  rw [String.toList_ofList, String.ofList_inj]
  exact ⟨spacedHyphens_slugChars _, exists_isBlank_slugChars_iff _, isSlugChar_clusters_iff _,
    slugChars_slugChars_iff _⟩

/-- A blank behind a Malayalam dot reph is kept; an accent on a leading hyphen begins the slug, and is
lost when the slug is made again. -/
theorem exists_unstable_slug :
    (∃ c ∈ (slugOf "\u0d4e a").toList, isBlank c = true) ∧
      (∃ k ∈ clusters (slugOf "-\u0301a").toList, ∃ c ∈ k.head?, isSlugChar c = false) ∧
        slugOf (slugOf "-\u0301a") ≠ slugOf "-\u0301a" := by
  have hreph : ' ' ∈ (slugOf "\u0d4e a").toList ∧ isBlank ' ' = true := by decide +kernel
  have haccent : ['\u0301'] ∈ clusters (slugOf "-\u0301a").toList ∧ isSlugChar '\u0301' = false := by
    decide +kernel
  exact ⟨⟨_, hreph.1, hreph.2⟩, ⟨_, haccent.1, _, rfl, haccent.2⟩, by decide +kernel⟩

end Folio.Text
