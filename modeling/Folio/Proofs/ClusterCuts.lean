import Folio.Unicode.Grapheme
import Mathlib.Data.List.Basic
import Mathlib.Data.List.Infix

/-! # Where clusters begin

Whether a cluster begins between two characters depends on what stands before them, at any distance.
`CutsOnly` says of a text which characters may begin a cluster in it.  Inside of one cluster nothing
is cut, and this stays so when the cluster is put behind another text (`IsCluster.moved`): the rule
never looks past the first character of the cluster, unless this is a regional indicator. -/

namespace Folio.Unicode

variable {p q : Char → Prop} {a b c : Char} {before after k l r u v cs : List Char}

/-! ### The rule -/

/-- The classes whose characters always stand alone. -/
def ClusterClass.isControl : ClusterClass → Bool
  | .carriageReturn | .lineFeed | .control => true
  | _ => false

theorem isBoundary_congr (hpictograph : endsWithPictograph u = endsWithPictograph v)
    (hlinked : endsWithLinkedConsonant (a :: u) = endsWithLinkedConsonant (a :: v))
    (hflags : endsWithWholeFlags u = endsWithWholeFlags v) : isBoundary u a b = isBoundary v a b := by
  unfold isBoundary
  rw [hpictograph, hlinked, hflags]

theorem isBoundary_eq_false_mono
    (hpictograph : clusterClass a = .joiner → endsWithPictograph u = true → endsWithPictograph v = true)
    (hlinked : endsWithLinkedConsonant (a :: u) = true → endsWithLinkedConsonant (a :: v) = true)
    (hflags : clusterClass a = .regional → endsWithWholeFlags u = true → endsWithWholeFlags v = true)
    (h : isBoundary u a b = false) : isBoundary v a b = false := by
  unfold isBoundary at h ⊢
  cases ha : clusterClass a <;> cases hb : clusterClass b <;> simp_all <;> grind

theorem isControl_of_isBoundary (hb : clusterClass b = .extend ∨ clusterClass b = .joiner)
    (h : isBoundary u a b = true) : (clusterClass a).isControl = true := by
  unfold isBoundary at h
  rcases hb with hb | hb <;> cases ha : clusterClass a <;> simp_all [ClusterClass.isControl]

theorem isBoundary_eq_false_of_isControl (hb : (clusterClass b).isControl = true)
    (h : isBoundary u a b = false) : clusterClass a = .carriageReturn ∧ clusterClass b = .lineFeed := by
  have hclass : clusterClass b = .carriageReturn ∨ clusterClass b = .lineFeed ∨ clusterClass b = .control := by
    cases hb' : clusterClass b <;> simp_all [ClusterClass.isControl]
  unfold isBoundary at h
  rcases hclass with hb | hb | hb <;> cases ha : clusterClass a <;> simp_all

theorem eq_prepend_of_isBoundary_eq_false (hb : clusterClass b = .other)
    (hpictograph : isPictograph b = false) (hconsonant : isConjunctConsonant b = false)
    (h : isBoundary u a b = false) : clusterClass a = .prepend := by
  unfold isBoundary at h
  rw [hb, hpictograph, hconsonant] at h
  cases ha : clusterClass a <;> simp_all

/-! ### How far the rule looks back -/

/-- A character that no search through the text before a cut gets past, nor ends at. -/
structure StopsLookback (c : Char) : Prop where
  notExtend : clusterClass c ≠ .extend
  notJoiner : clusterClass c ≠ .joiner
  notRegional : clusterClass c ≠ .regional
  notPictograph : isPictograph c = false
  notConsonant : isConjunctConsonant c = false

/-- A text that is empty or whose nearest character stops every search. -/
def Bars (u : List Char) : Prop := ∀ c ∈ u.head?, StopsLookback c

/-- Whether the nearest character outside of the class `f` is of the class `g`. -/
def endsWith (f g : Char → Bool) (s : List Char) : Bool :=
  match s.dropWhile f with
  | [] => false
  | c :: _ => g c

section endsWith

variable {f g : Char → Bool} {s : List Char}

theorem endsWith_cons (f g : Char → Bool) (c : Char) (s : List Char) :
    endsWith f g (c :: s) = if f c then endsWith f g s else g c := by
  unfold endsWith
  by_cases hc : f c = true
  · rw [List.dropWhile_cons_of_pos hc, if_pos hc]
  · rw [List.dropWhile_cons_of_neg hc, if_neg hc]

theorem endsWith_append (v : List Char) (h : endsWith f g s = true) : endsWith f g (s ++ v) = true := by
  induction s with
  | nil => exact absurd h Bool.false_ne_true
  | cons c s ih =>
    rw [endsWith_cons] at h
    rw [List.cons_append, endsWith_cons]
    split
    · rw [if_pos ‹_›] at h
      exact ih h
    · rwa [if_neg ‹_›] at h

theorem endsWith_of_append (hstop : endsWith f g u = false ∨ ∃ c ∈ s, f c = false)
    (h : endsWith f g (s ++ u) = true) : endsWith f g s = true := by
  induction s with
  | nil =>
    rcases hstop with hu | ⟨c, hc, -⟩
    · exact absurd h (by simp [hu])
    · exact absurd hc List.not_mem_nil
  | cons c s ih =>
    rw [List.cons_append, endsWith_cons] at h
    rw [endsWith_cons]
    split
    · rw [if_pos ‹_›] at h
      refine ih (hstop.imp_right fun ⟨d, hd, hfd⟩ => ?_) h
      rcases List.mem_cons.1 hd with rfl | hd
      · exact absurd ‹f d = true› (by simp [hfd])
      · exact ⟨d, hd, hfd⟩
    · rwa [if_neg ‹_›] at h

theorem takeWhile_append_of_exists (v : List Char) (h : ∃ c ∈ s, f c = false) :
    (s ++ v).takeWhile f = s.takeWhile f := by
  induction s with
  | nil =>
    obtain ⟨c, hc, -⟩ := h
    exact absurd hc List.not_mem_nil
  | cons c s ih =>
    rw [List.cons_append, List.takeWhile_cons, List.takeWhile_cons]
    split
    · obtain ⟨d, hd, hfd⟩ := h
      rcases List.mem_cons.1 hd with rfl | hd
      · exact absurd ‹f d = true› (by simp [hfd])
      · rw [ih ⟨d, hd, hfd⟩]
    · rfl

theorem exists_of_endsWith (h : endsWith f g s = true) : ∃ c ∈ s, f c = false := by
  induction s with
  | nil => exact absurd h Bool.false_ne_true
  | cons c s ih =>
    by_cases hc : f c = true
    · rw [endsWith_cons, if_pos hc] at h
      obtain ⟨d, hd, hfd⟩ := ih h
      exact ⟨d, List.mem_cons_of_mem _ hd, hfd⟩
    · exact ⟨c, List.mem_cons_self, Bool.not_eq_true _ ▸ hc⟩

end endsWith

theorem endsWithLinkedConsonant_eq (s : List Char) :
    endsWithLinkedConsonant s =
      ((s.takeWhile isConjunctMark).any isConjunctLinker && endsWith isConjunctMark isConjunctConsonant s) :=
  rfl

theorem endsWithLinkedConsonant_append (v : List Char) (h : endsWithLinkedConsonant u = true) :
    endsWithLinkedConsonant (u ++ v) = true := by
  rw [endsWithLinkedConsonant_eq, Bool.and_eq_true] at h ⊢
  rw [takeWhile_append_of_exists v (exists_of_endsWith h.2)]
  exact ⟨h.1, endsWith_append v h.2⟩

theorem endsWithLinkedConsonant_of_append
    (hstop : endsWith isConjunctMark isConjunctConsonant v = false ∨ ∃ c ∈ u, isConjunctMark c = false)
    (h : endsWithLinkedConsonant (u ++ v) = true) : endsWithLinkedConsonant u = true := by
  rw [endsWithLinkedConsonant_eq, Bool.and_eq_true] at h ⊢
  have hu := endsWith_of_append hstop h.2
  rw [takeWhile_append_of_exists v (exists_of_endsWith hu)] at h
  exact ⟨h.1, hu⟩

theorem isConjunctMark_eq_false (hextend : clusterClass c ≠ .extend) (hjoiner : clusterClass c ≠ .joiner) :
    isConjunctMark c = false := by
  simp [isConjunctMark, hextend, hjoiner]

theorem Bars.endsWith_eq_false {f g : Char → Bool} (hu : Bars u)
    (h : ∀ c, StopsLookback c → f c = false ∧ g c = false) : endsWith f g u = false := by
  cases u with
  | nil => rfl
  | cons c u =>
    obtain ⟨hf, hg⟩ := h c (hu c rfl)
    rw [endsWith_cons, hf, hg]
    rfl

theorem Bars.endsWithPictograph_of_append (hu : Bars u) (h : endsWithPictograph (l ++ u) = true) :
    endsWithPictograph l = true := by
  refine endsWith_of_append (.inl (hu.endsWith_eq_false fun c hc => ⟨?_, hc.notPictograph⟩)) h
  simpa using hc.notExtend

theorem Bars.endsWithLinkedConsonant_of_append (hu : Bars u) (h : endsWithLinkedConsonant (l ++ u) = true) :
    endsWithLinkedConsonant l = true := by
  refine Unicode.endsWithLinkedConsonant_of_append (.inl (hu.endsWith_eq_false fun c hc => ?_)) h
  exact ⟨isConjunctMark_eq_false hc.notExtend hc.notJoiner, hc.notConsonant⟩

theorem Bars.endsWithWholeFlags_append (hu : Bars u) (l : List Char) :
    endsWithWholeFlags (l ++ u) = endsWithWholeFlags l := by
  have htake : (l ++ u).takeWhile (clusterClass · == .regional) = l.takeWhile (clusterClass · == .regional) := by
    induction l with
    | nil =>
      cases u with
      | nil => rfl
      | cons c u => exact List.takeWhile_cons_of_neg (by simpa using (hu c rfl).notRegional)
    | cons c l ih => rw [List.cons_append, List.takeWhile_cons, List.takeWhile_cons, ih]
  unfold endsWithWholeFlags
  rw [htake]

/-- What stands behind a bar has no say. -/
theorem Bars.isBoundary_append (hu : Bars u) (l : List Char) (a b : Char) :
    isBoundary (l ++ u) a b = isBoundary l a b := by
  refine isBoundary_congr ?_ ?_ (hu.endsWithWholeFlags_append l)
  · exact Bool.eq_iff_iff.2 ⟨hu.endsWithPictograph_of_append, endsWith_append u⟩
  · exact Bool.eq_iff_iff.2
      ⟨hu.endsWithLinkedConsonant_of_append (l := a :: l), endsWithLinkedConsonant_append u⟩

/-- A character that is neither mark, joiner nor part of a longer cluster: no cut depends on what
stands before it. -/
structure IsPlain (c : Char) : Prop where
  other : clusterClass c = .other
  notPictograph : isPictograph c = false
  notConsonant : isConjunctConsonant c = false

theorem IsPlain.stopsLookback (h : IsPlain c) : StopsLookback c where
  notExtend := by simp [h.other]
  notJoiner := by simp [h.other]
  notRegional := by simp [h.other]
  notPictograph := h.notPictograph
  notConsonant := h.notConsonant

theorem IsPlain.isBoundary_eq (h : IsPlain a) (u v : List Char) (b : Char) :
    isBoundary u a b = isBoundary v a b := by
  have hlinked : ∀ w, endsWithLinkedConsonant (a :: w) = false := fun w => by
    rw [endsWithLinkedConsonant_eq, List.takeWhile_cons_of_neg
      (by simp [isConjunctMark_eq_false h.stopsLookback.notExtend h.stopsLookback.notJoiner])]
    rfl
  unfold isBoundary
  rw [h.other, hlinked, hlinked]
  cases clusterClass b <;> rfl

/-! ### Characters that begin a cluster -/

/-- Every character of a text that begins a cluster satisfies `p`, the first character aside; the
second text stands before it, nearest character first. -/
def CutsOnly (p : Char → Prop) : List Char → List Char → Prop
  | before, a :: b :: cs => (isBoundary before a b = true → p b) ∧ CutsOnly p (a :: before) (b :: cs)
  | _, [] | _, [_] => True

theorem CutsOnly.imp (hpq : ∀ c, p c → q c) (h : CutsOnly p u cs) : CutsOnly q u cs := by
  induction cs generalizing u with
  | nil => trivial
  | cons a cs ih =>
    cases cs with
    | nil => trivial
    | cons b cs => exact ⟨fun hb => hpq b (h.1 hb), ih h.2⟩

/-- A text taken apart at one of its characters. -/
theorem cutsOnly_append_cons (u l r : List Char) (a : Char) :
    CutsOnly p u (l ++ a :: r) ↔ CutsOnly p u (l ++ [a]) ∧ CutsOnly p (l.reverse ++ u) (a :: r) := by
  induction l generalizing u with
  | nil => simp [CutsOnly]
  | cons x l ih =>
    cases l with
    | nil => simp [CutsOnly]
    | cons y l =>
      have hrest := ih (x :: u)
      simp only [List.cons_append, CutsOnly, List.reverse_cons, List.append_assoc, List.nil_append] at hrest ⊢
      rw [hrest, and_assoc]

theorem CutsOnly.of_append (h : CutsOnly p u (l ++ r)) : CutsOnly p u l := by
  cases l using List.reverseRecOn with
  | nil => trivial
  | append_singleton l a =>
    rw [List.append_assoc] at h
    exact ((cutsOnly_append_cons u l r a).1 h).1

theorem CutsOnly.append (hl : CutsOnly p u l) (hp : ∀ c ∈ r.head?, p c)
    (hr : CutsOnly p (l.reverse ++ u) r) : CutsOnly p u (l ++ r) := by
  cases l using List.reverseRecOn with
  | nil => exact hr
  | append_singleton l a =>
    rw [List.append_assoc]
    refine (cutsOnly_append_cons u l r a).2 ⟨hl, ?_⟩
    cases r with
    | nil => trivial
    | cons b r => exact ⟨fun _ => hp b rfl, by simpa using hr⟩

theorem CutsOnly.of_infix (h : CutsOnly p u cs) (hab : [a, b] <:+: cs) :
    ∃ v, isBoundary v a b = true → p b := by
  obtain ⟨l, r, rfl⟩ := hab
  rw [List.append_assoc] at h
  exact ⟨_, ((cutsOnly_append_cons u l (b :: r) a).1 h).2.1⟩

theorem Bars.cutsOnly_append (hu : Bars u) (l : List Char) : CutsOnly p (l ++ u) cs ↔ CutsOnly p l cs := by
  induction cs generalizing l with
  | nil => exact Iff.rfl
  | cons a cs ih =>
    cases cs with
    | nil => exact Iff.rfl
    | cons b cs => exact and_congr (by rw [hu.isBoundary_append]) (ih (a :: l))

theorem IsPlain.bars (h : IsPlain c) (u : List Char) : Bars (c :: u) := by
  rintro d ⟨⟩
  exact h.stopsLookback

/-- Nothing that stands before a plain character matters for what begins clusters after it. -/
theorem IsPlain.cutsOnly (h : IsPlain a) (u v : List Char) :
    CutsOnly p u (a :: cs) ↔ CutsOnly p v (a :: cs) := by
  cases cs with
  | nil => exact Iff.rfl
  | cons b cs =>
    refine and_congr (by rw [h.isBoundary_eq u v]) ?_
    exact ((h.bars u).cutsOnly_append []).trans ((h.bars v).cutsOnly_append []).symm

/-! ### The clusters of a text -/

/-- A text that stands between two cuts and is not cut itself, with `before` before it. -/
structure IsCluster (before k : List Char) : Prop where
  ne_nil : k ≠ []
  opens : ∀ x ∈ before.head?, ∀ c ∈ k.head?, isBoundary before.tail x c = true
  whole : CutsOnly (fun _ => False) before k

theorem isCluster_singleton (h : ∀ x ∈ before.head?, isBoundary before.tail x c = true) :
    IsCluster before [c] := by
  refine ⟨List.cons_ne_nil c [], ?_, trivial⟩
  rintro x hx d ⟨⟩
  exact h x hx

theorem head?_reverse_cons_of_ne_nil (hl : l ≠ []) (c : Char) : (c :: l).reverse.head? = l.reverse.head? := by
  rw [List.reverse_cons, List.head?_append_of_ne_nil _ (by simpa using hl)]

theorem flatten_clustersFrom (before current cs : List Char) :
    (clustersFrom before current cs).flatten = current.reverse ++ cs := by
  induction cs generalizing before current with
  | nil => cases current <;> simp [clustersFrom]
  | cons b cs ih =>
    cases current with
    | nil => simp [clustersFrom, ih]
    | cons a l =>
      rw [clustersFrom]
      split <;> simp [ih]

/-- The clusters of a text make up the text. -/
theorem flatten_clusters (cs : List Char) : (clusters cs).flatten = cs := flatten_clustersFrom [] [] cs

theorem isCluster_of_mem_clustersFrom (hl : IsCluster before (a :: l).reverse)
    (hk : k ∈ clustersFrom before (a :: l) cs) : ∃ v, IsCluster v k := by
  induction cs generalizing before a l with
  | nil =>
    simp only [clustersFrom, List.isEmpty_cons, Bool.false_eq_true, if_false, List.mem_singleton] at hk
    exact ⟨before, hk ▸ hl⟩
  | cons b cs ih =>
    rw [clustersFrom] at hk
    split at hk
    · next hcut =>
      rcases List.mem_cons.1 hk with rfl | hk
      · exact ⟨before, hl⟩
      · refine ih (isCluster_singleton ?_) hk
        rintro x ⟨⟩
        exact hcut
    · next hcut =>
      refine ih ⟨by simp, ?_, ?_⟩ hk
      · rw [head?_reverse_cons_of_ne_nil (List.cons_ne_nil a l)]
        exact hl.opens
      · have hwhole := hl.whole
        rw [List.reverse_cons] at hwhole
        rw [List.reverse_cons, List.reverse_cons, List.append_assoc]
        refine (cutsOnly_append_cons before l.reverse [b] a).2 ⟨hwhole, ?_, trivial⟩
        rw [List.reverse_reverse]
        exact hcut

/-- Every cluster of a text stands between two cuts and is not cut itself. -/
theorem exists_isCluster (hk : k ∈ clusters cs) : ∃ v, IsCluster v k := by
  cases cs with
  | nil => exact absurd hk List.not_mem_nil
  | cons a cs =>
    have hopens : ∀ x ∈ ([] : List Char).head?, isBoundary [] x a = true := fun x hx => absurd hx (by simp)
    exact isCluster_of_mem_clustersFrom (isCluster_singleton hopens) hk

theorem forall_head?_clustersFrom (before l cs : List Char) (a : Char) :
    (∀ k ∈ clustersFrom before (a :: l) cs, ∀ c ∈ k.head?, p c) ↔
      (∀ c ∈ (a :: l).reverse.head?, p c) ∧ CutsOnly p (l ++ before) (a :: cs) := by
  induction cs generalizing before a l with
  | nil => simp [clustersFrom, CutsOnly]
  | cons b cs ih =>
    rw [clustersFrom]
    split
    · next hcut => 
      rw [List.forall_mem_cons, ih, CutsOnly]
      simp [hcut]
    · next hcut =>
      rw [ih, head?_reverse_cons_of_ne_nil (List.cons_ne_nil a l), CutsOnly]
      simp [hcut]

/-- What all clusters of a text begin with is what it begins with itself and is cut before. -/
theorem forall_head?_clusters (p : Char → Prop) (cs : List Char) :
    (∀ k ∈ clusters cs, ∀ c ∈ k.head?, p c) ↔ (∀ c ∈ cs.head?, p c) ∧ CutsOnly p [] cs := by
  cases cs with
  | nil => simp [clusters, clustersFrom, CutsOnly]
  | cons a cs => exact forall_head?_clustersFrom [] [] cs a

/-! ### A cluster behind another text -/

/-- Whether no code point lies in both sets. -/
def Ranges.apart (rs ss : Ranges) : Bool := rs.all fun r => ss.all fun s => r.2.blt s.1 || s.2.blt r.1

theorem Ranges.contains_eq_false {rs ss : Ranges} {n : Nat} (h : rs.apart ss = true)
    (hn : rs.contains n = true) : ss.contains n = false := by
  obtain ⟨r, hr, hin⟩ := List.any_eq_true.1 hn
  refine List.any_eq_false.2 fun s hs hin' => ?_
  have happart := List.all_eq_true.1 (List.all_eq_true.1 h r hr) s hs
  simp only [Bool.and_eq_true, Bool.or_eq_true, decide_eq_true_eq, Nat.blt_eq] at hin hin' happart
  omega

theorem Ranges.contains_append (rs ss : Ranges) (n : Nat) :
    Ranges.contains (rs ++ ss) n = (rs.contains n || ss.contains n) :=
  List.any_append

/-- The class of a character is read off the tables: controls and regional indicators are in theirs. -/
theorem clusterClass_cases {motive : ClusterClass → Prop} (c : Char)
    (hcontrol : controlRanges.contains c.toNat = true → ∀ k, k.isControl = true → motive k)
    (hregional : Ranges.contains [(0x1F1E6, 0x1F1FF)] c.toNat = true → motive .regional)
    (hother : ∀ k, k.isControl = false → k ≠ .regional → motive k) : motive (clusterClass c) := by
  have hfirst : c.toNat < 0x20 → controlRanges.contains c.toNat = true := fun h =>
    List.any_eq_true.2 ⟨(0x0000, 0x001F), List.mem_cons_self, by simp; omega⟩
  have hhangul : motive ((hangulClass c.toNat).getD .other) := by
    unfold hangulClass
    split_ifs <;> exact hother _ rfl ClusterClass.noConfusion
  unfold clusterClass
  refine iteInduction (fun h => hcontrol (hfirst (by omega)) _ rfl) fun _ => ?_
  refine iteInduction (fun h => hcontrol (hfirst (by omega)) _ rfl) fun _ => ?_
  refine iteInduction (fun h => hcontrol (hfirst h) _ rfl) fun _ => ?_
  refine iteInduction (fun _ => hother _ rfl ClusterClass.noConfusion) fun _ => ?_
  refine iteInduction (fun _ => hother _ rfl ClusterClass.noConfusion) fun _ => ?_
  refine iteInduction (fun h => hcontrol h _ rfl) fun _ => ?_
  refine iteInduction (fun _ => hother _ rfl ClusterClass.noConfusion) fun _ => ?_
  refine iteInduction (fun h => hregional (by simpa [Ranges.contains] using h)) fun _ => ?_
  refine iteInduction (fun _ => hother _ rfl ClusterClass.noConfusion) fun _ => ?_
  exact iteInduction (fun _ => hother _ rfl ClusterClass.noConfusion) fun _ => hhangul

theorem contains_of_isControl (h : (clusterClass c).isControl = true) :
    controlRanges.contains c.toNat = true := by
  revert h
  apply clusterClass_cases (motive := fun k => k.isControl = true → controlRanges.contains c.toNat = true) c
  · exact fun h _ _ _ => h
  · exact fun _ h => absurd h Bool.false_ne_true
  · exact fun k hk _ h => absurd (hk.symm.trans h) Bool.false_ne_true

theorem contains_of_regional (h : clusterClass c = .regional) :
    Ranges.contains [(0x1F1E6, 0x1F1FF)] c.toNat = true := by
  revert h
  apply clusterClass_cases
    (motive := fun k => k = .regional → Ranges.contains [(0x1F1E6, 0x1F1FF)] c.toNat = true) c
  · rintro - k hk rfl
    exact absurd hk Bool.false_ne_true
  · exact fun h _ => h
  · exact fun _ _ hne h => absurd h hne

theorem stopsLookback_of_isControl (h : (clusterClass c).isControl = true) : StopsLookback c := by
  have hn := contains_of_isControl h
  have hpictograph : pictographRanges.contains c.toNat = false :=
    Ranges.contains_eq_false (by decide +kernel) hn
  have hconsonant : conjunctConsonantRanges.contains c.toNat = false :=
    Ranges.contains_eq_false (by decide +kernel) hn
  have hne : ∀ k : ClusterClass, k.isControl = false → clusterClass c ≠ k := fun k hk heq => by
    rw [heq, hk] at h
    exact Bool.false_ne_true h
  exact ⟨hne _ rfl, hne _ rfl, hne _ rfl, by simp [isPictograph, hpictograph], hconsonant⟩

section moved

variable {s : List Char}

theorem endsWithWholeFlags_append (hc : c ∈ s) (hregional : clusterClass c ≠ .regional) (v : List Char) :
    endsWithWholeFlags (s ++ v) = endsWithWholeFlags s := by
  unfold endsWithWholeFlags
  rw [takeWhile_append_of_exists v ⟨c, hc, by simpa using hregional⟩]

/-- A cluster is not cut where the text before it is taken away. -/
theorem isBoundary_alone (hc : c ∈ a :: s) (hregional : clusterClass c ≠ .regional)
    (hopens : ∀ x ∈ before.head?, isBoundary before.tail x c = true)
    (h : isBoundary (s ++ before) a b = false) : isBoundary s a b = false := by
  by_cases hmark : clusterClass c = .extend ∨ clusterClass c = .joiner
  · -- a mark begins a cluster behind a control only, where every search ends
    have hbars : Bars before := fun x hx =>
      stopsLookback_of_isControl (isControl_of_isBoundary hmark (hopens x hx))
    rwa [hbars.isBoundary_append] at h
  · rw [not_or] at hmark
    have hmem : clusterClass a ≠ clusterClass c → c ∈ s := fun hne =>
      (List.mem_cons.1 hc).resolve_left fun heq => hne (heq ▸ rfl)
    refine isBoundary_eq_false_mono (fun ha => ?_) ?_ (fun ha => ?_) h
    · refine endsWith_of_append (.inr ⟨c, hmem (ha ▸ Ne.symm hmark.2), ?_⟩)
      simpa using hmark.1
    · exact endsWithLinkedConsonant_of_append (u := a :: s)
        (.inr ⟨c, hc, isConjunctMark_eq_false hmark.1 hmark.2⟩)
    · rw [endsWithWholeFlags_append (hmem (ha ▸ hregional.symm)) hregional]
      exact id

/-- Nor is it where another text is put before it. -/
theorem isBoundary_behind (hc : c ∈ a :: s) (hregional : clusterClass c ≠ .regional) (v : List Char)
    (h : isBoundary s a b = false) : isBoundary (s ++ v) a b = false := by
  refine isBoundary_eq_false_mono (fun _ => endsWith_append v) (endsWithLinkedConsonant_append v)
    (fun ha => ?_) h
  have hmem : c ∈ s := (List.mem_cons.1 hc).resolve_left fun heq => hregional (heq ▸ ha)
  rw [endsWithWholeFlags_append hmem hregional]
  exact id

end moved

/-- A cluster that no regional indicator begins stays whole behind every text. -/
theorem IsCluster.moved (h : IsCluster before k) (hregional : ∀ c ∈ k.head?, clusterClass c ≠ .regional)
    (v : List Char) : CutsOnly (fun _ => False) v k := by
  obtain ⟨hne, hopens, hwhole⟩ := h
  cases k with
  | nil => exact absurd rfl hne
  | cons c k =>
    suffices hfrom : ∀ k a s, c ∈ a :: s → CutsOnly (fun _ => False) (s ++ before) (a :: k) →
        CutsOnly (fun _ => False) (s ++ v) (a :: k) from hfrom k c [] List.mem_cons_self hwhole
    intro k
    induction k with
    | nil => exact fun _ _ _ _ => trivial
    | cons b k ih =>
      intro a s hc hcuts
      refine ⟨fun hcut => ?_, ih b (a :: s) (List.mem_cons_of_mem _ hc) hcuts.2⟩
      have hregional := hregional c rfl
      have halone := isBoundary_alone hc hregional (fun x hx => hopens x hx c rfl)
        (Bool.eq_false_iff.2 hcuts.1)
      exact absurd hcut (by simp [isBoundary_behind hc hregional v halone])

end Folio.Unicode
