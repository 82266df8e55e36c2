import Folio.Proofs.ElementClasses
import Folio.Proofs.FormulaCells
import Folio.Proofs.GroveOfTree
import Folio.Proofs.GroveReading

/-! # Rendering every formula

`Tree.setMath` lists the formulas below a node before it renders the first of them.  `Typeset` tells what
becomes of a grove: a formula that is in no other one is rendered, a paragraph around nothing but a
display formula makes room for it, and the rest stays.  Formulas inside of others are rendered
where nobody sees them.  Whether a paragraph goes is decided when the formula in it is rendered, after
those before it; since a rendered formula is neither a formula on display nor blank, this depends on the
paragraph as it was (`Typeset.isSoleFormula_append`), so a grove inside a paragraph that stays is followed
like any other (`Stands.setMath`). -/

namespace Folio.Html

/-! ### Sole formulas -/

/-- Whether a node is a blank text. -/
def NodeKind.isBlank : NodeKind → Bool
  | .text s => isBlankText s
  | _ => false

/-- Whether a node is a display formula. -/
def NodeKind.isDisplay : NodeKind → Bool
  | .element e => isDisplayMath e
  | _ => false

/-- Whether nodes of some kinds are one display formula, blank texts aside. -/
def isSoleFormula (kinds : List NodeKind) : Bool :=
  match kinds.filter (!·.isBlank) with
  | [kind] => kind.isDisplay
  | _ => false

namespace NodeKind

variable {kind : NodeKind}

theorem isBlank_of_isDisplay (h : kind.isDisplay = true) : kind.isBlank = false := by
  cases kind <;> first | rfl | cases h

theorem isDisplay_of_not_holds (h : kind.holds = false) : kind.isDisplay = false := by
  cases kind <;> first | rfl | cases h

theorem not_holds_of_isBlank (h : kind.isBlank = true) : kind.holds = false := by
  cases kind <;> first | rfl | cases h

end NodeKind

theorem filter_isBlank_eq_nil_iff {kinds : List NodeKind} :
    kinds.filter (!·.isBlank) = [] ↔ kinds.all NodeKind.isBlank = true := by
  simp [List.filter_eq_nil_iff]

theorem isSoleFormula_iff_filter {kinds : List NodeKind} :
    isSoleFormula kinds = true ↔ ∃ kind, kinds.filter (!·.isBlank) = [kind] ∧ kind.isDisplay = true := by
  unfold isSoleFormula
  split
  · rename_i kind hkind
    simp [hkind]
  · rename_i hnot
    exact ⟨nofun, fun ⟨kind, hkind, _⟩ => absurd hkind (hnot kind)⟩

/-- Around a sole formula there are blank texts. -/
theorem isSoleFormula_iff {kinds : List NodeKind} :
    isSoleFormula kinds = true ↔ ∃ before kind after, kinds = before ++ kind :: after ∧
      kind.isDisplay = true ∧ before.all NodeKind.isBlank = true ∧ after.all NodeKind.isBlank = true := by
  rw [isSoleFormula_iff_filter]
  constructor
  · rintro ⟨kind, hkind, hdisplay⟩
    obtain ⟨before, after, rfl, hbefore, -, hafter⟩ := List.filter_eq_cons_iff.mp hkind
    exact ⟨before, kind, after, rfl, hdisplay, by simpa using hbefore,
      filter_isBlank_eq_nil_iff.mp hafter⟩
  · rintro ⟨before, kind, after, rfl, hdisplay, hbefore, hafter⟩
    refine ⟨kind, ?_, hdisplay⟩
    rw [List.filter_append, List.filter_cons_of_pos (by simp [NodeKind.isBlank_of_isDisplay hdisplay]),
      filter_isBlank_eq_nil_iff.mpr hbefore, filter_isBlank_eq_nil_iff.mpr hafter]
    rfl

/-- Next to a display formula nothing but blank texts may stand. -/
theorem isSoleFormula_of_isDisplay {kind : NodeKind} (h : kind.isDisplay = true)
    (before after : List NodeKind) :
    isSoleFormula (before ++ kind :: after) =
      (before.all NodeKind.isBlank && after.all NodeKind.isBlank) := by
  have hsolid : (kind :: after).filter (!·.isBlank) = kind :: after.filter (!·.isBlank) :=
    List.filter_cons_of_pos (by simp [NodeKind.isBlank_of_isDisplay h])
  rw [Bool.eq_iff_iff, isSoleFormula_iff_filter, List.filter_append, hsolid, Bool.and_eq_true,
    ← filter_isBlank_eq_nil_iff, ← filter_isBlank_eq_nil_iff]
  constructor
  · rintro ⟨only, heq, -⟩
    obtain ⟨hbefore, hafter⟩ | ⟨-, hcons⟩ := List.append_eq_singleton_iff.mp heq
    · exact ⟨hbefore, (List.cons.inj hafter).2⟩
    · cases hcons
  · rintro ⟨hbefore, hafter⟩
    exact ⟨kind, by rw [hbefore, hafter]; rfl, h⟩

/-- Where nodes are put in the place of others that are no display formulas, and are blank only if those
are, no sole formula comes about. -/
theorem isSoleFormula_replace {before after kinds kinds' : List NodeKind}
    (hdisplay : ∀ k ∈ kinds', k.isDisplay = false)
    (hblank : kinds'.all NodeKind.isBlank = true → kinds.all NodeKind.isBlank = true)
    (h : isSoleFormula (before ++ (kinds' ++ after)) = true) :
    isSoleFormula (before ++ (kinds ++ after)) = true := by
  rw [isSoleFormula_iff_filter] at h ⊢
  obtain ⟨kind, hkind, hshown⟩ := h
  rw [List.filter_append, List.filter_append] at hkind ⊢
  -- the only solid node is none of the new ones, which are blank then
  have hnil : kinds'.filter (!·.isBlank) = [] := by
    refine List.eq_nil_iff_forall_not_mem.mpr fun k hk => ?_
    have hmem : k ∈ [kind] := hkind ▸ List.mem_append_right _ (List.mem_append_left _ hk)
    have hnot := hdisplay k (List.mem_filter.mp hk).1
    rw [List.mem_singleton.mp hmem, hshown] at hnot
    cases hnot
  have hold : kinds.filter (!·.isBlank) = [] :=
    filter_isBlank_eq_nil_iff.mpr (hblank (filter_isBlank_eq_nil_iff.mp hnil))
  rw [hnil] at hkind
  exact ⟨kind, by rw [hold, hkind], hshown⟩

/-- The kinds of the nodes on the top level. -/
def Grove.kinds : Grove → List NodeKind
  | .nil => []
  | .node _ kind _ next => kind :: next.kinds

@[simp] theorem Grove.kinds_append : ∀ f g : Grove, (f ++ g).kinds = f.kinds ++ g.kinds
  | .nil, _ => rfl
  | .node _ kind _ next, g => congrArg (kind :: ·) (kinds_append next g)

/-! ### Typeset groves -/

theorem isMath_of_isDisplayMath {e : Element} (h : isDisplayMath e = true) : isMath e = true := by
  obtain ⟨htag, hclass⟩ := (Bool.and_eq_true _ _).mp h
  rw [isMath, htag, hclass, Bool.or_true, Bool.and_true]

theorem isMath_of_tag {e : Element} (h : e.tag = "p") : isMath e = false := by
  simp [isMath, h]

/-- A rendered formula is no display formula any more. -/
theorem isDisplayMath_mathElement {e : Element} (h : isMath e = true) (source : String) :
    isDisplayMath (mathElement e source) = false := by
  have hclass : ((e.setAttr "aria-label" source).addClass "math").hasClass displayMathClass =
      e.hasClass displayMathClass := by
    rw [Element.hasClass_addClass_of_ne _ (by decide +kernel) (by decide), Element.hasClass,
      Element.attr?_setAttr_of_ne e (by decide)]
    rfl
  unfold mathElement
  dsimp only
  split
  · rfl
  · rename_i hinline
    rw [isDisplayMath, hclass, isDisplayMath_eq h, Bool.eq_false_iff.mpr hinline, Bool.and_false]

/-- What rendering all formulas makes of a grove, new nodes coming from the place `n` on. -/
inductive Typeset (n : NodeId) : Grove → Grove → Prop
  | nil : Typeset n .nil .nil
  | leaf {id : NodeId} {kind : NodeKind} {next next' : Grove} (hkind : kind.holds = false)
      (hnext : Typeset n next next') : Typeset n (.node id kind .nil next) (.node id kind .nil next')
  | formula {id x : NodeId} {e : Element} {below next next' : Grove} (he : isMath e = true) (hx : n ≤ x)
      (hnext : Typeset n next next') :
      Typeset n (.node id (.element e) below next) (.formula id x e below.forest.textContent ++ next')
  | paragraph {id : NodeId} {e : Element} {below below' next next' : Grove} (he : e.tag = "p")
      (hsole : isSoleFormula below.kinds = true) (hbelow : Typeset n below below')
      (hnext : Typeset n next next') : Typeset n (.node id (.element e) below next) (below' ++ next')
  | element {id : NodeId} {e : Element} {below below' next next' : Grove} (he : isMath e = false)
      (hsole : ¬ (e.tag = "p" ∧ isSoleFormula below.kinds = true)) (hbelow : Typeset n below below')
      (hnext : Typeset n next next') :
      Typeset n (.node id (.element e) below next) (.node id (.element e) below' next')

namespace Typeset

variable {m n : NodeId} {f f' g g' : Grove}

theorem append (hf : Typeset n f f') (hg : Typeset n g g') : Typeset n (f ++ g) (f' ++ g') := by
  induction hf with
  | nil => exact hg
  | leaf hkind _ ih => exact .leaf hkind ih
  | formula he hx _ ih =>
      rw [Grove.append_assoc]
      exact .formula he hx ih
  | paragraph he hsole hbelow _ _ ih =>
      rw [Grove.append_assoc]
      exact .paragraph he hsole hbelow ih
  | element he hsole hbelow _ _ ih => exact .element he hsole hbelow ih

theorem mono (h : Typeset n g g') (hle : m ≤ n) : Typeset m g g' := by
  induction h with
  | nil => exact .nil
  | leaf hkind _ ih => exact .leaf hkind ih
  | formula he hx _ ih => exact .formula he (Nat.le_trans hle hx) ih
  | paragraph he hsole _ _ ihb ih => exact .paragraph he hsole ihb ih
  | element he hsole _ _ ihb ih => exact .element he hsole ihb ih

theorem paragraph_single {id : NodeId} {e : Element} (he : e.tag = "p")
    (hsole : isSoleFormula g.kinds = true) (h : Typeset n g g') :
    Typeset n (.single id (.element e) g) g' := by
  have hroom : Typeset n (.single id (.element e) g) (g' ++ .nil) := .paragraph he hsole h .nil
  rwa [Grove.append_nil] at hroom

/-- No display formula is left on the top level. -/
theorem isDisplay_eq_false (h : Typeset n g g') : ∀ k ∈ g'.kinds, k.isDisplay = false := by
  induction h with
  | nil => exact nofun
  | leaf hkind _ ih => exact List.forall_mem_cons.mpr ⟨NodeKind.isDisplay_of_not_holds hkind, ih⟩
  | formula he _ _ ih => exact List.forall_mem_cons.mpr ⟨isDisplayMath_mathElement he _, ih⟩
  | paragraph _ _ _ _ ihb ih =>
      rw [Grove.kinds_append]
      exact List.forall_mem_append.mpr ⟨ihb, ih⟩
  | element he _ _ _ _ ih =>
      refine List.forall_mem_cons.mpr ⟨Bool.eq_false_iff.mpr fun hdisplay => ?_, ih⟩
      exact Bool.eq_false_iff.mp he (isMath_of_isDisplayMath hdisplay)

/-- What is blank was blank before. -/
theorem all_isBlank (h : Typeset n g g') (hblank : g'.kinds.all NodeKind.isBlank = true) :
    g.kinds.all NodeKind.isBlank = true := by
  induction h with
  | nil => rfl
  | leaf _ _ ih =>
      obtain ⟨hkind, hnext⟩ := (Bool.and_eq_true _ _).mp hblank
      exact (Bool.and_eq_true _ _).mpr ⟨hkind, ih hnext⟩
  | formula _ _ _ _ => cases hblank
  | paragraph _ hsole _ _ ihb _ =>
      rw [Grove.kinds_append, List.all_append, Bool.and_eq_true] at hblank
      -- the formula in the paragraph is not blank
      have hnil := filter_isBlank_eq_nil_iff.mpr (ihb hblank.1)
      obtain ⟨kind, hkind, -⟩ := isSoleFormula_iff_filter.mp hsole
      rw [hnil] at hkind
      cases hkind
  | element _ _ _ _ _ _ => cases hblank

/-- Blank texts stay as they are. -/
theorem of_isBlank {t : Tree} {p : NodeId} : ∀ {g : Grove}, t.Holds p g →
    g.kinds.all NodeKind.isBlank = true → Typeset n g g
  | .nil, _, _ => .nil
  | .node id kind below next, h, hblank => by
    obtain ⟨hkind, hrest⟩ := (Bool.and_eq_true _ _).mp hblank
    have hleaf := NodeKind.not_holds_of_isBlank hkind
    obtain rfl := h.eq_nil_of_not_holds hleaf
    exact .leaf hleaf (of_isBlank h.2.2.2 hrest)

end Typeset

namespace Grove

/-- A grove is split where its top level is. -/
theorem exists_of_kinds_eq {kind : NodeKind} {after : List NodeKind} :
    ∀ {before : List NodeKind} {g : Grove}, g.kinds = before ++ kind :: after →
      ∃ f id below next, g = f ++ .node id kind below next ∧ f.kinds = before ∧ next.kinds = after
  | [], .nil, h => nomatch h
  | [], .node id _ below next, h => by
    obtain ⟨rfl, hnext⟩ := List.cons.inj h
    exact ⟨.nil, id, below, next, rfl, rfl, hnext⟩
  | _ :: _, .nil, h => nomatch h
  | _ :: _, .node top kind' inner rest, h => by
    obtain ⟨rfl, hrest⟩ := List.cons.inj h
    obtain ⟨f, id, below, next, rfl, hf, hnext⟩ := exists_of_kinds_eq hrest
    exact ⟨.node top kind' inner f, id, below, next, rfl, congrArg _ hf, hnext⟩

theorem mem_ids_of_mem_elements {q : Element → Bool} {i : NodeId} :
    ∀ {g : Grove}, i ∈ g.elements q → i ∈ g.ids
  | .node id kind below next, h => by
    have hinner : i ∈ below.elements q ++ next.elements q → i ∈ (node id kind below next).ids := fun h =>
      List.mem_cons_of_mem _ ((List.mem_append.mp h).elim
        (fun hb => List.mem_append_left _ (mem_ids_of_mem_elements hb))
        fun hn => List.mem_append_right _ (mem_ids_of_mem_elements hn))
    cases kind with
    | element e =>
        cases hq : q e with
        | true =>
            rw [elements_node_of_pos hq] at h
            exact (List.mem_cons.mp h).elim (fun heq => heq ▸ List.mem_cons_self) hinner
        | false =>
            rw [elements_node_of_neg hq] at h
            exact hinner h
    | document => exact hinner h
    | text _ => exact hinner h
    | comment _ => exact hinner h
    | doctype => exact hinner h

end Grove

namespace Tree

variable {t t' t₁ : Tree} {p id : NodeId} {pre post : List NodeId} {below g g' : Grove} {e : Element}

/-! ### Sole paragraphs -/

/-- The kinds of some nodes. -/
def kinds (t : Tree) (ids : List NodeId) : List NodeKind := ids.map fun i => (t.cell i).kind

/-- Whether a node is a paragraph that holds a display formula and otherwise blank texts only. -/
def isSoleParagraph (t : Tree) (p : NodeId) : Bool :=
  t.isElement p "p" && isSoleFormula (t.kinds (t.children p))

theorem Holds.kinds_tops : ∀ {p : NodeId} {g : Grove}, t.Holds p g → t.kinds g.tops = g.kinds
  | _, .nil, _ => rfl
  | _, .node id kind _ next, ⟨hcell, _, _, hnext⟩ => by
    have hnow : t.kinds (id :: next.tops) = (t.cell id).kind :: t.kinds next.tops := rfl
    rw [Grove.tops, hnow, hnext.kinds_tops, hcell]
    rfl

theorem Stands.kinds_children (h : t.Stands p pre g post) :
    t.kinds (t.children p) = t.kinds pre ++ (g.kinds ++ t.kinds post) := by
  rw [h.children, kinds, List.map_append, List.map_append, ← h.holds.kinds_tops]
  rfl

theorem Holds.isSoleParagraph_eq {next : Grove} (h : t.Holds p (.node id (.element e) below next)) :
    t.isSoleParagraph id = (e.tag == "p" && isSoleFormula below.kinds) := by
  obtain ⟨hcell, -, hbelow, -⟩ := h
  have htag : t.isElement id "p" = (e.tag == "p") := by
    simp only [isElement, tag?, Tree.element?, hcell]
    rfl
  rw [isSoleParagraph, htag, Tree.children, hcell, hbelow.kinds_tops]

/-- There are no elements among blank texts. -/
theorem Holds.elements_eq_nil {q : Element → Bool} : ∀ {p : NodeId} {g : Grove}, t.Holds p g →
    g.kinds.all NodeKind.isBlank = true → g.elements q = []
  | _, .nil, _, _ => rfl
  | _, .node id kind below next, h, hblank => by
    obtain ⟨hkind, hrest⟩ := (Bool.and_eq_true _ _).mp hblank
    obtain rfl := h.eq_nil_of_not_holds (NodeKind.not_holds_of_isBlank hkind)
    have hnext := h.2.2.2.elements_eq_nil (q := q) hrest
    cases kind with
    | element e => cases hkind
    | document => cases hkind
    | text _ => exact hnext
    | comment _ => exact hnext
    | doctype => exact hnext

/-- The nodes around a change keep their kinds. -/
theorem Replaces.kinds_around (h : t.Replaces t' p pre g g' post) (hg : t.Stands p pre g post) :
    t'.kinds pre = t.kinds pre ∧ t'.kinds post = t.kinds post := by
  have hkind : ∀ i < t.cells.size, i ∉ g.ids → (t'.cell i).kind = (t.cell i).kind := by
    intro i hlt hi
    by_cases hp : i = p
    · rw [hp, h.owner]
    · rw [h.cell_eq i hlt hp hi]
  constructor
  · refine List.map_congr_left fun i hi => hkind i (hg.bound i (.inl hi)) fun hmem => ?_
    exact (hg.apart i hmem).2.1 hi
  · refine List.map_congr_left fun i hi => hkind i (hg.bound i (.inr hi)) fun hmem => ?_
    exact (hg.apart i hmem).2.2 hi

theorem Replaces.isElement_owner (h : t.Replaces t' p pre g g' post) (tag : String) :
    t'.isElement p tag = t.isElement p tag := by
  simp only [isElement, tag?, Tree.element?, h.owner]

/-- A paragraph that stays goes on doing so while formulas in it are rendered. -/
theorem Replaces.isSoleParagraph_eq_false {n : NodeId} (hp : t.isSoleParagraph p = false)
    (hg : t.Stands p pre g post) (h : t.Replaces t' p pre g g' post) (htypeset : Typeset n g g') :
    t'.isSoleParagraph p = false := by
  refine Bool.eq_false_iff.mpr fun hsole => Bool.eq_false_iff.mp hp ?_
  rw [isSoleParagraph, h.isElement_owner, h.stands.kinds_children, (h.kinds_around hg).1,
    (h.kinds_around hg).2, Bool.and_eq_true] at hsole
  rw [isSoleParagraph, hg.kinds_children, Bool.and_eq_true]
  exact ⟨hsole.1, isSoleFormula_replace htypeset.isDisplay_eq_false htypeset.all_isBlank hsole.2⟩

theorem any_text?_isBlankText (t : Tree) (c : NodeId) :
    (t.text? c).any isBlankText = (t.cell c).kind.isBlank := by
  unfold text?
  cases (t.cell c).kind <;> rfl

/-- Once a display formula is a block, its paragraph goes if it was a sole paragraph before. -/
theorem Stands.soleParagraph?_formulaBlock (h : t.Stands p pre (.single id (.element e) below) post)
    (he : isMath e = true) (hdisplay : isDisplayMath e = true) :
    (t.formulaBlock id).soleParagraph? id = if t.isSoleParagraph p then some p else none := by
  have hblock := (h.formulaBlock he).1
  obtain ⟨-, hpre, hpost⟩ := h.apart id List.mem_cons_self
  have hothers : ∀ ids : List NodeId, id ∉ ids → (t.formulaBlock id).kinds ids = t.kinds ids →
      (ids.all fun c => c == id || ((t.formulaBlock id).text? c).any isBlankText) =
        (t.kinds ids).all NodeKind.isBlank := by
    intro ids hid hkinds
    rw [← hkinds, kinds, List.all_map, Bool.eq_iff_iff, List.all_eq_true, List.all_eq_true]
    refine forall₂_congr fun c hc => ?_
    have hne : (c == id) = false := beq_eq_false_iff_ne.mpr fun heq => hid (heq ▸ hc)
    rw [hne, Bool.false_or, any_text?_isBlankText]
    rfl
  have hsole : isSoleFormula (t.kinds (t.children p)) =
      ((t.kinds pre).all NodeKind.isBlank && (t.kinds post).all NodeKind.isBlank) := by
    rw [h.kinds_children]
    have hkind : (NodeKind.element e).isDisplay = true := hdisplay
    exact isSoleFormula_of_isDisplay hkind _ _
  rw [soleParagraph?, hblock.stands.parent, isSoleParagraph, hsole, Option.filter_some,
    hblock.isElement_owner, hblock.stands.children]
  simp only [Grove.formula, Grove.tops, List.cons_append, List.nil_append, List.all_append, List.all_cons,
    beq_self_eq_true, Bool.true_or, Bool.true_and]
  rw [hothers pre hpre (hblock.kinds_around h).1, hothers post hpost (hblock.kinds_around h).2]

/-! ### The pass -/

/-- The formulas in what a formula held are rendered after it, and nothing of that is seen. -/
theorem Replaces.foldl_setFormula (h : t.Replaces t₁ p pre g g' post) (hp : p < t.cells.size) {q : NodeId}
    (hheld : t.Holds q below) (hbelow : ∀ i ∈ below.ids, i ∈ g.ids ∧ i ≠ p ∧ i ∉ g'.ids)
    (hcell : ∀ i ∈ below.ids,
      t₁.cell i = if i ∈ below.tops then { t.cell i with parent := none } else t.cell i) :
    t.Replaces ((below.elements isMath).foldl setFormula t₁) p pre g g' post := by
  have hconfined := (Confined.refl (hheld.sealed hcell) fun i => .inr).foldl Confined.setFormula
    (below.elements isMath) fun i hi => .inl (Grove.mem_ids_of_mem_elements hi)
  refine h.confined hconfined (fun i hlt hi => ?_) (fun hi => ?_) fun i hg' hi => ?_
  · rcases hi with hi | hge
    · exact (hbelow i hi).1
    · exact absurd (Nat.lt_of_lt_of_le hlt h.size_le) (Nat.not_lt.mpr hge)
  · rcases hi with hi | hge
    · exact (hbelow p hi).2.1 rfl
    · exact absurd (Nat.lt_of_lt_of_le hp h.size_le) (Nat.not_lt.mpr hge)
  · rcases hi with hi | hge
    · exact (hbelow i hi).2.2 hg'
    · exact absurd (h.stands.holds.lt_size hg') (Nat.not_lt.mpr hge)

theorem setFormula_of_element {source : Grove} (h : t.Stands p pre (.single id (.element e) source) post)
    (he : isMath e = true) :
    t.setFormula id =
      if isDisplayMath e && t.isSoleParagraph p then (t.formulaBlock id).unwrap p
      else t.formulaBlock id := by
  have hdisplay : t.isElementOf id (·.hasClass displayMathClass) = isDisplayMath e := by
    rw [isElementOf, h.element?, Option.any_some, isDisplayMath_eq he]
  rw [setFormula_eq, hdisplay]
  by_cases hblock : isDisplayMath e = true
  · rw [if_pos hblock, h.soleParagraph?_formulaBlock he hblock, hblock, Bool.true_and]
    split
    · rfl
    · rfl
  · rw [if_neg hblock, Bool.eq_false_iff.mpr hblock, Bool.false_and]
    rfl

/-- A formula that is in no sole paragraph is rendered where it stands. -/
theorem Stands.setFormula (h : t.Stands p pre (.single id (.element e) below) post)
    (he : isMath e = true) (hp : t.isSoleParagraph p = false) :
    t.Replaces ((below.elements isMath).foldl Tree.setFormula (t.setFormula id)) p pre
      (.single id (.element e) below) (.formula id t.cells.size e below.forest.textContent) post := by
  obtain ⟨hblock, hcell⟩ := h.formulaBlock he
  have hstep : t.setFormula id = t.formulaBlock id := by
    rw [setFormula_of_element h he, hp, Bool.and_false]
    rfl
  rw [hstep]
  refine hblock.foldl_setFormula h.owner_lt_size h.inside.holds (fun i hi => ?_) hcell
  obtain ⟨hlt, hne, hnp⟩ := h.apart_below i hi
  refine ⟨List.mem_cons_of_mem _ (List.mem_append_left _ hi), hnp, fun hmem => ?_⟩
  rcases List.mem_cons.mp hmem with heq | hmem
  · exact hne heq
  · exact Nat.ne_of_lt hlt (by simpa [Grove.ids] using hmem)

/-- A sole paragraph makes room for its formula once that is rendered. -/
theorem Stands.setFormula_sole {f k inner : Grove} {c : NodeId} {formula : Element}
    (h : t.Stands p pre (.single id (.element e) (f ++ (.single c (.element formula) inner ++ k))) post)
    (he : e.tag = "p") (hdisplay : isDisplayMath formula = true)
    (hf : f.kinds.all NodeKind.isBlank = true) (hk : k.kinds.all NodeKind.isBlank = true) :
    t.Replaces ((inner.elements isMath).foldl Tree.setFormula (t.setFormula c)) p pre
      (.single id (.element e) (f ++ (.single c (.element formula) inner ++ k)))
      (f ++ (.formula c t.cells.size formula inner.forest.textContent ++ k)) post := by
  have hmath := isMath_of_isDisplayMath hdisplay
  have hinside := h.inside
  have hrest := hinside.right
  obtain ⟨hblock, hcell⟩ := hrest.left.formulaBlock hmath
  have hjoined := Replaces.inside h (.append hinside (.refl hinside.left)
    (.append hrest hblock (.refl (hblock.right hrest))))
  have hunwrap := hjoined.stands.unwrap
  have hsole : t.isSoleParagraph id = true := by
    rw [h.holds.isSoleParagraph_eq, he, beq_self_eq_true, Bool.true_and]
    exact isSoleFormula_iff.mpr ⟨f.kinds, .element formula, k.kinds, by simp [Grove.kinds], hdisplay, hf, hk⟩
  have hstep : t.setFormula c = (t.formulaBlock c).unwrap id := by
    rw [setFormula_of_element hrest.left hmath, hdisplay, hsole]
    rfl
  -- what the formula held is apart from all that is seen
  have hapart : ∀ i ∈ inner.ids, i < t.cells.size ∧ i ≠ p ∧ i ≠ id ∧
      i ∉ (f ++ (.formula c t.cells.size formula inner.forest.textContent ++ k)).ids := by
    intro i hi
    obtain ⟨hlt, hic, hiid⟩ := hrest.left.apart_below i hi
    have hnodup := hinside.nodup
    have hmem : i ∈ (Grove.single id (.element e) (f ++ (.single c (.element formula) inner ++ k))).ids := by
      simp [Grove.ids, hi]
    simp only [Grove.ids_append, Grove.ids, List.append_nil, List.nodup_append, List.nodup_cons,
      List.mem_append, List.mem_cons] at hnodup
    obtain ⟨-, ⟨-, -, hik⟩, hfi⟩ := hnodup
    refine ⟨hlt, (h.apart i hmem).1, hiid, ?_⟩
    simp only [Grove.formula, Grove.ids_append, Grove.ids, List.append_nil, List.mem_append, List.mem_cons,
      List.not_mem_nil, or_false, not_or]
    refine ⟨fun hif => hfi i hif i (.inl (.inr hi)) rfl, ⟨hic, Nat.ne_of_lt hlt⟩, fun hmemk => ?_⟩
    exact hik i (.inr hi) i hmemk rfl
  rw [hstep]
  refine (hjoined.trans hunwrap).foldl_setFormula h.owner_lt_size hrest.left.inside.holds
    (fun i hi => ?_) fun i hi => ?_
  · obtain ⟨-, hip, -, hout⟩ := hapart i hi
    exact ⟨by simp [Grove.ids, hi], hip, hout⟩
  · obtain ⟨hlt, hip, hiid, hout⟩ := hapart i hi
    have hkept := hunwrap.cell_eq i (Nat.lt_of_lt_of_le hlt hblock.size_le) hip fun hmem =>
      (List.mem_cons.mp hmem).elim hiid fun hbelow => hout (by simpa [Grove.ids] using hbelow)
    rw [hkept, hcell i hi]

/-- One element with what is below it, given the pass over what is below it. -/
theorem setMath_element (hp : t.isSoleParagraph p = false)
    (h : t.Stands p pre (.single id (.element e) below) post)
    (hbelow : ∀ (t : Tree) (p : NodeId) (post : List NodeId), t.isSoleParagraph p = false →
      t.Stands p [] below post → Passes (fun t => t) Tree.setFormula isMath
        (fun t _ g g' _ => Typeset t.cells.size g g') t p [] below post) :
    Passes (fun t => t) Tree.setFormula isMath (fun t _ g g' _ => Typeset t.cells.size g g') t p pre
      (.single id (.element e) below) post := by
  unfold Passes
  cases he : isMath e with
  | true =>
      rw [Grove.elements_node_of_pos he, Grove.elements_nil, List.append_nil, List.foldl_cons]
      exact ⟨_, h.setFormula he hp, .formula he (Nat.le_refl _) .nil⟩
  | false =>
      rw [Grove.elements_node_of_neg he, Grove.elements_nil, List.append_nil]
      by_cases hsole : e.tag = "p" ∧ isSoleFormula below.kinds = true
      · obtain ⟨before, kind, after, hkinds, hdisplay, hbefore, hafter⟩ := isSoleFormula_iff.mp hsole.2
        obtain ⟨f, c, inner, k, rfl, rfl, rfl⟩ := Grove.exists_of_kinds_eq hkinds
        cases kind with
        | element formula =>
            have hf := h.inside.left.holds
            have hk := h.inside.right.holds.2.2.2
            have hmath := isMath_of_isDisplayMath hdisplay
            have helements : (f ++ .node c (.element formula) inner k).elements isMath =
                c :: inner.elements isMath := by
              rw [Grove.elements_append, hf.elements_eq_nil hbefore, Grove.elements_node_of_pos hmath,
                hk.elements_eq_nil hafter, List.append_nil]
              rfl
            rw [helements, List.foldl_cons]
            refine ⟨_, h.setFormula_sole hsole.1 hdisplay hbefore hafter, ?_⟩
            exact .paragraph_single hsole.1 hsole.2 (.append (.of_isBlank hf hbefore)
              (.formula hmath (Nat.le_refl _) (.of_isBlank hk hafter)))
        | document => cases hdisplay
        | text _ => cases hdisplay
        | comment _ => cases hdisplay
        | doctype => cases hdisplay
      · have hid : t.isSoleParagraph id = false := by
          rw [h.holds.isSoleParagraph_eq]
          simpa using hsole
        obtain ⟨g', hg, htypeset⟩ := hbelow t id [] hid h.inside
        exact ⟨_, .inside h hg, .element he hsole htypeset .nil⟩

/-- The formulas below a node are rendered. -/
theorem Stands.setMath {r : NodeId} (h : t.Stands r [] g []) (hr : t.isSoleParagraph r = false) :
    ∃ g', t.Replaces (t.setMath r) r [] g g' [] ∧ Typeset t.cells.size g g' := by
  unfold Tree.setMath
  rw [h.elementsBelow]
  change Passes (fun t => t) Tree.setFormula isMath (fun t _ g g' _ => Typeset t.cells.size g g') t r [] g []
  refine passes_within (fun t p => t.isSoleParagraph p = false) (fun _ _ => .nil)
    (fun _ _ _ _ hkind => .leaf hkind .nil) ?_ ?_ setMath_element g t r [] [] hr h
  · intro t t' t'' p pre post f f' g g' hf hfirst hrest
    exact hfirst.append (hrest.mono hf.size_le)
  · exact fun hp hg h htypeset => h.isSoleParagraph_eq_false hp hg htypeset

/-! ### The forest -/

theorem isSoleFormula_cons (kind : NodeKind) (kinds : List NodeKind) :
    isSoleFormula (kind :: kinds) =
      if kind.isBlank then isSoleFormula kinds else kind.isDisplay && kinds.all NodeKind.isBlank := by
  split
  · rename_i hblank
    simp only [isSoleFormula, List.filter_cons, hblank, Bool.not_true, Bool.false_eq_true, if_false]
  · rename_i hsolid
    rw [Bool.eq_iff_iff, isSoleFormula_iff_filter, List.filter_cons_of_pos (by simpa using hsolid),
      Bool.and_eq_true, ← filter_isBlank_eq_nil_iff]
    constructor
    · rintro ⟨only, heq, hdisplay⟩
      obtain ⟨rfl, hnil⟩ := List.cons.inj heq
      exact ⟨hdisplay, hnil⟩
    · rintro ⟨hdisplay, hnil⟩
      exact ⟨kind, by rw [hnil], hdisplay⟩

theorem Holds.isSoleDisplay_true : ∀ {p : NodeId} {g : Grove}, t.Holds p g →
    g.forest.isSoleDisplay true = g.kinds.all NodeKind.isBlank
  | _, .nil, _ => rfl
  | _, .node id kind below next, ⟨_, hkind, _, hnext⟩ => by
    have hn := hnext.isSoleDisplay_true
    cases kind with
    | document => exact absurd rfl hkind.1
    | element e =>
        simp [Grove.forest, nodeForest, Forest.isSoleDisplay, Grove.kinds, NodeKind.isBlank]
    | text s => exact congrArg (isBlankText s && ·) hn
    | comment s => rfl
    | doctype => rfl

/-- Whether a paragraph goes can be told by the forest in it. -/
theorem Holds.isSoleDisplay_false : ∀ {p : NodeId} {g : Grove}, t.Holds p g →
    g.forest.isSoleDisplay false = isSoleFormula g.kinds
  | _, .nil, _ => rfl
  | _, .node id kind below next, ⟨_, hkind, _, hnext⟩ => by
    rw [Grove.kinds, isSoleFormula_cons]
    cases kind with
    | document => exact absurd rfl hkind.1
    | element e =>
        simp [Grove.forest, nodeForest, Forest.isSoleDisplay, NodeKind.isBlank, NodeKind.isDisplay,
          hnext.isSoleDisplay_true]
    | text s =>
        have hn := hnext.isSoleDisplay_false
        cases hs : isBlankText s with
        | true => simp [Grove.forest, nodeForest, Forest.isSoleDisplay, NodeKind.isBlank, hs, hn]
        | false =>
          simp [Grove.forest, nodeForest, Forest.isSoleDisplay, NodeKind.isBlank, NodeKind.isDisplay, hs]
    | comment s => rfl
    | doctype => rfl

/-- A typeset grove is the rendered forest. -/
theorem Holds.forest_typeset {n : NodeId} (h : Typeset n g g') : ∀ {p : NodeId}, t.Holds p g →
    g'.forest = g.forest.setMath := by
  induction h with
  | nil => exact fun _ => rfl
  | @leaf id kind next next' hkind _ ih =>
      intro p hg
      have hn := ih hg.2.2.2
      cases kind with
      | document => cases hkind
      | element e => cases hkind
      | text s => exact congrArg (Forest.text s) hn
      | comment s => exact congrArg (Forest.comment s) hn
      | doctype => exact congrArg Forest.doctype hn
  | formula he _ _ ih =>
      intro p hg
      have hn := ih hg.2.2.2
      rw [Grove.forest_append, hn]
      simp only [Grove.forest, nodeForest, Forest.setMath, he, if_true, Grove.formula]
      rfl
  | paragraph he hsole _ _ ihb ih =>
      intro p hg
      have hroom := hg.2.2.1.isSoleDisplay_false.trans hsole
      have hmath := isMath_of_tag he
      rw [Grove.forest_append, ihb hg.2.2.1, ih hg.2.2.2]
      simp [Grove.forest, nodeForest, Forest.setMath, hmath, he, hroom]
  | element he hsole _ _ ihb ih =>
      intro p hg
      rw [← hg.2.2.1.isSoleDisplay_false] at hsole
      simp [Grove.forest, nodeForest, Forest.setMath, he, hsole, ihb hg.2.2.1, ih hg.2.2.2]

/-- Below a root that is no sole paragraph, rendering the formulas of a tree renders those of its
forest. -/
theorem WellFormed.forest_setMath (ht : t.WellFormed) {r : NodeId} (hr : t.isSoleParagraph r = false) :
    (t.setMath r).forest r = (t.forest r).setMath := by
  obtain ⟨g, hg⟩ := ht.stands r
  obtain ⟨g', hdone, htypeset⟩ := hg.setMath hr
  rw [hdone.stands.forest, hg.forest, hg.holds.forest_typeset htypeset]

end Tree

end Folio.Html
