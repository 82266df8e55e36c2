import Mathlib.Data.List.Basic
import Folio.Proofs.KeptNodes
import Folio.Proofs.PassLinks
import Folio.Proofs.TypesetFormulas

/-! # What rendering math changes

The result of `Tree.setMath` is told by the tree that it started from alone (`MathRendered`).  A formula
that is in no other one holds its source in delimiters and is labelled with it.  Of the other nodes those
are gone that were in a formula, and the paragraphs that held a display formula and blank texts only; the
rest is as it was, in document order. -/

namespace Folio.Html

/-- The element `e'` of a formula that has been rendered from the element `e` and the given source. -/
structure IsRendered (e e' : Element) (source : String) : Prop where
  space : e'.space = e.space
  tag : e'.tag = if e.hasClass displayMathClass then "div" else e.tag
  label : e'.attr? "aria-label" = some source
  marked : e'.hasClass "math" = true
  classes : ∀ cls, cls ≠ "math" → e'.hasClass cls = e.hasClass cls
  attrs : ∀ name, name ≠ "aria-label" → name ≠ "class" → e'.attr? name = e.attr? name

theorem attr?_mathElement (e : Element) (source name : String) :
    (mathElement e source).attr? name = ((e.setAttr "aria-label" source).addClass "math").attr? name := by
  unfold mathElement
  dsimp only
  split <;> rfl

theorem isRendered_mathElement {e : Element} (h : isMath e = true) (source : String) :
    IsRendered e (mathElement e source) source := by
  have hword : Text.words "math".toList = ["math".toList] := by decide +kernel
  have hclass : ∀ cls, (mathElement e source).hasClass cls =
      ((e.setAttr "aria-label" source).addClass "math").hasClass cls := fun cls => by
    rw [Element.hasClass, Element.hasClass, attr?_mathElement]
  refine ⟨?_, ?_, ?_, ?_, fun cls hcls => ?_, fun name hlabel hname => ?_⟩
  · unfold mathElement
    dsimp only
    split <;> exact Element.space_addClass _ _
  · unfold mathElement
    dsimp only
    rw [isDisplayMath_eq h]
    split
    · rfl
    · exact Element.tag_addClass _ _
  · rw [attr?_mathElement, Element.attr?_addClass_of_ne _ _ (by decide), Element.attr?_setAttr_self]
  · rw [hclass, Element.hasClass_addClass _ hword]
  · rw [hclass, Element.hasClass_addClass_of_ne _ hword hcls, Element.hasClass, Element.hasClass,
      Element.attr?_setAttr_of_ne e (by decide)]
  · rw [attr?_mathElement, Element.attr?_addClass_of_ne _ _ hname, Element.attr?_setAttr_of_ne e hlabel]

namespace Tree

variable {t t' : Tree} {p q r n : NodeId} {g g' : Grove} {around : List NodeId}

/-! ### Statement -/

/-- Whether a node below `r` is in a formula. -/
def inFormula (t : Tree) (r n : NodeId) : Bool := (t.ancestorsBelow r n).any (t.isElementOf · isMath)

/-- Whether a node below `r` is still there once the formulas are rendered. -/
def remains (t : Tree) (r n : NodeId) : Bool := !t.inFormula r n && !t.isSoleParagraph n

/-- The first of some nodes that is no sole paragraph, or `r`. -/
def firstLasting (t : Tree) (r : NodeId) (ids : List NodeId) : NodeId :=
  (ids.find? (!t.isSoleParagraph ·)).getD r

/-- What rendering the formulas below `r` makes of a tree. -/
structure MathRendered (t t' : Tree) (r : NodeId) : Prop where
  wellFormed : t'.WellFormed
  size_le : t.cells.size ≤ t'.cells.size
  /-- The old nodes that are left are in document order. -/
  descendants : (t'.descendants r).filter (· < t.cells.size) = (t.descendants r).filter (t.remains r)
  /-- A formula in no other one holds its source in delimiters. -/
  formula : ∀ n ∈ t.descendants r, t.inFormula r n = false → ∀ e, t.element? n = some e →
    isMath e = true → ∃ e' x, t'.element? n = some e' ∧ IsRendered e e' (t.textContent n) ∧
      t'.children n = [x] ∧ t.cells.size ≤ x ∧
        t'.text? x = some (if e.hasClass displayMathClass then "\\[" ++ t.textContent n ++ "\\]"
          else "\\(" ++ t.textContent n ++ "\\)")
  /-- All other nodes are what they were. -/
  kind : ∀ n ∈ t'.descendants r, n < t.cells.size → t.isElementOf n isMath = false →
    (t'.cell n).kind = (t.cell n).kind
  /-- The texts outside of formulas are in the page as before. -/
  texts : ((t'.descendants r).filter (· < t.cells.size)).filterMap t'.text? =
    ((t.descendants r).filter (!t.inFormula r ·)).filterMap t.text?
  /-- A node is below the nearest of those around it that is left. -/
  parent : ∀ n ∈ t'.descendants r, n < t.cells.size →
    t'.parent? n = some (t.firstLasting r (t.ancestorsBelow r n))
  /-- The only new nodes are the texts of formulas. -/
  fresh : ∀ x ∈ t'.descendants r, t.cells.size ≤ x → ∃ n ∈ t.descendants r,
    t.isElementOf n isMath = true ∧ t.inFormula r n = false ∧ t'.children n = [x]
  /-- The root gets other children, and nothing else changes that is not below it. -/
  root : t'.cell r = { t.cell r with children := t'.children r }
  outside : ∀ n < t.cells.size, n ≠ r → ¬ t.IsBelow r n → t'.cell n = t.cell n

/-! ### Parts of a grove that are in no formula -/

/-- The grove stands below `p`, the nodes `around` are around it, and none of them is a formula. -/
structure Clear (t : Tree) (r p : NodeId) (around : List NodeId) (g : Grove) : Prop where
  holds : t.Holds p g
  nodup : g.ids.Nodup
  root : r ∉ g.ids
  places : t.Around r p around
  clear : around.any (t.isElementOf · isMath) = false

namespace Clear

variable {id : NodeId} {kind : NodeKind} {e : Element} {below next : Grove}

theorem cell (h : t.Clear r p around (.node id kind below next)) :
    t.cell id = ⟨kind, some p, below.tops⟩ := h.holds.1

theorem parent (h : t.Clear r p around (.node id kind below next)) : t.parent? id = some p := by
  rw [parent?, h.cell]

theorem lt_size (h : t.Clear r p around (.node id kind below next)) : id < t.cells.size :=
  h.holds.lt_size List.mem_cons_self

theorem inFormula_eq (h : t.Clear r p around (.node id kind below next)) :
    t.inFormula r id = false := by
  rw [inFormula, h.places id h.parent, h.clear]

theorem firstLasting_eq (h : t.Clear r p around (.node id kind below next)) :
    t.firstLasting r (t.ancestorsBelow r id) = t.firstLasting r around := by
  rw [h.places id h.parent]

theorem rest (h : t.Clear r p around (.node id kind below next)) : t.Clear r p around next := by
  obtain ⟨⟨-, -, -, hnext⟩, hnodup, hr, haround, hclear⟩ := h
  rw [Grove.ids, List.nodup_cons, List.nodup_append] at hnodup
  rw [Grove.ids, List.mem_cons, List.mem_append, not_or, not_or] at hr
  exact ⟨hnext, hnodup.2.2.1, hr.2.2, haround, hclear⟩

theorem element? (h : t.Clear r p around (.node id (.element e) below next)) : t.element? id = some e := by
  simp [Tree.element?, h.cell]

/-- The grove below an element that is no formula. -/
theorem inner (ht : t.Consistent) (h : t.Clear r p around (.node id (.element e) below next))
    (he : isMath e = false) : t.Clear r id (id :: around) below := by
  have hparent := h.parent
  obtain ⟨⟨hcell, -, hbelow, -⟩, hnodup, hr, haround, hclear⟩ := h
  rw [Grove.ids, List.nodup_cons, List.nodup_append] at hnodup
  rw [Grove.ids, List.mem_cons, List.mem_append, not_or, not_or] at hr
  refine ⟨hbelow, hnodup.2.1, hr.2.1, ht.around_child haround hparent (Ne.symm hr.1), ?_⟩
  rw [List.any_cons, isElementOf_of_cell hcell, he, hclear]
  rfl

/-- What is below an element has its text. -/
theorem textContent_eq (h : t.Clear r p around (.node id (.element e) below next)) :
    t.textContent id = below.forest.textContent := by
  obtain ⟨⟨hcell, -, hbelow, -⟩, hnodup, -, -, -⟩ := h
  rw [Grove.ids, List.nodup_cons, List.nodup_append, List.mem_append, not_or] at hnodup
  have hstands : t.Stands id [] below [] :=
    ⟨by simp [Tree.children, hcell], hbelow, hnodup.2.1,
      fun i hi => ⟨fun heq => hnodup.1.1 (heq ▸ hi), List.not_mem_nil, List.not_mem_nil⟩, by simp⟩
  exact hstands.textContent (by simp [text?, hcell])

/-- Nothing stays of what is in a formula. -/
theorem filter_remains_eq_nil (ht : t.Consistent)
    (h : t.Clear r p around (.node id (.element e) below next)) (he : isMath e = true) :
    below.ids.filter (t.remains r) = [] := by
  have hparent := h.parent
  obtain ⟨⟨hcell, -, hbelow, -⟩, -, hr, haround, -⟩ := h
  rw [Grove.ids, List.mem_cons, List.mem_append, not_or, not_or] at hr
  have hin := ht.around_child haround hparent (Ne.symm hr.1)
  refine List.filter_eq_nil_iff.mpr fun n hn hremains => ?_
  have hmem := (hbelow.suffix_ancestorsBelow ht hr.2.1 hin hn).subset (List.mem_cons_self (a := id))
  have hany : t.inFormula r n = true :=
    List.any_eq_true.mpr ⟨id, hmem, by rw [isElementOf_of_cell hcell, he]⟩
  simp [remains, hany] at hremains

end Clear

/-! ### Nodes that are left -/

theorem isSoleParagraph_of_element?_none (h : t.element? n = none) : t.isSoleParagraph n = false := by
  rw [isSoleParagraph, isElement, tag?, h]
  rfl

theorem text?_of_element? {e : Element} (h : t.element? n = some e) : t.text? n = none := by
  rw [text?, kind_of_element? h]

theorem text?_of_isSoleParagraph (h : t.isSoleParagraph n = true) : t.text? n = none := by
  cases he : t.element? n with
  | some e => exact text?_of_element? he
  | none =>
    rw [isSoleParagraph_of_element?_none he] at h
    cases h

theorem isSoleParagraph_of_isMath {e : Element} (h : t.element? n = some e) (he : isMath e = true) :
    t.isSoleParagraph n = false := by
  have htag : t.isElement n "p" = false := by
    rw [isElement, tag?, h]
    refine beq_eq_false_iff_ne.mpr fun heq => ?_
    rw [isMath_of_tag (Option.some.inj heq)] at he
    cases he
  rw [isSoleParagraph, htag, Bool.false_and]

theorem Holds.isSoleParagraph_eq_false {id : NodeId} {e : Element} {below next : Grove}
    (h : t.Holds p (.node id (.element e) below next))
    (hsole : ¬ (e.tag = "p" ∧ isSoleFormula below.kinds = true)) : t.isSoleParagraph id = false := by
  rw [h.isSoleParagraph_eq]
  simpa using hsole

theorem element?_of_not_holds (h : (t.cell n).kind.holds = false) : t.element? n = none := by
  unfold Tree.element?
  split
  · rename_i e hkind
    rw [hkind] at h
    cases h
  · rfl

/-- The old nodes of a typeset grove are those that remain. -/
theorem filter_ids_typeset (ht : t.Consistent) (h : Typeset t.cells.size g g') :
    ∀ {p : NodeId} {around : List NodeId}, t.Clear r p around g →
      g'.ids.filter (· < t.cells.size) = g.ids.filter (t.remains r) := by
  induction h with
  | nil => intros; rfl
  | leaf hkind _ ih =>
      intro p around hg
      have hsole := isSoleParagraph_of_element?_none (element?_of_not_holds (by rw [hg.cell, hkind]))
      simp only [Grove.ids, List.nil_append]
      rw [List.filter_cons_of_pos (by simpa using hg.lt_size),
        List.filter_cons_of_pos (by simp [remains, hg.inFormula_eq, hsole]), ih hg.rest]
  | formula he hx _ ih =>
      intro p around hg
      have hsole := isSoleParagraph_of_isMath hg.element? he
      simp only [Grove.formula, Grove.ids, Grove.ids_append, List.nil_append, List.append_nil, List.cons_append]
      rw [List.filter_cons_of_pos (by simpa using hg.lt_size),
        List.filter_cons_of_neg (by simpa using hx),
        List.filter_cons_of_pos (by simp [remains, hg.inFormula_eq, hsole]), List.filter_append,
        hg.filter_remains_eq_nil ht he, ih hg.rest]
      rfl
  | paragraph he hsole _ _ ihb ih =>
      intro p around hg
      have hgone := hg.holds.isSoleParagraph_eq
      rw [he, hsole] at hgone
      rw [Grove.ids_append, List.filter_append, Grove.ids,
        List.filter_cons_of_neg (by simp [remains, hgone]), List.filter_append,
        ihb (hg.inner ht (isMath_of_tag he)), ih hg.rest]
  | element he hsole _ _ ihb ih =>
      intro p around hg
      have hstays := hg.holds.isSoleParagraph_eq_false hsole
      rw [Grove.ids, Grove.ids, List.filter_cons_of_pos (by simpa using hg.lt_size),
        List.filter_cons_of_pos (by simp [remains, hg.inFormula_eq, hstays]), List.filter_append,
        List.filter_append, ihb (hg.inner ht he), ih hg.rest]

/-- What has become of an old node `n`. -/
structure Settled (t t' : Tree) (r n : NodeId) : Prop where
  parent : t'.parent? n = some (t.firstLasting r (t.ancestorsBelow r n))
  kind : t.isElementOf n isMath = false → (t'.cell n).kind = (t.cell n).kind
  formula : ∀ e, t.element? n = some e → isMath e = true → ∃ x, t.cells.size ≤ x ∧
    t'.element? n = some (mathElement e (t.textContent n)) ∧ t'.children n = [x] ∧
      t'.text? x = some (delimited (isDisplayMath e) (t.textContent n))

/-- A text is the text that it was, and a formula is none. -/
theorem Settled.text?_eq (h : t.Settled t' r n) : t'.text? n = t.text? n := by
  cases hmath : t.isElementOf n isMath with
  | false => rw [text?, text?, h.kind hmath]
  | true =>
    obtain ⟨e, he, hmath⟩ := Option.any_eq_true _ _ |>.mp hmath
    obtain ⟨x, -, helement, -⟩ := h.formula e he hmath
    rw [text?_of_element? he, text?_of_element? helement]

/-- What is known of a node that stands in a typeset grove: it is an old node, or new and the text of a
formula. -/
def Accounted (t t' : Tree) (r : NodeId) (g : Grove) (n : NodeId) : Prop :=
  (n < t.cells.size ∧ t.Settled t' r n) ∨
    (t.cells.size ≤ n ∧ ∃ m ∈ g.ids, t.isElementOf m isMath = true ∧ t.inFormula r m = false ∧
      t'.children m = [n])

theorem Accounted.mono {f : Grove} (h : t.Accounted t' r f n) (hsub : ∀ i ∈ f.ids, i ∈ g.ids) :
    t.Accounted t' r g n :=
  h.imp_right fun ⟨hn, m, hm, hrest⟩ => ⟨hn, m, hsub m hm, hrest⟩

/-- An old node that is no formula, and keeps its kind below the node `q`. -/
theorem Clear.settled {id : NodeId} {kind : NodeKind} {below next : Grove} {children : List NodeId}
    (h : t.Clear r p around (.node id kind below next)) (hkind : t.isElementOf id isMath = false)
    (hq : t.firstLasting r around = q) (hcell : t'.cell id = ⟨kind, some q, children⟩) :
    t.Settled t' r id := by
  refine ⟨?_, fun _ => by rw [hcell, h.cell], fun e he hmath => ?_⟩
  · rw [h.firstLasting_eq, hq, parent?, hcell]
  · rw [isElementOf, he, Option.any_some, hmath] at hkind
    cases hkind

theorem isElementOf_of_not_holds (h : (t.cell n).kind.holds = false) (q : Element → Bool) :
    t.isElementOf n q = false := by
  rw [isElementOf, element?_of_not_holds h]
  rfl

/-- In a tree that holds a typeset grove each node of it is accounted for. -/
theorem accounted_of_typeset (ht : t.Consistent) (h : Typeset t.cells.size g g') :
    ∀ {p q : NodeId} {around : List NodeId}, t.Clear r p around g → t.firstLasting r around = q →
      t'.Holds q g' → n ∈ g'.ids → t.Accounted t' r g n := by
  have hnext : ∀ {id : NodeId} {kind : NodeKind} {below next : Grove},
      ∀ i ∈ next.ids, i ∈ (Grove.node id kind below next).ids := fun i hi =>
    List.mem_cons_of_mem _ (List.mem_append_right _ hi)
  have hbelow : ∀ {id : NodeId} {kind : NodeKind} {below next : Grove},
      ∀ i ∈ below.ids, i ∈ (Grove.node id kind below next).ids := fun i hi =>
    List.mem_cons_of_mem _ (List.mem_append_left _ hi)
  induction h with
  | nil => exact fun _ _ _ hn => absurd hn List.not_mem_nil
  | leaf hkind _ ih =>
      intro p q around hg hq hholds hn
      rcases List.mem_cons.mp hn with rfl | hn
      · have helement := isElementOf_of_not_holds (by rw [hg.cell, hkind]) isMath
        exact .inl ⟨hg.lt_size, hg.settled helement hq hholds.1⟩
      · exact (ih hg.rest hq hholds.2.2.2 hn).mono hnext
  | @formula id x e below next next' he hx _ ih =>
      intro p q around hg hq hholds hn
      obtain ⟨hself, hrest⟩ := holds_append.mp hholds
      obtain ⟨hcell, -, ⟨htext, -⟩, -⟩ := hself
      rw [Grove.ids_append] at hn
      rcases List.mem_append.mp hn with hn | hn
      · have hmath := isElementOf_of_cell hg.cell isMath
        rw [he] at hmath
        rcases List.mem_cons.mp hn with rfl | hn
        · refine .inl ⟨hg.lt_size, ?_, fun hnot => ?_, fun e' he' _ => ⟨_, hx, ?_⟩⟩
          · rw [hg.firstLasting_eq, hq, parent?, hcell]
          · rw [hnot] at hmath
            cases hmath
          · obtain rfl : e = e' := Option.some.inj (hg.element?.symm.trans he')
            rw [hg.textContent_eq]
            exact ⟨by simp [Tree.element?, hcell], by simp [Tree.children, hcell, Grove.tops],
              by simp [text?, htext]⟩
        · obtain rfl := List.mem_singleton.mp hn
          exact .inr ⟨hx, _, List.mem_cons_self, hmath, hg.inFormula_eq, by
            simp [Tree.children, hcell, Grove.tops]⟩
      · exact (ih hg.rest hq hrest hn).mono hnext
  | @paragraph id e below below' next next' he hsole _ _ ihb ih =>
      intro p q around hg hq hholds hn
      obtain ⟨hheldbelow, hheldnext⟩ := holds_append.mp hholds
      have hgone := hg.holds.isSoleParagraph_eq
      rw [he, hsole] at hgone
      rw [Grove.ids_append] at hn
      rcases List.mem_append.mp hn with hn | hn
      · have hq' : t.firstLasting r (id :: around) = q := by
          rw [firstLasting, List.find?_cons_of_neg (by simp [hgone])]
          exact hq
        exact (ihb (hg.inner ht (isMath_of_tag he)) hq' hheldbelow hn).mono hbelow
      · exact (ih hg.rest hq hheldnext hn).mono hnext
  | @element id e below below' next next' he hsole _ _ ihb ih =>
      intro p q around hg hq hholds hn
      have hstays := hg.holds.isSoleParagraph_eq_false hsole
      obtain ⟨hcell, -, hheldbelow, hheldnext⟩ := hholds
      rcases List.mem_cons.mp hn with rfl | hn
      · have helement := isElementOf_of_cell hg.cell isMath
        exact .inl ⟨hg.lt_size, hg.settled (helement.trans he) hq hcell⟩
      · rcases List.mem_append.mp hn with hn | hn
        · have hq' : t.firstLasting r (id :: around) = id := by
            rw [firstLasting, List.find?_cons_of_pos (by simp [hstays])]
            rfl
          exact (ihb (hg.inner ht he) hq' hheldbelow hn).mono hbelow
        · exact (ih hg.rest hq hheldnext hn).mono hnext

/-! ### The main theorem -/

/-- **Rendering math changes exactly the math.**  Below a root that is no paragraph, each formula that is
in no other one comes to hold its source in delimiters, and is labelled with it; what was in formulas is
gone, and so are the paragraphs around nothing but a display formula; everything else stays as it was, in
document order. -/
theorem setMath_rendered (ht : t.WellFormed) (root : NodeId) (hroot : t.isElement root "p" = false) :
    t.MathRendered (t.setMath root) root := by
  obtain ⟨g, hg⟩ := ht.stands root
  have hsole : t.isSoleParagraph root = false := by rw [isSoleParagraph, hroot, Bool.false_and]
  obtain ⟨g', hdone, htypeset⟩ := hg.setMath hsole
  have hclear : t.Clear root root [] g :=
    ⟨hg.holds, hg.nodup, fun hmem => (hg.apart root hmem).1 rfl, ht.consistent.around_self root, rfl⟩
  have hdescendants := hdone.stands.descendants
  have haccounted : ∀ n ∈ (t.setMath root).descendants root, t.Accounted (t.setMath root) root g n :=
    fun n hn => accounted_of_typeset ht.consistent htypeset hclear rfl hdone.stands.holds (hdescendants ▸ hn)
  have hsettled : ∀ n ∈ (t.setMath root).descendants root, n < t.cells.size →
      t.Settled (t.setMath root) root n := fun n hn hlt =>
    (haccounted n hn).elim And.right fun hnew => absurd hlt (Nat.not_lt.mpr hnew.1)
  have hlisted : ((t.setMath root).descendants root).filter (· < t.cells.size) =
      (t.descendants root).filter (t.remains root) := by
    rw [hdescendants, hg.descendants]
    exact filter_ids_typeset ht.consistent htypeset hclear
  refine ⟨(ht.grown_setMath root).wellFormed, hdone.size_le, hlisted, ?_,
    fun n hn hlt => (hsettled n hn hlt).kind, ?_, fun n hn hlt => (hsettled n hn hlt).parent, ?_, ?_, ?_⟩
  · intro n hn hout e he hmath
    have hleft : n ∈ ((t.setMath root).descendants root).filter (· < t.cells.size) := by
      rw [hlisted]
      refine List.mem_filter.mpr ⟨hn, ?_⟩
      rw [remains, hout, isSoleParagraph_of_isMath he hmath]
      rfl
    obtain ⟨hmem, hlt⟩ := List.mem_filter.mp hleft
    obtain ⟨x, hx, helement, hchildren, htext⟩ :=
      (hsettled n hmem (of_decide_eq_true hlt)).formula e he hmath
    refine ⟨_, x, helement, isRendered_mathElement hmath _, hchildren, hx, ?_⟩
    rw [htext, delimited, isDisplayMath_eq hmath]
  · rw [hlisted, List.filterMap_filter, List.filterMap_filter]
    refine List.filterMap_congr fun n hn => ?_
    cases hin : t.inFormula root n with
    | true => simp [remains, hin]
    | false =>
      cases hgone : t.isSoleParagraph n with
      | true => simp [remains, hin, hgone, text?_of_isSoleParagraph hgone]
      | false =>
        have hremains : t.remains root n = true := by simp [remains, hin, hgone]
        have hleft : n ∈ ((t.setMath root).descendants root).filter (· < t.cells.size) :=
          hlisted ▸ List.mem_filter.mpr ⟨hn, hremains⟩
        obtain ⟨hmem, hlt⟩ := List.mem_filter.mp hleft
        simpa [hremains] using (hsettled n hmem (of_decide_eq_true hlt)).text?_eq
  · intro x hx hge
    rcases haccounted x hx with ⟨hlt, -⟩ | ⟨-, n, hn, hrest⟩
    · exact absurd hlt (Nat.not_lt.mpr hge)
    · exact ⟨n, by rwa [hg.descendants], hrest⟩
  · rw [hdone.stands.children]
    exact hdone.owner
  · intro n hlt hne hout
    rw [← ht.mem_descendants_iff, hg.descendants] at hout
    exact hdone.cell_eq n hlt hne hout

/-- A body with a paragraph around a display formula that has a formula in it, and with a paragraph
that has a formula among its text. -/
def mathPage : Tree :=
  let put (t : Tree) (n : NodeId × NodeKind) : Tree := (t.create n.2).append n.1 t.cells.size
  [(0, .element (.ofHtml "body")), (1, .element (.ofHtml "p")), (2, .text " "),
    (2, .element (.ofHtml "span" [("class", "math-display")])), (4, .text "a + "),
    (4, .element (.ofHtml "span" [("class", "math-inline")])), (6, .text "b"),
    (1, .element (.ofHtml "p")), (8, .text "let "),
    (8, .element (.ofHtml "span" [("class", "math-inline")])), (10, .text "x")].foldl put empty

theorem mathPage_wellFormed : mathPage.WellFormed := by
  have hbody := empty_wellFormed.append_create 0 (.element (.ofHtml "body"))
    (by decide) (by decide) (by decide)
  have hsole := hbody.append_create 1 (.element (.ofHtml "p")) (by decide) (by decide) (by decide)
  have hblank := hsole.append_create 2 (.text " ") (by decide) (by decide) (by decide)
  have hdisplay := hblank.append_create 2 (.element (.ofHtml "span" [("class", "math-display")]))
    (by decide) (by decide) (by decide)
  have hsum := hdisplay.append_create 4 (.text "a + ") (by decide) (by decide) (by decide)
  have hinner := hsum.append_create 4 (.element (.ofHtml "span" [("class", "math-inline")]))
    (by decide) (by decide) (by decide)
  have hb := hinner.append_create 6 (.text "b") (by decide) (by decide) (by decide)
  have hparagraph := hb.append_create 1 (.element (.ofHtml "p")) (by decide) (by decide) (by decide)
  have hlet := hparagraph.append_create 8 (.text "let ") (by decide) (by decide) (by decide)
  have hinline := hlet.append_create 8 (.element (.ofHtml "span" [("class", "math-inline")]))
    (by decide) (by decide) (by decide)
  exact hinline.append_create 10 (.text "x") (by decide) (by decide) (by decide)

/-- The first paragraph makes room for its formula, whose source is the text of the formula in it too;
the second one stays. -/
theorem setMath_rendered_mathPage :
    mathPage.WellFormed ∧ mathPage.isElement 1 "p" = false ∧
      mathPage.MathRendered (mathPage.setMath 1) 1 ∧
      (mathPage.descendants 1).filter (mathPage.remains 1) = [3, 4, 8, 9, 10] ∧
      mathPage.textContent 4 = "a + b" ∧ mathPage.firstLasting 1 (mathPage.ancestorsBelow 1 4) = 1 :=
  ⟨mathPage_wellFormed, by decide +kernel, setMath_rendered mathPage_wellFormed 1 (by decide +kernel),
    by decide +kernel, by decide +kernel, by decide +kernel⟩

end Tree

end Folio.Html
