import Folio.Proofs.GroveOfTree
import Folio.Proofs.Links
import Folio.Proofs.SanitizeTree

/-! # What cleaning keeps

Cleaning takes nodes out and puts others in their place while it walks over the tree.  Here its result
is told by the tree that it started from alone: which nodes stay, in which order, what becomes of each,
and below which node it is found (`Sifted`).  For a node all this depends on the nodes around it, which
are those between it and the root; so the grove below the root is followed with the nodes that are
around each part of it. -/

namespace Folio.Html

/-- Whether an element goes with all that is in it. -/
def isDropped (e : Element) : Bool := !allowsElement e && dropsContent e

namespace Tree

variable {t t' : Tree} {r p n : NodeId} {g : Grove} {around : List NodeId}

/-- The nodes above a node up to the node `r`, without it, the nearest first. -/
def ancestorsBelow (t : Tree) (r n : NodeId) : List NodeId := (t.ancestors n).takeWhile (· ≠ r)

/-- Whether one of some nodes goes with its content. -/
def anyDropped (t : Tree) (ids : List NodeId) : Bool := ids.any (t.isElementOf · isDropped)

/-- Whether a node below `r` stays: it is a text or an allowed element, and no element around it goes
with its content. -/
def survives (t : Tree) (r n : NodeId) : Bool :=
  ((t.text? n).isSome || t.isElementOf n allowsElement) && !t.anyDropped (t.ancestorsBelow r n)

/-- The first allowed element among some nodes, or `r`. -/
def firstAllowed (t : Tree) (r : NodeId) (ids : List NodeId) : NodeId :=
  (ids.find? (t.isElementOf · allowsElement)).getD r

/-- The node that holds a node below `r` once it is clean: the nearest allowed element around it,
or `r`. -/
def holder (t : Tree) (r n : NodeId) : NodeId := t.firstAllowed r (t.ancestorsBelow r n)

/-- What cleaning the nodes below `r` makes of a tree. -/
structure Sifted (t t' : Tree) (r : NodeId) : Prop where
  wellFormed : t'.WellFormed
  /-- The nodes that stay are in document order. -/
  descendants : t'.descendants r = (t.descendants r).filter (t.survives r)
  /-- A text stays as it is, an element keeps the attributes that are allowed. -/
  kind : ∀ n ∈ t'.descendants r, (t'.cell n).kind = mapKind cleanElement (t.cell n).kind
  parent : ∀ n ∈ t'.descendants r, t'.parent? n = some (t.holder r n)
  /-- The root gets other children, and nothing else changes that is not below it. -/
  root : t'.cell r = { t.cell r with children := t'.children r }
  outside : ∀ n, n ≠ r → ¬ t.IsBelow r n → t'.cell n = t.cell n

/-! ### The nodes around a node -/

/-- The nodes around the children of `p`. -/
def Around (t : Tree) (r p : NodeId) (around : List NodeId) : Prop :=
  ∀ n, t.parent? n = some p → t.ancestorsBelow r n = around

theorem Consistent.around_self (ht : t.Consistent) (r : NodeId) : t.Around r r [] := by
  intro n hn
  rw [ancestorsBelow, ht.ancestors_of_parent hn]
  simp

/-- Around the children of a node are the node itself and those around it. -/
theorem Consistent.around_child (ht : t.Consistent) (h : t.Around r p around)
    (hp : t.parent? n = some p) (hne : n ≠ r) : t.Around r n (n :: around) := by
  intro c hc
  rw [← h n hp, ancestorsBelow, ancestorsBelow, ht.ancestors_of_parent hc]
  exact List.takeWhile_cons_of_pos (by simpa using hne)

theorem Around.survives_eq (h : t.Around r p around) (hp : t.parent? n = some p) :
    t.survives r n =
      (((t.text? n).isSome || t.isElementOf n allowsElement) && !t.anyDropped around) := by
  rw [survives, h n hp]

theorem Around.holder_eq (h : t.Around r p around) (hp : t.parent? n = some p) :
    t.holder r n = t.firstAllowed r around := by
  rw [holder, h n hp]

/-- Around each node of a grove are the nodes around the grove, and others. -/
theorem Holds.suffix_ancestorsBelow (ht : t.Consistent) : ∀ {p : NodeId} {g : Grove}
    {around : List NodeId}, t.Holds p g → r ∉ g.ids → t.Around r p around →
      n ∈ g.ids → around <:+ t.ancestorsBelow r n
  | p, .node id kind below next, around, ⟨hcell, _, hbelow, hnext⟩, hr, h, hn => by
    have hparent : t.parent? id = some p := by rw [parent?, hcell]
    rw [Grove.ids, List.mem_cons, List.mem_append, not_or, not_or] at hr
    rcases List.mem_cons.mp hn with rfl | hn
    · exact (h n hparent).symm ▸ List.suffix_rfl
    · rcases List.mem_append.mp hn with hn | hn
      · have hin := ht.around_child h hparent (Ne.symm hr.1)
        exact (List.suffix_cons id around).trans
          (hbelow.suffix_ancestorsBelow ht hr.2.1 hin hn)
      · exact hnext.suffix_ancestorsBelow ht hr.2.2 h hn

/-- Nothing stays where an element around the grove goes with its content. -/
theorem Holds.filter_survives_eq_nil (ht : t.Consistent) (hg : t.Holds p g) (hr : r ∉ g.ids)
    (h : t.Around r p around) (hdropped : t.anyDropped around = true) :
    g.ids.filter (t.survives r) = [] := by
  refine List.filter_eq_nil_iff.mpr fun n hn hsurvives => ?_
  have hsuffix := hg.suffix_ancestorsBelow ht hr h hn
  obtain ⟨a, ha, hdrop⟩ := List.any_eq_true.mp hdropped
  have hany : t.anyDropped (t.ancestorsBelow r n) = true :=
    List.any_eq_true.mpr ⟨a, hsuffix.subset ha, hdrop⟩
  simp [survives, hany] at hsurvives

/-! ### A clean grove -/

theorem anyDropped_cons (n : NodeId) (ids : List NodeId) :
    t.anyDropped (n :: ids) = (t.isElementOf n isDropped || t.anyDropped ids) := rfl

theorem isElementOf_of_cell {e : Element} {parent : Option NodeId} {children : List NodeId}
    (h : t.cell n = ⟨.element e, parent, children⟩) (f : Element → Bool) :
    t.isElementOf n f = f e := by
  simp [isElementOf, element?, h]

/-- The places of what is left of a grove. -/
theorem Holds.ids_sanitize (ht : t.Consistent) : ∀ {p : NodeId} {g : Grove} {around : List NodeId},
    t.Holds p g → r ∉ g.ids → t.Around r p around → t.anyDropped around = false →
      g.sanitize.ids = g.ids.filter (t.survives r)
  | _, .nil, _, _, _, _, _ => rfl
  | p, .node id kind below next, around, hholds, hr, h, hclear => by
    have ⟨hcell, hkind, hbelow, hnext⟩ := hholds
    have hparent : t.parent? id = some p := by rw [parent?, hcell]
    rw [Grove.ids, List.mem_cons, List.mem_append, not_or, not_or] at hr
    have hin := ht.around_child h hparent (Ne.symm hr.1)
    have hrest := hnext.ids_sanitize ht hr.2.2 h hclear
    have hself := h.survives_eq hparent
    rw [hclear, Bool.not_false, Bool.and_true] at hself
    rw [Grove.ids, List.filter_cons, List.filter_append, hself]
    cases kind with
    | document => exact absurd rfl hkind.1
    | text s =>
        obtain rfl := hholds.eq_nil_of_not_holds rfl
        simp [Grove.sanitize, Grove.ids, text?, hcell, hrest]
    | comment s =>
        obtain rfl := hholds.eq_nil_of_not_holds rfl
        simp [Grove.sanitize, Grove.ids, text?, isElementOf, element?, hcell, hrest]
    | doctype =>
        obtain rfl := hholds.eq_nil_of_not_holds rfl
        simp [Grove.sanitize, Grove.ids, text?, isElementOf, element?, hcell, hrest]
    | element e =>
        -- below the element there is one more node around, which counts only if it is a dropped one
        have htext : t.text? id = none := by simp [text?, hcell]
        have hany : t.anyDropped (id :: around) = isDropped e := by
          rw [anyDropped_cons, hclear, Bool.or_false, isElementOf_of_cell hcell]
        by_cases hallowed : allowsElement e
        · have hkept : isDropped e = false := by simp [isDropped, hallowed]
          have hinner := hbelow.ids_sanitize ht hr.2.1 hin (hany.trans hkept)
          simp [Grove.sanitize, Grove.ids, isElementOf_of_cell hcell, hallowed, hinner, hrest]
        · by_cases hcontent : dropsContent e
          · have hgone : isDropped e = true := by simp [isDropped, hallowed, hcontent]
            have hinner := hbelow.filter_survives_eq_nil ht hr.2.1 hin (hany.trans hgone)
            simp [Grove.sanitize, htext, isElementOf_of_cell hcell, hallowed, hcontent, hinner, hrest]
          · have hkept : isDropped e = false := by simp [isDropped, hcontent]
            have hinner := hbelow.ids_sanitize ht hr.2.1 hin (hany.trans hkept)
            simp [Grove.sanitize, htext, isElementOf_of_cell hcell, hallowed, hcontent, hinner, hrest]

/-- In a tree that holds what is left of a grove, each node of it is a clean one below its holder. -/
theorem Holds.sanitize (ht : t.Consistent) : ∀ {p q : NodeId} {g : Grove} {around : List NodeId},
    t.Holds p g → r ∉ g.ids → t.Around r p around → t.firstAllowed r around = q →
      t'.Holds q g.sanitize → n ∈ g.sanitize.ids →
        (t'.cell n).kind = mapKind cleanElement (t.cell n).kind ∧
          t'.parent? n = some (t.holder r n)
  | p, q, .node id kind below next, around, hholds, hr, h, hq, hheld, hn => by
    have ⟨hcell, hkind, hbelow, hnext⟩ := hholds
    have hparent : t.parent? id = some p := by rw [parent?, hcell]
    rw [Grove.ids, List.mem_cons, List.mem_append, not_or, not_or] at hr
    have hin := ht.around_child h hparent (Ne.symm hr.1)
    have hrest : t'.Holds q next.sanitize → n ∈ next.sanitize.ids → _ :=
      hnext.sanitize ht hr.2.2 h hq
    have hself := h.holder_eq hparent
    rw [hq] at hself
    cases kind with
    | document => exact absurd rfl hkind.1
    | comment s => exact hrest hheld hn
    | doctype => exact hrest hheld hn
    | text s =>
        obtain rfl := hholds.eq_nil_of_not_holds rfl
        obtain ⟨hnow, -, -, hheldnext⟩ := hheld
        rcases List.mem_cons.mp hn with rfl | hn
        · exact ⟨by rw [hnow, hcell]; rfl, by rw [parent?, hnow, hself]⟩
        · exact hrest hheldnext hn
    | element e =>
        -- an element that is unwrapped leaves what is below it to its own holder
        have hfirst : t.firstAllowed r (id :: around) = if allowsElement e then id else q := by
          rw [firstAllowed, List.find?_cons, isElementOf_of_cell hcell, ← hq]
          cases allowsElement e <;> rfl
        rw [Grove.sanitize] at hheld hn
        by_cases hallowed : allowsElement e
        · rw [if_pos hallowed] at hheld hn hfirst
          obtain ⟨hnow, -, hheldbelow, hheldnext⟩ := hheld
          rcases List.mem_cons.mp hn with rfl | hn
          · exact ⟨by rw [hnow, hcell]; rfl, by rw [parent?, hnow, hself]⟩
          · rcases List.mem_append.mp hn with hn | hn
            · exact hbelow.sanitize ht hr.2.1 hin hfirst hheldbelow hn
            · exact hrest hheldnext hn
        · rw [if_neg hallowed] at hheld hn hfirst
          by_cases hcontent : dropsContent e
          · rw [if_pos hcontent] at hheld hn
            exact hrest hheld hn
          · rw [if_neg hcontent] at hheld hn
            obtain ⟨hheldbelow, hheldnext⟩ := holds_append.mp hheld
            rw [Grove.ids_append] at hn
            rcases List.mem_append.mp hn with hn | hn
            · exact hbelow.sanitize ht hr.2.1 hin hfirst hheldbelow hn
            · exact hrest hheldnext hn

end Tree

/-! ### What every step of cleaning keeps -/

section keeps

variable {P : Tree → Prop} (hdetach : ∀ t id, P t → P (t.detach id))
  (hunwrap : ∀ t id, P t → P (t.unwrap id))
  (hclean : ∀ t id, P t → P (t.modifyElement id cleanElement))

include hdetach hunwrap hclean

/-- Cleaning keeps what taking nodes out, unwrapping them and changing elements keeps. -/
theorem Cleaning.node_keeps : ∀ (depth : Nat) (s : Cleaning) (id : NodeId), P s.tree →
    P (node depth s id).tree
  | 0, _, _, h => h
  | depth + 1, s, id, h => by
    have hrun (ids : List NodeId) (s : Cleaning) (hs : P s.tree) :
        P (ids.foldl (node depth) s).tree :=
      List.foldlRecOn (motive := fun s => P s.tree) ids _ hs fun s hs i _ => node_keeps depth s i hs
    rw [node]
    split
    · exact h
    · split
      · exact hrun _ _ (hclean _ id h)
      · split
        · exact hdetach _ id h
        · exact hunwrap _ id (hrun _ _ h)
    all_goals exact hdetach _ id h

theorem Tree.sanitize_keeps {t : Tree} (h : P t) (r : NodeId) : P (t.sanitize r).tree :=
  List.foldlRecOn (motive := fun s => P s.tree) (t.children r) _ h fun s hs i _ =>
    Cleaning.node_keeps hdetach hunwrap hclean _ s i hs

end keeps

namespace Tree

variable {t t' : Tree} {r : NodeId}

theorem WellFormed.sanitize (ht : t.WellFormed) (r : NodeId) : (t.sanitize r).tree.WellFormed :=
  sanitize_keeps (fun _ id h => h.detach id) (fun _ id h => h.unwrap id)
    (fun _ id h => h.modifyElement id cleanElement) ht r

theorem size_sanitize (t : Tree) (r : NodeId) : (t.sanitize r).tree.cells.size = t.cells.size :=
  sanitize_keeps (P := fun t' => t'.cells.size = t.cells.size) (fun t' id h => by simpa using h)
    (fun t' id h => by simpa using h) (fun t' id h => by simpa using h) rfl r

/-! ### Texts and elements -/

namespace Sifted

theorem text?_eq (h : t.Sifted t' r) {n : NodeId} (hn : n ∈ t'.descendants r) :
    t'.text? n = t.text? n := by
  rw [text?, text?, h.kind n hn]
  cases (t.cell n).kind <;> rfl

theorem element?_eq (h : t.Sifted t' r) {n : NodeId} (hn : n ∈ t'.descendants r) :
    t'.element? n = (t.element? n).map cleanElement := by
  rw [element?, element?, h.kind n hn]
  cases (t.cell n).kind <;> rfl

/-- The texts that are left are those in no element that goes with its content. -/
theorem texts (h : t.Sifted t' r) :
    (t'.descendants r).filter (fun n => (t'.text? n).isSome) =
      ((t.descendants r).filter fun n => (t.text? n).isSome).filter fun n =>
        !t.anyDropped (t.ancestorsBelow r n) := by
  rw [List.filter_congr fun n hn => congrArg Option.isSome (h.text?_eq hn), h.descendants,
    List.filter_filter, List.filter_filter]
  refine List.filter_congr fun n _ => ?_
  cases htext : (t.text? n).isSome <;> simp [survives, htext]

/-- The elements that are left are the allowed ones in no element that goes with its content. -/
theorem elements (h : t.Sifted t' r) :
    t'.elementsBelow r (fun _ => true) =
      (t.elementsBelow r allowsElement).filter fun n => !t.anyDropped (t.ancestorsBelow r n) := by
  have hkind (n : NodeId) (hn : n ∈ t'.descendants r) :
      t'.isElementOf n (fun _ => true) = (t.element? n).isSome := by
    rw [isElementOf, h.element?_eq hn]
    cases t.element? n <;> rfl
  rw [elementsBelow, List.filter_congr hkind, h.descendants, elementsBelow, List.filter_filter,
    List.filter_filter]
  refine List.filter_congr fun n _ => ?_
  simp only [survives, isElementOf, element?, text?]
  cases (t.cell n).kind <;> simp [Bool.and_comm]

end Sifted

/-! ### The main theorem -/

/-- **Cleaning keeps exactly what it should**: below the root the texts and the allowed elements stay
that are in no element that goes with its content, in document order, each text as it was, and each
below the nearest allowed element that was around it; nothing else changes. -/
theorem sanitize_sifted (ht : t.WellFormed) (root : NodeId) :
    t.Sifted (t.sanitize root).tree root := by
  obtain ⟨g, hg⟩ := ht.stands root
  have hclean := hg.sanitize.1
  have hroot : root ∉ g.ids := fun hmem => (hg.apart root hmem).1 rfl
  have haround := ht.consistent.around_self root
  have hdescendants := hclean.stands.descendants
  refine ⟨ht.sanitize root, ?_, fun n hn => ?_, fun n hn => ?_, ?_, fun n hne hout => ?_⟩
  · rw [hdescendants, hg.descendants]
    exact hg.holds.ids_sanitize ht.consistent hroot haround rfl
  · rw [hdescendants] at hn
    exact (hg.holds.sanitize ht.consistent hroot haround rfl hclean.stands.holds hn).1
  · rw [hdescendants] at hn
    exact (hg.holds.sanitize ht.consistent hroot haround rfl hclean.stands.holds hn).2
  · rw [hclean.stands.children]
    exact hclean.owner
  · rw [← ht.mem_descendants_iff, hg.descendants] at hout
    rcases Nat.lt_or_ge n t.cells.size with hlt | hge
    · exact hclean.cell_eq n hlt hne hout
    · rw [cell_of_size_le hge, cell_of_size_le (by rw [size_sanitize]; exact hge)]

/-- A body with a font around a script and a bold text. -/
def scriptPage : Tree :=
  let put (t : Tree) (n : NodeId × NodeKind) : Tree := (t.create n.2).append n.1 t.cells.size
  [(0, .element (.ofHtml "body")), (1, .element (.ofHtml "font")), (2, .element (.ofHtml "script")),
    (3, .text "x()"), (2, .element (.ofHtml "b")), (5, .text "bold")].foldl put empty

theorem scriptPage_wellFormed : scriptPage.WellFormed := by
  have hbody := empty_wellFormed.append_create 0 (.element (.ofHtml "body"))
    (by decide) (by decide) (by decide)
  have hfont := hbody.append_create 1 (.element (.ofHtml "font"))
    (by decide) (by decide) (by decide)
  have hscript := hfont.append_create 2 (.element (.ofHtml "script"))
    (by decide) (by decide) (by decide)
  have hcall := hscript.append_create 3 (.text "x()") (by decide) (by decide) (by decide)
  have hbold := hcall.append_create 2 (.element (.ofHtml "b"))
    (by decide) (by decide) (by decide)
  exact hbold.append_create 5 (.text "bold") (by decide) (by decide) (by decide)

/-- The script goes with its text, and the bold text takes the place of the font. -/
theorem sanitize_sifted_scriptPage :
    scriptPage.WellFormed ∧ scriptPage.Sifted (scriptPage.sanitize 1).tree 1 ∧
      (scriptPage.descendants 1).filter (scriptPage.survives 1) = [5, 6] ∧
      scriptPage.holder 1 5 = 1 ∧ scriptPage.holder 1 6 = 5 :=
  ⟨scriptPage_wellFormed, sanitize_sifted scriptPage_wellFormed 1, by decide +kernel,
    by decide +kernel, by decide +kernel⟩

end Tree

end Folio.Html
