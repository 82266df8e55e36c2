import Folio.Proofs.GroveEdits
import Folio.Proofs.HeadingAnchors
import Folio.Proofs.Links

/-! # Rendering one formula

`Tree.setFormula` empties an element, gives it one text and labels it, and may unwrap the paragraph around
it.  Where the element stands, all but the last is a change in its place (`Stands.formulaBlock`).  What the
element held is taken out of the tree, and formulas inside of it are still to come: the pass renders them
too, where nobody sees them.  That part of the tree is told by a set of nodes that no link leaves
(`Sealed`), new nodes included; whatever rendering does to a node of the set, it changes no cell outside
(`Confined`). -/

namespace Folio.Html

theorem isDisplayMath_eq {e : Element} (h : isMath e = true) :
    e.hasClass displayMathClass = isDisplayMath e := by
  rw [isDisplayMath, ((Bool.and_eq_true _ _).mp h).1, Bool.true_and]

namespace Grove

/-- A formula with its source in delimiters; the text is the new node `n`. -/
def formula (id n : NodeId) (e : Element) (source : String) : Grove :=
  single id (.element (mathElement e source)) (single n (.text (delimited (isDisplayMath e) source)) nil)

theorem tops_sublist : ∀ g : Grove, g.tops.Sublist g.ids
  | nil => .slnil
  | node id _ below next =>
    ((tops_sublist next).trans (List.sublist_append_right below.ids next.ids)).cons_cons id

end Grove

namespace Tree

variable {t t' t₁ t₂ : Tree} {p id : NodeId} {pre post : List NodeId} {below g g' : Grove} {e : Element}
  {S : NodeId → Prop}

/-! ### Sealed parts of a tree -/

/-- No link leaves the set `S`. -/
def Sealed (t : Tree) (S : NodeId → Prop) : Prop :=
  ∀ i, S i → (∀ p, t.parent? i = some p → S p) ∧ ∀ c ∈ t.children i, S c

/-- The tree `t'` differs from `t` inside the sealed set `S` only, which all new nodes are in. -/
structure Confined (t : Tree) (S : NodeId → Prop) (t' : Tree) : Prop where
  closed : t'.Sealed S
  fresh : ∀ i, t.cells.size ≤ i → S i
  size_le : t.cells.size ≤ t'.cells.size
  cell_eq : ∀ i, ¬ S i → t'.cell i = t.cell i

namespace Confined

theorem refl (h : t.Sealed S) (hfresh : ∀ i, t.cells.size ≤ i → S i) : t.Confined S t :=
  ⟨h, hfresh, Nat.le_refl _, fun _ _ => rfl⟩

/-- A cell without links has none that leaves a set. -/
theorem noLinks (S : NodeId → Prop) :
    (∀ p, (none : Option NodeId) = some p → S p) ∧ ∀ c ∈ ([] : List NodeId), S c :=
  ⟨by simp, by simp⟩

/-- A node of the set is changed, and its links stay in the set. -/
theorem modify (h : t.Confined S t') (hid : S id) {f : Cell → Cell}
    (hparent : ∀ p, (f (t'.cell id)).parent = some p → S p)
    (hchildren : ∀ c ∈ (f (t'.cell id)).children, S c) : t.Confined S (t'.modify id f) := by
  refine ⟨fun i hi => ?_, h.fresh, by simpa using h.size_le, fun i hi => ?_⟩
  · rw [parent?, children]
    by_cases heq : i = id
    · subst heq
      rcases Nat.lt_or_ge i t'.cells.size with hlt | hge
      · rw [cell_modify_self f hlt]
        exact ⟨hparent, hchildren⟩
      · rw [cell_of_size_le (by simpa using hge)]
        exact noLinks S
    · rw [cell_modify_ne t' f heq]
      exact h.closed i hi
  · have hne : i ≠ id := fun heq => hi (heq ▸ hid)
    rw [cell_modify_ne t' f hne, h.cell_eq i hi]

theorem setParent (h : t.Confined S t') (hid : S id) {q : Option NodeId}
    (hq : ∀ p, q = some p → S p) : t.Confined S (t'.setParent id q) :=
  h.modify hid hq (h.closed id hid).2

theorem modifyChildren (h : t.Confined S t') (hid : S id) {f : List NodeId → List NodeId}
    (hf : ∀ c ∈ f (t'.children id), S c) : t.Confined S (t'.modifyChildren id f) :=
  h.modify hid (h.closed id hid).1 hf

theorem modifyElement (h : t.Confined S t') (hid : S id) (f : Element → Element) :
    t.Confined S (t'.modifyElement id f) := by
  refine h.modify hid ?_ ?_
  · split
    · exact (h.closed id hid).1
    · exact (h.closed id hid).1
  · split
    · exact (h.closed id hid).2
    · exact (h.closed id hid).2

theorem create (h : t.Confined S t') (kind : NodeKind) : t.Confined S (t'.create kind) := by
  have hnew : S t'.cells.size := h.fresh _ h.size_le
  refine ⟨fun i hi => ?_, h.fresh, Nat.le_trans h.size_le (by simp), fun i hi => ?_⟩
  · rw [parent?, children]
    by_cases heq : i = t'.cells.size
    · rw [heq, cell_create_self]
      exact noLinks S
    · rw [cell_create_ne t' kind heq]
      exact h.closed i hi
  · have hne : i ≠ t'.cells.size := fun heq => hi (heq ▸ hnew)
    rw [cell_create_ne t' kind hne, h.cell_eq i hi]

theorem detach (h : t.Confined S t') (hid : S id) : t.Confined S (t'.detach id) := by
  unfold Tree.detach
  split
  · exact h
  · have hp := (h.closed id hid).1 _ ‹_›
    have hfree := h.setParent (q := none) hid (noLinks S).1
    exact hfree.modifyChildren hp fun c hc => (hfree.closed _ hp).2 c (List.mem_filter.mp hc).1

theorem append (h : t.Confined S t') (hp : S p) (hid : S id) : t.Confined S (t'.append p id) := by
  have hheld := (h.detach hid).setParent (q := some p) hid fun _ heq => Option.some.inj heq ▸ hp
  refine hheld.modifyChildren hp fun c hc => ?_
  rcases List.mem_append.mp hc with hc | hc
  · exact (hheld.closed p hp).2 c hc
  · exact List.mem_singleton.mp hc ▸ hid

theorem appendText (h : t.Confined S t') (hid : S id) (s : String) :
    t.Confined S (t'.appendText id s) := by
  have hnew : t.Confined S ((t'.create (.text s)).append id t'.cells.size) :=
    (h.create (.text s)).append hid (h.fresh _ h.size_le)
  unfold Tree.appendText
  split
  · split
    · have hlast := (h.closed id hid).2 _ (List.mem_of_getLast? ‹_›)
      exact h.modify hlast (h.closed _ hlast).1 (h.closed _ hlast).2
    · exact hnew
  · exact hnew

theorem foldl {step : Tree → NodeId → Tree}
    (hstep : ∀ {t' : Tree} {id : NodeId}, t.Confined S t' → S id → t.Confined S (step t' id))
    (ids : List NodeId) (hids : ∀ id ∈ ids, S id) (h : t.Confined S t') :
    t.Confined S (ids.foldl step t') :=
  List.foldlRecOn (motive := t.Confined S) ids _ h fun _ ht i hi => hstep ht (hids i hi)

theorem unwrap (h : t.Confined S t') (hid : S id) : t.Confined S (t'.unwrap id) := by
  unfold Tree.unwrap
  split
  · exact h
  · rename_i p hparent
    have hp := (h.closed id hid).1 p hparent
    have hinner := (h.closed id hid).2
    split
    · have hemptied : t.Confined S (t'.modifyChildren id fun _ => []) := h.modifyChildren hid (noLinks S).2
      have hmoved : t.Confined S ((t'.children id).foldl (fun t c => t.setParent c (some p))
          (t'.modifyChildren id fun _ => [])) :=
        hemptied.foldl (fun ht hc => ht.setParent hc fun _ heq => Option.some.inj heq ▸ hp) _ hinner
      refine (hmoved.modifyChildren hp fun c hc => ?_).setParent hid (noLinks S).1
      have hpchildren := (hmoved.closed p hp).2
      rcases List.mem_append.mp hc with hc | hc
      · rcases List.mem_append.mp hc with hc | hc
        · exact hpchildren c ((List.takeWhile_sublist _).subset hc)
        · exact hinner c hc
      · exact hpchildren c ((List.dropWhile_sublist _).subset (List.mem_of_mem_drop hc))
    · exact h

/-- Rendering a formula of the set. -/
theorem setFormula (h : t.Confined S t') (hid : S id) : t.Confined S (t'.setFormula id) := by
  have hemptied := h.foldl (fun ht hc => ht.detach hc) (t'.children id) (h.closed id hid).2
  have hlabelled := (hemptied.appendText hid
    (delimited (t'.isElementOf id (·.hasClass displayMathClass)) (t'.textContent id))).modifyElement hid
      fun e => (e.setAttr "aria-label" (t'.textContent id)).addClass "math"
  simp only [Tree.setFormula]
  split
  · have hblock := hlabelled.modifyElement hid fun e => { e with tag := "div" }
    split
    · rename_i q hsole
      have hparent := (Option.filter_eq_some_iff.mp hsole).1
      exact hblock.unwrap ((hblock.closed id hid).1 q hparent)
    · exact hblock
  · exact hlabelled

end Confined

/-- A change inside a sealed set that the new grove has nothing to do with goes unseen. -/
theorem Replaces.confined (h : t.Replaces t₁ p pre g g' post) (hconfined : t₁.Confined S t₂)
    (hin : ∀ i < t.cells.size, S i → i ∈ g.ids) (hp : ¬ S p) (hout : ∀ i ∈ g'.ids, ¬ S i) :
    t.Replaces t₂ p pre g g' post := by
  have howner := hconfined.cell_eq p hp
  obtain ⟨hchildren, hholds, hnodup, hapart, hbound⟩ := h.stands
  refine ⟨⟨?_, hholds.congr fun i hi => hconfined.cell_eq i (hout i hi), hnodup, hapart, fun i hi => ?_⟩,
    Nat.le_trans h.size_le hconfined.size_le, howner.trans h.owner, fun i hlt hne hmem => ?_, h.ids⟩
  · rw [Tree.children, howner]
    exact hchildren
  · exact Nat.lt_of_lt_of_le (hbound i hi) hconfined.size_le
  · rw [hconfined.cell_eq i fun hi => hmem (hin i hlt hi), h.cell_eq i hlt hne hmem]

/-! ### Emptying an element -/

@[simp] theorem size_foldl_detach (ids : List NodeId) (t : Tree) :
    (ids.foldl Tree.detach t).cells.size = t.cells.size :=
  List.foldlRecOn (motive := fun t' : Tree => t'.cells.size = t.cells.size) ids _ rfl fun t' h i _ => by
    rw [size_detach, h]

/-- Children that are taken out have no parent afterwards, and their parent has the others. -/
theorem cell_foldl_detach : ∀ (ids : List NodeId) {t : Tree}, ids.Nodup → id < t.cells.size →
    (∀ c ∈ ids, t.parent? c = some id ∧ c ≠ id) → ∀ i,
      (ids.foldl Tree.detach t).cell i =
        if i = id then { t.cell id with children := (t.children id).filter (· ∉ ids) }
        else if i ∈ ids then { t.cell i with parent := none } else t.cell i
  | [], t, _, _, _, i => by
    by_cases hi : i = id
    · have hall : (t.children i).filter (· ∉ []) = t.children i := List.filter_eq_self.mpr (by simp)
      rw [if_pos hi, ← hi, hall]
      rfl
    · simp [hi]
  | c :: ids, t, hnodup, hlt, hparent, i => by
    obtain ⟨hc, hne⟩ := hparent c List.mem_cons_self
    obtain ⟨hcids, hidsnodup⟩ := List.nodup_cons.mp hnodup
    have hcell := cell_detach hc hlt hne.symm
    have hrest : ∀ d ∈ ids, (t.detach c).parent? d = some id ∧ d ≠ id := by
      intro d hd
      obtain ⟨hdparent, hdne⟩ := hparent d (List.mem_cons_of_mem c hd)
      have hdc : d ≠ c := fun heq => hcids (heq ▸ hd)
      rw [parent?, hcell, if_neg hdc, if_neg hdne]
      exact ⟨hdparent, hdne⟩
    have hchildren : (t.detach c).children id = (t.children id).filter (· ≠ c) := by
      rw [Tree.children, hcell, if_neg hne.symm, if_pos rfl]
    rw [List.foldl_cons, cell_foldl_detach ids hidsnodup (by simpa using hlt) hrest i, hchildren,
      hcell i, hcell id, if_neg hne.symm, if_pos rfl]
    by_cases hi : i = id
    · simp [hi, List.filter_filter, Bool.and_comm]
    · by_cases hic : i = c
      · subst hic
        simp [hi, hcids]
      · simp [hi, hic]

theorem Holds.parent_of_mem_tops {c : NodeId} : ∀ {g : Grove}, t.Holds p g → c ∈ g.tops →
    t.parent? c = some p
  | .node id _ _ _, ⟨hcell, _, _, hnext⟩, hc => by
    rcases List.mem_cons.mp hc with rfl | hc
    · rw [parent?, hcell]
    · exact hnext.parent_of_mem_tops hc

/-- The parent of a node that is not on the top level is in the grove. -/
theorem Holds.parent_mem_ids {i q : NodeId} : ∀ {p : NodeId} {g : Grove}, t.Holds p g → i ∈ g.ids →
    t.parent? i = some q → i ∈ g.tops ∨ q ∈ g.ids
  | _, .node id _ below next, ⟨_, _, hbelow, hnext⟩, hi, hq => by
    rcases List.mem_cons.mp hi with rfl | hi
    · exact .inl List.mem_cons_self
    · rcases List.mem_append.mp hi with hi | hi
      · rcases hbelow.parent_mem_ids hi hq with htop | hmem
        · have hid : q = id := Option.some.inj (hq.symm.trans (hbelow.parent_of_mem_tops htop))
          exact .inr (hid ▸ List.mem_cons_self)
        · exact .inr (List.mem_cons_of_mem _ (List.mem_append_left _ hmem))
      · exact (hnext.parent_mem_ids hi hq).imp (List.mem_cons_of_mem _) fun hmem =>
          List.mem_cons_of_mem _ (List.mem_append_right _ hmem)

/-- What is left of a grove whose top level has been taken out of its tree is sealed, new nodes
included. -/
theorem Holds.sealed (h : t.Holds p g)
    (hcell : ∀ i ∈ g.ids, t'.cell i = if i ∈ g.tops then { t.cell i with parent := none } else t.cell i) :
    t'.Sealed fun i => i ∈ g.ids ∨ t'.cells.size ≤ i := by
  intro i hi
  rw [parent?, children]
  rcases hi with hi | hge
  · rw [hcell i hi]
    split
    · exact ⟨(Confined.noLinks _).1, fun c hc => .inl (h.mem_ids_of_child hi hc)⟩
    · rename_i htop
      exact ⟨fun q hq => .inl ((h.parent_mem_ids hi hq).resolve_left htop), fun c hc =>
        .inl (h.mem_ids_of_child hi hc)⟩
  · rw [cell_of_size_le hge]
    exact Confined.noLinks _

/-- An element is emptied in its place; what it held keeps its links but for the way up. -/
theorem Stands.emptied (h : t.Stands id [] below []) (hid : id < t.cells.size) :
    t.Replaces ((t.children id).foldl Tree.detach t) id [] below .nil [] ∧
      ∀ i ∈ below.ids, ((t.children id).foldl Tree.detach t).cell i =
        if i ∈ below.tops then { t.cell i with parent := none } else t.cell i := by
  have hchildren : t.children id = below.tops := by simpa using h.children
  have hcell := cell_foldl_detach below.tops (h.nodup.sublist below.tops_sublist) hid fun c hc =>
    ⟨h.holds.parent_of_mem_tops hc, (h.apart c (Grove.mem_ids_of_mem_tops hc)).1⟩
  rw [hchildren]
  refine ⟨h.replaces hid (by simp) ?_ trivial List.nodup_nil (fun _ hi => absurd hi List.not_mem_nil)
    fun i _ hne hmem => ?_, fun i hi => ?_⟩
  · rw [hcell, if_pos rfl, hchildren]
    simp [Grove.tops]
  · rw [hcell, if_neg hne, if_neg fun htop => hmem (Grove.mem_ids_of_mem_tops htop)]
  · rw [hcell, if_neg (h.apart i hi).1]

/-! ### Filling it -/

/-- An element that holds nothing gets a text. -/
theorem Stands.appendText (h : t.Stands id [] .nil []) (hid : id < t.cells.size) (s : String) :
    t.Replaces (t.appendText id s) id [] .nil (.single t.cells.size (.text s) .nil) [] := by
  have hnil : t.children id = [] := by simpa [Grove.tops] using h.children
  have hne : id ≠ t.cells.size := Nat.ne_of_lt hid
  have hfree : (t.create (.text s)).parent? t.cells.size = none := by rw [parent?, cell_create_self]
  have hcell := cell_append_of_parent_none hfree (Nat.lt_of_lt_of_le hid (by simp)) (by simp) hne
  rw [appendText_of_children_nil hnil]
  refine h.replaces hid (by simp) ?_ ⟨?_, ⟨by simp, .inr rfl⟩, trivial, trivial⟩
    (List.nodup_cons.mpr ⟨List.not_mem_nil, List.nodup_nil⟩)
    (fun i hi => .inr (Nat.le_of_eq (List.mem_singleton.mp hi).symm)) fun i hlt hi _ => ?_
  · rw [hcell, if_neg hne, if_pos rfl, children_create, hnil, cell_create_ne t _ hne]
    rfl
  · rw [hcell, if_pos rfl, cell_create_self]
    rfl
  · rw [hcell, if_neg (Nat.ne_of_lt hlt), if_neg hi, cell_create_ne t _ (Nat.ne_of_lt hlt)]

/-- Renders a formula where it stands, the paragraph around it left alone. -/
def formulaBlock (t : Tree) (id : NodeId) : Tree :=
  let source := t.textContent id
  let display := t.isElementOf id (·.hasClass displayMathClass)
  let emptied := (t.children id).foldl Tree.detach t
  let filled := emptied.appendText id (delimited display source)
  let labelled := filled.modifyElement id fun e => (e.setAttr "aria-label" source).addClass "math"
  if display then labelled.rename id "div" else labelled

theorem setFormula_eq (t : Tree) (id : NodeId) :
    t.setFormula id =
      if t.isElementOf id (·.hasClass displayMathClass) then
        ((t.formulaBlock id).soleParagraph? id).elim (t.formulaBlock id) (t.formulaBlock id).unwrap
      else t.formulaBlock id := by
  cases hdisplay : t.isElementOf id (·.hasClass displayMathClass) with
  | true =>
      simp only [setFormula, formulaBlock, hdisplay, if_true]
      split
      · rename_i hsole
        rw [hsole, Option.elim_some]
      · rename_i hsole
        rw [hsole, Option.elim_none]
  | false => simp only [setFormula, formulaBlock, hdisplay, Bool.false_eq_true, if_false]

/-- A formula is rendered in its place; what it held keeps its links but for the way up. -/
theorem Stands.formulaBlock (h : t.Stands p pre (.single id (.element e) below) post)
    (he : isMath e = true) :
    t.Replaces (t.formulaBlock id) p pre (.single id (.element e) below)
        (.formula id t.cells.size e below.forest.textContent) post ∧
      ∀ i ∈ below.ids, (t.formulaBlock id).cell i =
        if i ∈ below.tops then { t.cell i with parent := none } else t.cell i := by
  have hid : id < t.cells.size := lt_size_of_parent h.parent
  have hsource : t.textContent id = below.forest.textContent := h.inside.textContent (by simp [text?, h.cell])
  have hdisplay : t.isElementOf id (·.hasClass displayMathClass) = isDisplayMath e := by
    rw [isElementOf, h.element?, Option.any_some, isDisplayMath_eq he]
  obtain ⟨hemptied, hbelow⟩ := h.inside.emptied hid
  -- the new text is the next cell, since taking nodes out makes none
  have hfilled := hemptied.stands.appendText (by simpa using hid)
    (delimited (isDisplayMath e) below.forest.textContent)
  rw [size_foldl_detach] at hfilled
  have hkept : ∀ i ∈ below.ids, (((t.children id).foldl Tree.detach t).appendText id
      (delimited (isDisplayMath e) below.forest.textContent)).cell i =
        if i ∈ below.tops then { t.cell i with parent := none } else t.cell i := by
    intro i hi
    obtain ⟨hlt, hne, -⟩ := h.apart_below i hi
    rw [hfilled.cell_eq i (by simpa using hlt) hne List.not_mem_nil, hbelow i hi]
  have hheld := Replaces.inside h (hemptied.trans hfilled)
  simp only [Tree.formulaBlock, hsource, hdisplay, Grove.formula, mathElement]
  generalize ((t.children id).foldl Tree.detach t).appendText id
    (delimited (isDisplayMath e) below.forest.textContent) = filled at hkept hheld
  have hlabelled := hheld.trans (hheld.stands.modifyElement fun e =>
    (e.setAttr "aria-label" below.forest.textContent).addClass "math")
  have hother : ∀ (t : Tree) (f : Element → Element), ∀ i ∈ below.ids,
      (t.modifyElement id f).cell i = t.cell i := fun t f i hi => by
    rw [cell_modifyElement, if_neg (h.apart_below i hi).2.1]
  by_cases hblock : isDisplayMath e = true
  · simp only [if_pos hblock]
    refine ⟨hlabelled.trans (hlabelled.stands.modifyElement fun e => { e with tag := "div" }),
      fun i hi => ?_⟩
    rw [rename, hother _ _ i hi, hother _ _ i hi, hkept i hi]
  · simp only [if_neg hblock]
    exact ⟨hlabelled, fun i hi => by rw [hother _ _ i hi, hkept i hi]⟩

end Tree

end Folio.Html
