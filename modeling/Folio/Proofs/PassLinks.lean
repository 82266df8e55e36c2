import Folio.Proofs.Links

/-! # Rendering math and marking code keep a tree well-formed

Both passes change nodes that they have listed before.  Whatever they do to one node, the tree stays
well-formed and the nodes that hold others go on doing so, whether the pass has taken them out of the
page meanwhile or not. -/

namespace Folio.Html.Tree

variable {t t' t₁ : Tree} {id : NodeId}

/-- A well-formed tree that has grown out of another: no node has gone, and what a node can hold has not
changed. -/
structure Grown (t t' : Tree) : Prop where
  wellFormed : t'.WellFormed
  size_le : t.cells.size ≤ t'.cells.size
  holds_eq : ∀ i < t.cells.size, (t'.cell i).kind.holds = (t.cell i).kind.holds

theorem Grown.refl (ht : t.WellFormed) : t.Grown t := ⟨ht, Nat.le_refl _, fun _ _ => rfl⟩

theorem Grown.trans (h : t.Grown t₁) (h' : t₁.Grown t') : t.Grown t' := by
  refine ⟨h'.wellFormed, Nat.le_trans h.size_le h'.size_le, fun i hi => ?_⟩
  rw [h'.holds_eq i (Nat.lt_of_lt_of_le hi h.size_le), h.holds_eq i hi]

/-- A node of the tree that can hold others. -/
def IsHolder (t : Tree) (id : NodeId) : Prop := id < t.cells.size ∧ (t.cell id).kind.holds = true

theorem Grown.isHolder (h : t.Grown t') (hid : t.IsHolder id) : t'.IsHolder id :=
  ⟨Nat.lt_of_lt_of_le hid.1 h.size_le, (h.holds_eq id hid.1).trans hid.2⟩

/-- A pass over nodes that hold others grows the tree if each step does. -/
theorem Grown.foldl {step : Tree → NodeId → Tree}
    (hstep : ∀ {t : Tree} {id : NodeId}, t.WellFormed → t.IsHolder id → t.Grown (step t id)) :
    ∀ (ids : List NodeId) {t : Tree}, t.WellFormed → (∀ id ∈ ids, t.IsHolder id) →
      t.Grown (ids.foldl step t)
  | [], _, ht, _ => .refl ht
  | id :: ids, t, ht, hids => by
    have hfirst := hstep ht (hids id List.mem_cons_self)
    have hrest := Grown.foldl hstep ids hfirst.wellFormed fun i hi =>
      hfirst.isHolder (hids i (List.mem_cons_of_mem id hi))
    exact hfirst.trans hrest

/-- The elements below a node hold others. -/
theorem isHolder_of_mem_elementsBelow {r : NodeId} {q : Element → Bool}
    (h : id ∈ t.elementsBelow r q) : t.IsHolder id := by
  have helement := (List.mem_filter.mp h).2
  cases hkind : (t.cell id).kind with
  | element e =>
      refine ⟨Nat.lt_of_not_le fun hle => ?_, by rw [hkind]; rfl⟩
      rw [cell_of_size_le hle] at hkind
      cases hkind
  | document => simp [isElementOf, element?, hkind] at helement
  | text s => simp [isElementOf, element?, hkind] at helement
  | comment s => simp [isElementOf, element?, hkind] at helement
  | doctype => simp [isElementOf, element?, hkind] at helement

/-! ### Steps -/

theorem WellFormed.grown_modifyElement (ht : t.WellFormed) (id : NodeId) (f : Element → Element) :
    t.Grown (t.modifyElement id f) :=
  ⟨ht.modifyElement id f, by simp, fun i _ =>
    holds_of_kind (cell_modifyElement id f) (holds_mapKind f _) i⟩

theorem WellFormed.grown_detach (ht : t.WellFormed) (id : NodeId) : t.Grown (t.detach id) :=
  ⟨ht.detach id, by simp, fun i _ => by rw [kind_detach]⟩

theorem WellFormed.grown_unwrap (ht : t.WellFormed) (id : NodeId) : t.Grown (t.unwrap id) :=
  ⟨ht.unwrap id, by simp, fun i _ => by rw [kind_unwrap]⟩

/-- A text can be given another text. -/
theorem WellFormed.grown_setText (ht : t.WellFormed) {s : String} (h : t.text? id = some s)
    (s' : String) : t.Grown (t.modify id fun c => { c with kind := .text s' }) := by
  have hcell := cell_setText h s'
  have hholds : (NodeKind.text s').holds = (t.cell id).kind.holds := by
    simp only [text?] at h
    split at h
    · rw [‹(t.cell id).kind = _›]
      rfl
    · cases h
  exact ⟨ht.of_kind hcell hholds (by simp), by simp, fun i _ => holds_of_kind hcell hholds i⟩

theorem WellFormed.grown_append_create (ht : t.WellFormed) {kind : NodeKind}
    (hkind : kind ≠ .document) (hid : t.IsHolder id) :
    t.Grown ((t.create kind).append id t.cells.size) := by
  refine ⟨ht.append_create id kind hkind hid.1 hid.2, by simp, fun i hi => ?_⟩
  rw [kind_append, cell_create_ne t kind (Nat.ne_of_lt hi)]

theorem WellFormed.grown_appendText (ht : t.WellFormed) (hid : t.IsHolder id) (s : String) :
    t.Grown (t.appendText id s) := by
  unfold appendText
  split
  · split
    · exact ht.grown_setText ‹_› _
    · exact ht.grown_append_create nofun hid
  · exact ht.grown_append_create nofun hid

/-! ### The passes -/

theorem WellFormed.grown_setFormula (ht : t.WellFormed) (hid : t.IsHolder id) :
    t.Grown (t.setFormula id) := by
  have hemptied : ∀ (ids : List NodeId) {t : Tree}, t.WellFormed → t.Grown (ids.foldl Tree.detach t) := by
    intro ids
    induction ids with
    | nil => exact fun ht => .refl ht
    | cons i ids ih => exact fun ht => (ht.grown_detach i).trans (ih (ht.detach i))
  have hempty := hemptied (t.children id) ht
  have hfilled := hempty.wellFormed.grown_appendText (hempty.isHolder hid)
    (delimited (t.isElementOf id (·.hasClass displayMathClass)) (t.textContent id))
  have hlabelled := (hempty.trans hfilled).trans (hfilled.wellFormed.grown_modifyElement id
    fun e => (e.setAttr "aria-label" (t.textContent id)).addClass "math")
  simp only [setFormula]
  split
  · have hblock := hlabelled.trans (hlabelled.wellFormed.grown_modifyElement id
      fun e => { e with tag := "div" })
    split
    · exact hblock.trans (hblock.wellFormed.grown_unwrap _)
    · exact hblock
  · exact hlabelled

theorem WellFormed.grown_setMath (ht : t.WellFormed) (root : NodeId) : t.Grown (t.setMath root) :=
  Grown.foldl WellFormed.grown_setFormula _ ht fun _ => isHolder_of_mem_elementsBelow

theorem WellFormed.grown_markInlineCode (ht : t.WellFormed) (root : NodeId) :
    t.Grown (t.markInlineCode root) := by
  refine Grown.foldl (fun ht _ => ?_) _ ht fun _ => isHolder_of_mem_elementsBelow
  simp only [markCode]
  split
  · exact .refl ht
  · exact ht.grown_modifyElement _ _

end Folio.Html.Tree
