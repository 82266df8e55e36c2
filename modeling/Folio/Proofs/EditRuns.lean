import Folio.Proofs.Links

/-! # Trees that edits make

An edit names nodes of a tree and puts some of them under others (`Tree.puts`).  As long as no node is
put under itself or under one of its own descendants, an edit keeps the links consistent
(`Consistent.apply`), and a node has a parent that it did not have before only if it was put there
(`Consistent.parent?_apply`).  So the links of every tree that edits make from the empty one are
consistent, and the document has no parent unless it was put somewhere (`consistent_of_allowsAll`).
Nothing keeps it from being put somewhere: a node that is not in the document yet can take it in
(`exists_document_with_parent`).  If nodes are put under elements and the document only, and no document is
put anywhere, the tree is well-formed (`wellFormed_of_fits`). -/

namespace Folio.Html

/-- A node that is put under another, with the tree at that moment. -/
structure Put where
  tree : Tree
  child : NodeId
  parent : NodeId

/-- The nodes that an edit names. -/
def Edit.nodes : Edit → List NodeId
  | .create _ => []
  | .append parent child => [parent, child]
  | .appendText id _ => [id]
  | .insertBefore sibling child => [sibling, child]
  | .detach id => [id]
  | .moveChildren source target => [source, target]
  | .unwrap id => [id]
  | .wrap id wrapper => [id, wrapper]
  | .rename id _ | .setAttr id _ _ | .removeAttr id _ | .addClass id _ => [id]

namespace Tree

/-- The nodes that an edit puts under others, in order; wrapping puts two, one after the other. -/
def puts (t : Tree) : Edit → List Put
  | .append parent child => [⟨t, child, parent⟩]
  | .appendText id s =>
    if ((t.children id).getLast?.bind t.text?).isSome then []
    else [⟨t.create (.text s), t.cells.size, id⟩]
  | .insertBefore sibling child => (t.parent? sibling).toList.map fun p => ⟨t, child, p⟩
  | .moveChildren source target => (t.children source).map fun c => ⟨t, c, target⟩
  | .unwrap id => (t.parent? id).toList.flatMap fun p => (t.children id).map fun c => ⟨t, c, p⟩
  | .wrap id wrapper =>
    (t.parent? id).toList.flatMap fun p =>
      [⟨t, wrapper, p⟩, ⟨t.insertBefore id wrapper, id, wrapper⟩]
  | .create _ | .detach _ | .rename _ _ | .setAttr _ _ _ | .removeAttr _ _ | .addClass _ _ => []

/-- An edit is allowed if it names nodes of the tree and puts no node under itself or under one of its
own descendants. -/
structure Allows (t : Tree) (e : Edit) : Prop where
  nodes : ∀ n ∈ e.nodes, n < t.cells.size
  apart : ∀ q ∈ t.puts e, q.child ∉ q.parent :: q.tree.ancestors q.parent

instance (t : Tree) (e : Edit) : Decidable (t.Allows e) :=
  decidable_of_iff ((∀ n ∈ e.nodes, n < t.cells.size) ∧
      ∀ q ∈ t.puts e, q.child ∉ q.parent :: q.tree.ancestors q.parent)
    ⟨fun ⟨nodes, apart⟩ => ⟨nodes, apart⟩, fun h => ⟨h.nodes, h.apart⟩⟩

/-- Whether an edit puts the document nowhere. -/
def SparesDocument (t : Tree) (e : Edit) : Prop := ∀ q ∈ t.puts e, q.child ≠ document

instance (t : Tree) (e : Edit) : Decidable (t.SparesDocument e) :=
  inferInstanceAs (Decidable (∀ q ∈ t.puts e, q.child ≠ document))

/-- Whether `P` holds of each edit of a list and the tree that it is made to. -/
def Along (P : Tree → Edit → Prop) : Tree → List Edit → Prop
  | _, [] => True
  | t, e :: edits => P t e ∧ Along P (t.apply e) edits

instance decidableAlong (P : Tree → Edit → Prop) [∀ t e, Decidable (P t e)] :
    ∀ (t : Tree) (edits : List Edit), Decidable (Along P t edits)
  | _, [] => .isTrue trivial
  | t, e :: edits =>
    have := decidableAlong P (t.apply e) edits
    inferInstanceAs (Decidable (P t e ∧ Along P (t.apply e) edits))

variable {t t' : Tree} {id : NodeId}

/-! ### Moving children -/

theorem Consistent.parent?_moveChildren (ht : t.Consistent) {source target : NodeId}
    (hs : source < t.cells.size) (htarget : target < t.cells.size)
    (hup : ∀ c ∈ t.children source, ∀ k, ¬ t.Climbs k target c) (i : NodeId) :
    (t.moveChildren source target).parent? i =
      if i ∈ t.children source then some target else t.parent? i := by
  have hmem : ∀ c ∈ t.children source, c ≠ source ∧ t.parent? c = some source := fun c hc =>
    have hc := (ht.mem_children_iff source c).mp hc
    ⟨(ht.ne_of_parent hc).symm, hc⟩
  by_cases hne : source = target
  · subst hne
    rw [parent?, cell_moveChildren_self hs hmem]
    split
    · exact (hmem i ‹_›).2
    · rfl
  · have hapart : ∀ c ∈ t.children source, c < t.cells.size ∧ c ≠ source ∧ c ≠ target := fun c hc =>
      ⟨lt_size_of_parent (hmem c hc).2, (hmem c hc).1, fun heq => hup c hc 0 heq.symm⟩
    rw [parent?, cell_moveChildren hne hs htarget hapart]
    split
    · rw [if_neg fun hi => (hapart i hi).2.1 ‹_›, ‹i = source›]
      rfl
    · split
      · rw [if_neg fun hi => (hapart i hi).2.2 ‹_›, ‹i = target›]
        rfl
      · split <;> rfl

/-- The children of a node can be given to any node that is none of them and not below any of them. -/
theorem Consistent.moveChildren (ht : t.Consistent) {source target : NodeId}
    (hs : source < t.cells.size) (htarget : target < t.cells.size)
    (hup : ∀ c ∈ t.children source, ∀ k, ¬ t.Climbs k target c) :
    (t.moveChildren source target).Consistent := by
  have hparent := ht.parent?_moveChildren hs htarget hup
  have hsource := ht.mem_children_iff source
  by_cases hne : source = target
  · subst hne
    refine ht.congr (fun i => ?_) fun i => ?_
    · rw [hparent]
      split
      · exact ((hsource i).mp ‹_›).symm
      · rfl
    · rw [children, cell_moveChildren_self hs fun c hc =>
        ⟨(ht.ne_of_parent ((hsource c).mp hc)).symm, (hsource c).mp hc⟩]
      rfl
  · have hchildren : ∀ i, (t.moveChildren source target).children i =
        if i = source then [] else if i = target then t.children target ++ t.children source
        else t.children i := by
      intro i
      rw [children, cell_moveChildren hne hs htarget fun c hc =>
        ⟨lt_size_of_parent ((hsource c).mp hc), (ht.ne_of_parent ((hsource c).mp hc)).symm,
          fun heq => hup c hc 0 heq.symm⟩]
      split
      · rfl
      · split
        · rfl
        · split <;> rfl
    refine ⟨fun x c => ?_, fun x => ?_, fun i => ?_⟩
    · rw [hchildren, hparent]
      by_cases hc : c ∈ t.children source
      · rw [if_pos hc]
        split
        · rename_i hx
          simpa [hx] using Ne.symm hne
        · split
          · rename_i hx
            simp [hx, hc]
          · rename_i hx hx'
            rw [ht.mem_children_iff, (hsource c).mp hc]
            simp [Ne.symm hx, Ne.symm hx']
      · rw [if_neg hc]
        split
        · rename_i hx
          rw [hx, ← hsource c]
          simp [hc]
        · split
          · rename_i hx
            rw [hx, List.mem_append, ht.mem_children_iff]
            simp [hc]
          · exact ht.mem_children_iff x c
    · rw [hchildren]
      split
      · exact List.nodup_nil
      · split
        · refine List.nodup_append.mpr ⟨ht.children_nodup target, ht.children_nodup source, ?_⟩
          rintro c hc d hd rfl
          rw [ht.mem_children_iff, (hsource c).mp hd] at hc
          exact hne (Option.some.inj hc)
        · exact ht.children_nodup x
    · obtain ⟨m, hm⟩ := ht.reaches target
      have hend : (t.moveChildren source target).Reaches m target := hm.congr fun k b hk => by
        rw [hparent, if_neg fun hb => hup b hb k hk]
      refine ht.reaches_of_relinked (· ∈ t.children source) (fun n i hi _ _ => ?_) (fun i hi => ?_) i
      · exact ⟨m + 1, target, by rw [hparent, if_pos hi], hend⟩
      · rw [hparent, if_neg hi]

/-! ### One edit -/

/-- What an edit that puts some nodes under others makes of a tree: its links are consistent, and a node
has a parent only if it had it before or was put there. -/
structure Relinked (t t' : Tree) (puts : List Put) : Prop where
  consistent : t'.Consistent
  parent_cases : ∀ n p, t'.parent? n = some p →
    t.parent? n = some p ∨ ∃ q ∈ puts, q.child = n ∧ q.parent = p

variable {puts : List Put}

theorem Relinked.of_imp (ht : t'.Consistent)
    (h : ∀ n p, t'.parent? n = some p → t.parent? n = some p) : t.Relinked t' puts :=
  ⟨ht, fun n p hp => .inl (h n p hp)⟩

theorem Relinked.of_kind {kind : NodeKind} (ht : t.Consistent)
    (hcell : ∀ i, t'.cell i = if i = id then { t.cell id with kind := kind } else t.cell i) :
    t.Relinked t' puts :=
  .of_imp (ht.of_kind hcell) fun n _ h => (parent?_of_kind hcell n).symm.trans h

theorem Relinked.of_put {q : Put} (hq : q ∈ puts) (ht : t'.Consistent)
    (h : ∀ n, t'.parent? n = if n = q.child then some q.parent else t.parent? n) :
    t.Relinked t' puts := by
  refine ⟨ht, fun n p hp => ?_⟩
  rw [h] at hp
  split at hp
  · exact .inr ⟨q, hq, (‹n = q.child›).symm, Option.some.inj hp⟩
  · exact .inl hp

theorem Consistent.relinked_appendText (ht : t.Consistent) (hid : id < t.cells.size) (s : String) :
    t.Relinked (t.appendText id s) (t.puts (.appendText id s)) := by
  have hnew (h : ((t.children id).getLast?.bind t.text?).isSome = false) :
      t.Relinked ((t.create (.text s)).append id t.cells.size) (t.puts (.appendText id s)) := by
    refine .of_put (q := ⟨t.create (.text s), t.cells.size, id⟩) (by simp [Tree.puts, h])
      (ht.append_create hid _) ?_
    exact ht.parent?_append_create hid _
  unfold Tree.appendText
  split
  · split
    · exact .of_kind ht (cell_setText ‹_› _)
    · exact hnew (by simp [*])
  · exact hnew (by simp [*])

theorem Consistent.relinked_unwrap (ht : t.Consistent) (id : NodeId) :
    t.Relinked (t.unwrap id) (t.puts (.unwrap id)) := by
  cases hparent : t.parent? id with
  | none => exact .of_imp (ht.unwrap id) (by simp [unwrap_of_parent_none hparent])
  | some r =>
    refine ⟨ht.unwrap id, fun n p hp => ?_⟩
    rw [ht.parent?_unwrap hparent] at hp
    split at hp
    · cases hp
    · split at hp
      · have hin : n ∈ t.children id := ‹_›
        exact .inr ⟨⟨t, n, r⟩, by simpa [Tree.puts, hparent] using hin, rfl, Option.some.inj hp⟩
      · exact .inl hp

theorem Consistent.relinked_wrap (ht : t.Consistent) {wrapper : NodeId}
    (h : t.Allows (.wrap id wrapper)) :
    t.Relinked (t.wrap id wrapper) (t.puts (.wrap id wrapper)) := by
  cases hparent : t.parent? id with
  | none => exact .of_imp (by simpa [Tree.wrap, hparent] using ht) (by simp [Tree.wrap, hparent])
  | some r =>
    obtain ⟨hnodes, hapart⟩ := h
    have hid : id < t.cells.size := hnodes id (by simp [Edit.nodes])
    have hwrapper : wrapper < t.cells.size := hnodes wrapper (by simp [Edit.nodes])
    have hputs : t.puts (.wrap id wrapper) =
        [⟨t, wrapper, r⟩, ⟨t.insertBefore id wrapper, id, wrapper⟩] := by simp [Tree.puts, hparent]
    have hfirst := ht.not_mem_ancestors_iff.mp (hapart ⟨t, wrapper, r⟩ (by simp [hputs]))
    have hplaced := ht.insertBefore hparent hwrapper hfirst
    have hsecond := hplaced.not_mem_ancestors_iff.mp
      (hapart ⟨t.insertBefore id wrapper, id, wrapper⟩ (by simp [hputs]))
    have hid' : id < (t.insertBefore id wrapper).cells.size := by simpa using hid
    have hwrapper' : wrapper < (t.insertBefore id wrapper).cells.size := by simpa using hwrapper
    simp only [Tree.wrap, hparent, hputs]
    refine ⟨hplaced.append hwrapper' hid' hsecond, fun n p hp => ?_⟩
    rw [hplaced.parent?_of_placed_detach (placed_append hwrapper' hid' (hsecond 0)),
      ht.parent?_of_placed_detach
        (placed_insertBefore hparent (ht.parent_lt_size hparent) hwrapper (hfirst 0))] at hp
    split at hp
    · exact .inr ⟨_, List.mem_cons_of_mem _ List.mem_cons_self, (‹n = id›).symm, Option.some.inj hp⟩
    · split at hp
      · exact .inr ⟨_, List.mem_cons_self, (‹n = wrapper›).symm, Option.some.inj hp⟩
      · exact .inl hp

/-- **One edit**: an allowed edit keeps the links consistent, and gives a node a parent only by putting it
there. -/
theorem Consistent.relinked (ht : t.Consistent) {e : Edit} (h : t.Allows e) :
    t.Relinked (t.apply e) (t.puts e) := by
  have hnodes := h.nodes
  have hapart : ∀ q ∈ t.puts e, q.tree = t → ∀ k, ¬ t.Climbs k q.parent q.child := fun q hq heq =>
    ht.not_mem_ancestors_iff.mp (heq ▸ h.apart q hq)
  cases e with
  | create kind =>
    exact .of_imp (ht.create kind) fun n p hp => (parent?_create t kind n).symm.trans hp
  | append parent child =>
    have hmem : (⟨t, child, parent⟩ : Put) ∈ t.puts (.append parent child) := List.mem_singleton_self _
    have hup := hapart _ hmem rfl
    have hparent : parent < t.cells.size := hnodes parent (by simp [Edit.nodes])
    have hchild : child < t.cells.size := hnodes child (by simp [Edit.nodes])
    exact .of_put hmem (ht.append hparent hchild hup)
      (ht.parent?_of_placed_detach (placed_append hparent hchild (hup 0)))
  | appendText id s => exact ht.relinked_appendText (hnodes id (by simp [Edit.nodes])) s
  | insertBefore sibling child =>
    cases hparent : t.parent? sibling with
    | none =>
      exact .of_imp (by simpa [Tree.apply, Tree.insertBefore, hparent] using ht)
        (by simp [Tree.apply, Tree.insertBefore, hparent])
    | some r =>
      have hmem : (⟨t, child, r⟩ : Put) ∈ t.puts (.insertBefore sibling child) := by
        simp [Tree.puts, hparent]
      have hup := hapart _ hmem rfl
      have hchild : child < t.cells.size := hnodes child (by simp [Edit.nodes])
      exact .of_put hmem (ht.insertBefore hparent hchild hup) (ht.parent?_of_placed_detach
        (placed_insertBefore hparent (ht.parent_lt_size hparent) hchild (hup 0)))
  | detach id => exact .of_imp (ht.detach id) fun _ _ => ht.parent?_of_detach
  | moveChildren source target =>
    have hmem : ∀ c ∈ t.children source,
        (⟨t, c, target⟩ : Put) ∈ t.puts (.moveChildren source target) := fun _ => List.mem_map_of_mem
    have hup : ∀ c ∈ t.children source, ∀ k, ¬ t.Climbs k target c := fun c hc => hapart _ (hmem c hc) rfl
    have hsource : source < t.cells.size := hnodes source (by simp [Edit.nodes])
    have htarget : target < t.cells.size := hnodes target (by simp [Edit.nodes])
    refine ⟨ht.moveChildren hsource htarget hup, fun n p hp => ?_⟩
    rw [Tree.apply, ht.parent?_moveChildren hsource htarget hup] at hp
    split at hp
    · exact .inr ⟨_, hmem n ‹_›, rfl, Option.some.inj hp⟩
    · exact .inl hp
  | unwrap id => exact ht.relinked_unwrap id
  | wrap id wrapper => exact ht.relinked_wrap h
  | rename id tag => exact .of_kind ht (cell_modifyElement id _)
  | setAttr id name value => exact .of_kind ht (cell_modifyElement id _)
  | removeAttr id name => exact .of_kind ht (cell_modifyElement id _)
  | addClass id cls => exact .of_kind ht (cell_modifyElement id _)

/-! ### All edits -/

theorem Consistent.foldl_apply (edits : List Edit) :
    ∀ {t : Tree}, t.Consistent → Along Allows t edits → (edits.foldl apply t).Consistent := by
  induction edits with
  | nil => exact fun ht _ => ht
  | cons e edits ih => exact fun ht ⟨h, hrest⟩ => ih (ht.relinked h).consistent hrest

/-- The document is left without a parent by edits that put it nowhere. -/
theorem Consistent.document_parent_foldl (edits : List Edit) :
    ∀ {t : Tree}, t.Consistent → Along Allows t edits → Along SparesDocument t edits →
      t.parent? document = none → (edits.foldl apply t).parent? document = none := by
  induction edits with
  | nil => exact fun _ _ _ h => h
  | cons e edits ih =>
    intro t ht ⟨hallows, hrest⟩ ⟨hspares, hspared⟩ h
    have hedit := ht.relinked hallows
    refine ih hedit.consistent hrest hspared (Option.eq_none_iff_forall_ne_some.mpr fun p hp => ?_)
    rcases hedit.parent_cases document p hp with hold | ⟨q, hq, hchild, -⟩
    · rw [h] at hold
      cases hold
    · exact hspares q hq hchild

/-- **Links of edited trees**: in every tree that edits make from the empty one, no node being put under
itself or under one of its own descendants, child lists and parents agree, each child is listed once and
every chain of parents ends; and the document has no parent unless some edit put it somewhere. -/
theorem consistent_foldl_apply (edits : List Edit) (h : Along Allows empty edits) :
    (edits.foldl apply empty).Consistent ∧
      (Along SparesDocument empty edits → (edits.foldl apply empty).parent? document = none) :=
  ⟨empty_wellFormed.consistent.foldl_apply edits h, fun hspares =>
    empty_wellFormed.consistent.document_parent_foldl edits h hspares empty_wellFormed.document_parent⟩

/-! ### Trees that are well-formed -/

/-- No node has gone, and neither which nodes hold others nor which are documents has changed. -/
structure KeepsKinds (t t' : Tree) : Prop where
  size_le : t.cells.size ≤ t'.cells.size
  holds_eq : ∀ i < t.cells.size, (t'.cell i).kind.holds = (t.cell i).kind.holds
  document_iff : ∀ i < t.cells.size, (t'.cell i).kind = .document ↔ (t.cell i).kind = .document

theorem KeepsKinds.of_kind_eq (hsize : t.cells.size ≤ t'.cells.size)
    (h : ∀ i < t.cells.size, (t'.cell i).kind = (t.cell i).kind) : t.KeepsKinds t' :=
  ⟨hsize, fun i hi => by rw [h i hi], fun i hi => by rw [h i hi]⟩

theorem KeepsKinds.modifyElement (t : Tree) (id : NodeId) (f : Element → Element) :
    t.KeepsKinds (t.modifyElement id f) := by
  refine ⟨by simp, fun i _ => holds_of_kind (cell_modifyElement id f) (holds_mapKind f _) i, fun i _ => ?_⟩
  rw [cell_modifyElement]
  split
  · subst i
    exact mapKind_eq_document_iff f _
  · rfl

theorem KeepsKinds.appendText (t : Tree) (id : NodeId) (s : String) : t.KeepsKinds (t.appendText id s) := by
  have hnew : t.KeepsKinds ((t.create (.text s)).append id t.cells.size) :=
    .of_kind_eq (by simp) fun i hi => by rw [kind_append, cell_create_ne t _ (Nat.ne_of_lt hi)]
  unfold Tree.appendText
  split
  · rename_i last _
    split
    · rename_i old hold
      have hkind : (t.cell last).kind = .text old := by
        unfold text? at hold
        split at hold
        · rw [‹(t.cell last).kind = _›, Option.some.inj hold]
        · cases hold
      have hcell := cell_setText hold (old ++ s)
      refine ⟨by simp, fun i _ => holds_of_kind hcell (by rw [hkind]; rfl) i, fun i _ => ?_⟩
      rw [hcell]
      split
      · subst i
        simp [hkind]
      · rfl
    · exact hnew
  · exact hnew

theorem kind_insertBefore (t : Tree) (sibling child i : NodeId) :
    ((t.insertBefore sibling child).cell i).kind = (t.cell i).kind := by
  unfold insertBefore
  split <;> simp

/-- An edit changes no node into one that holds more or less, or into a document. -/
theorem keepsKinds_apply (t : Tree) (e : Edit) : t.KeepsKinds (t.apply e) := by
  cases e with
  | create kind => exact .of_kind_eq (by simp [apply]) fun i hi => by rw [apply, cell_create_ne t _ (Nat.ne_of_lt hi)]
  | append parent child => exact .of_kind_eq (by simp [apply]) fun i _ => kind_append t parent child i
  | appendText id s => exact .appendText t id s
  | insertBefore sibling child =>
    exact .of_kind_eq (by simp [apply]) fun i _ => kind_insertBefore t sibling child i
  | detach id => exact .of_kind_eq (by simp [apply]) fun i _ => kind_detach t id i
  | moveChildren source target =>
    exact .of_kind_eq (by simp [apply]) fun i _ => by simp [apply, Tree.moveChildren, kind_foldl_setParent]
  | unwrap id => exact .of_kind_eq (by simp [apply]) fun i _ => kind_unwrap t id i
  | wrap id wrapper =>
    refine .of_kind_eq (by simp [apply]) fun i _ => ?_
    rw [apply, Tree.wrap]
    split
    · rfl
    · rw [kind_append, kind_insertBefore]
  | rename id tag => exact .modifyElement t id _
  | setAttr id name value => exact .modifyElement t id _
  | removeAttr id name => exact .modifyElement t id _
  | addClass id cls => exact .modifyElement t id _

/-- An edit fits if what it puts somewhere comes under an element or a document, and is no document. -/
def Fits (t : Tree) (e : Edit) : Prop :=
  ∀ q ∈ t.puts e, ((t.apply e).cell q.parent).kind.holds = true ∧ ((t.apply e).cell q.child).kind ≠ .document

instance (t : Tree) (e : Edit) : Decidable (t.Fits e) :=
  inferInstanceAs (Decidable (∀ q ∈ t.puts e, ((t.apply e).cell q.parent).kind.holds = true ∧
    ((t.apply e).cell q.child).kind ≠ .document))

/-- The first node of a tree is a document. -/
structure HasDocument (t : Tree) : Prop where
  lt_size : document < t.cells.size
  kind : (t.cell document).kind = .document

theorem KeepsKinds.hasDocument (h : t.KeepsKinds t') (ht : t.HasDocument) : t'.HasDocument :=
  ⟨Nat.lt_of_lt_of_le ht.lt_size h.size_le, (h.document_iff document ht.lt_size).mpr ht.kind⟩

/-- An allowed edit that fits keeps a tree well-formed. -/
theorem WellFormed.apply_of_fits (ht : t.WellFormed) (hdocument : t.HasDocument) {e : Edit} (h : t.Allows e)
    (hfits : t.Fits e) : (t.apply e).WellFormed := by
  have hedit := ht.consistent.relinked h
  have hkinds := t.keepsKinds_apply e
  have hparent : ∀ c p, (t.apply e).parent? c = some p →
      ((t.apply e).cell p).kind.holds = true ∧ ((t.apply e).cell c).kind ≠ .document := by
    intro c p hp
    rcases hedit.parent_cases c p hp with hold | ⟨q, hq, rfl, rfl⟩
    · rw [hkinds.holds_eq p (ht.consistent.parent_lt_size hold), Ne,
        hkinds.document_iff c (lt_size_of_parent hold)]
      exact ⟨ht.holds_of_parent c p hold, ht.kind_of_parent c p hold⟩
    · exact hfits q hq
  have hroot : (t.apply e).parent? document = none :=
    Option.eq_none_iff_forall_ne_some.mpr fun p hp => (hparent document p hp).2 (hkinds.hasDocument hdocument).kind
  exact ⟨hedit.consistent.linked hroot, fun c p hp => (hparent c p hp).1, fun c p hp => (hparent c p hp).2⟩

theorem WellFormed.foldl_apply (edits : List Edit) :
    ∀ {t : Tree}, t.WellFormed → t.HasDocument → Along Allows t edits → Along Fits t edits →
      (edits.foldl apply t).WellFormed := by
  induction edits with
  | nil => exact fun ht _ _ _ => ht
  | cons e edits ih =>
    intro t ht hdocument ⟨hallows, hrest⟩ ⟨hfits, hfitting⟩
    exact ih (ht.apply_of_fits hdocument hallows hfits) ((t.keepsKinds_apply e).hasDocument hdocument) hrest hfitting

/-- **Well-formed trees**: what edits make of the empty tree is well-formed if none puts a node under itself
or under one of its own descendants, under a text, a comment or a document type, or a document anywhere. -/
theorem wellFormed_of_fits (edits : List Edit) (h : Along Allows empty edits) (hfits : Along Fits empty edits) :
    (edits.foldl apply empty).WellFormed :=
  empty_wellFormed.foldl_apply edits ⟨by decide, rfl⟩ h hfits

/-- A paragraph with a text, which is wrapped. -/
example : (([.create (.element (.ofHtml "p")), .append 0 1, .appendText 1 "a", .create (.element (.ofHtml "b")),
    .wrap 2 3] : List Edit).foldl apply empty).WellFormed :=
  wellFormed_of_fits _ (by decide +kernel) (by decide +kernel)

/-- A division with two texts around a span that is wrapped, unwrapped and moved around. -/
def shuffledEdits : List Edit :=
  [.create (.element (.ofHtml "div")), .append 0 1, .create (.element (.ofHtml "span")),
    .appendText 1 "a", .append 1 2, .create (.element (.ofHtml "b")), .wrap 2 4, .appendText 1 "c",
    .appendText 2 "b", .insertBefore 3 2, .insertBefore 2 2, .moveChildren 2 4, .unwrap 4, .detach 3,
    .create (.element (.ofHtml "p")), .moveChildren 1 7, .append 1 7, .wrap 7 3, .rename 7 "q"]

theorem consistent_foldl_apply_shuffled :
    Along Allows empty shuffledEdits ∧ Along SparesDocument empty shuffledEdits ∧
      (shuffledEdits.foldl apply empty).Consistent ∧
      (shuffledEdits.foldl apply empty).parent? document = none := by
  have hallows : Along Allows empty shuffledEdits := by decide +kernel
  have hspares : Along SparesDocument empty shuffledEdits := by decide +kernel
  obtain ⟨hconsistent, hdocument⟩ := consistent_foldl_apply shuffledEdits hallows
  exact ⟨hallows, hspares, hconsistent, hdocument hspares⟩

/-- A division that is not in the document takes the document in: nothing is put under itself or below
itself, and still the document has a parent. -/
theorem exists_document_with_parent :
    Along Allows empty [.create (.element (.ofHtml "div")), .append 1 0] ∧
      ([Edit.create (.element (.ofHtml "div")), .append 1 0].foldl apply empty).parent? document =
        some 1 := by
  decide +kernel

end Tree

end Folio.Html
