import Folio.Proofs.Grove

/-! # Edits of a grove

What the edits of a tree do to the grove that stands in one place: an element is changed, a node is
taken out, a node is replaced by what is below it, a node gets a wrapper. -/

namespace Folio.Html.Tree

variable {t t' : Tree} {p id : NodeId} {pre post : List NodeId} {kind : NodeKind}
  {below next : Grove} {e : Element}

/-- Nodes that get another parent hold what they held. -/
theorem Holds.reparent {q : NodeId} : ∀ {g : Grove}, t.Holds p g → g.ids.Nodup →
    (∀ i ∈ g.tops, t'.cell i = { t.cell i with parent := some q }) →
    (∀ i ∈ g.ids, i ∉ g.tops → t'.cell i = t.cell i) → t'.Holds q g
  | .nil, _, _, _, _ => trivial
  | .node id _ below next, ⟨hcell, hkind, hbelow, hnext⟩, hnodup, htops, hothers => by
    rw [Grove.ids, List.nodup_cons, List.nodup_append, List.mem_append, not_or] at hnodup
    obtain ⟨⟨hidbelow, hidnext⟩, -, hnextnodup, hdisjoint⟩ := hnodup
    refine ⟨?_, hkind, hbelow.congr fun i hi => ?_, hnext.reparent hnextnodup ?_ ?_⟩
    · rw [htops id List.mem_cons_self, hcell]
    · refine hothers i (List.mem_cons_of_mem _ (List.mem_append_left _ hi)) fun hmem => ?_
      rcases List.mem_cons.mp hmem with rfl | hmem
      · exact hidbelow hi
      · exact hdisjoint i hi i (Grove.mem_ids_of_mem_tops hmem) rfl
    · exact fun i hi => htops i (List.mem_cons_of_mem _ hi)
    · intro i hi htop
      refine hothers i (List.mem_cons_of_mem _ (List.mem_append_right _ hi)) fun hmem => ?_
      rcases List.mem_cons.mp hmem with rfl | hmem
      · exact hidnext hi
      · exact htop hmem

theorem Stands.cell (h : t.Stands p pre (.node id kind below next) post) :
    t.cell id = ⟨kind, some p, below.tops⟩ := h.holds.1

theorem Stands.parent (h : t.Stands p pre (.node id kind below next) post) :
    t.parent? id = some p := by
  rw [parent?, h.cell]

theorem Stands.mem_children (h : t.Stands p pre (.node id kind below next) post) :
    id ∈ t.children p := by
  rw [h.children]
  simp [Grove.tops]

/-- A node and what is around it are apart from what is below it. -/
theorem Stands.apart_below (h : t.Stands p pre (.node id kind below next) post) :
    ∀ i ∈ below.ids, i < t.cells.size ∧ i ≠ id ∧ i ≠ p := by
  intro i hi
  have hmem : i ∈ (Grove.node id kind below next).ids :=
    List.mem_cons_of_mem _ (List.mem_append_left _ hi)
  have hnodup := h.nodup
  rw [Grove.ids, List.nodup_cons, List.mem_append, not_or] at hnodup
  exact ⟨h.holds.lt_size hmem, fun heq => hnodup.1.1 (heq ▸ hi), (h.apart i hmem).1⟩

/-! ### Changing an element -/

/-- An element is changed in its place. -/
theorem Stands.modifyElement (h : t.Stands p pre (.node id (.element e) below next) post)
    (f : Element → Element) :
    t.Replaces (t.modifyElement id f) p pre (.node id (.element e) below next)
      (.node id (.element (f e)) below next) post := by
  have hself : (t.modifyElement id f).cell id = ⟨.element (f e), some p, below.tops⟩ := by
    rw [cell_modifyElement, if_pos rfl, h.cell]
    rfl
  have hother : ∀ i, i ≠ id → (t.modifyElement id f).cell i = t.cell i := fun i hi => by
    rw [cell_modifyElement, if_neg hi]
  have hp : (t.modifyElement id f).cell p = t.cell p :=
    hother p (Ne.symm (h.apart id List.mem_cons_self).1)
  have hnodup := h.nodup
  rw [Grove.ids, List.nodup_cons, List.mem_append, not_or] at hnodup
  obtain ⟨-, -, hbelow, hnext⟩ := h.holds
  refine h.replaces h.owner_lt_size (by simp) ?_ ⟨hself, ⟨by simp, .inl rfl⟩, ?_, ?_⟩ h.nodup
    (fun i hi => .inl hi) fun i _ _ hmem => hother i fun heq => hmem (heq ▸ List.mem_cons_self)
  · rw [hp]
    exact h.cell_owner rfl
  · exact hbelow.congr fun i hi => hother i fun heq => hnodup.1.1 (heq ▸ hi)
  · exact hnext.congr fun i hi => hother i fun heq => hnodup.1.2 (heq ▸ hi)

/-! ### Taking a node out -/

theorem filter_ne_of_not_mem {l : List NodeId} (h : id ∉ l) : l.filter (· ≠ id) = l :=
  List.filter_eq_self.mpr fun _ hi => decide_eq_true fun heq => h (heq ▸ hi)

/-- A node is taken out with what is below it. -/
theorem Stands.detach (h : t.Stands p pre (.single id kind below) post) :
    t.Replaces (t.detach id) p pre (.single id kind below) .nil post := by
  have hp := h.owner_lt_size
  obtain ⟨hne, hpre, hpost⟩ := h.apart id List.mem_cons_self
  have hcell := cell_detach h.parent hp hne.symm
  have hfilter : (t.children p).filter (· ≠ id) = pre ++ ([] ++ post) := by
    rw [h.children, List.filter_append, List.filter_append, filter_ne_of_not_mem hpre,
      filter_ne_of_not_mem hpost]
    simp [Grove.tops]
  have howner : (t.detach id).cell p = { t.cell p with children := pre ++ ([] ++ post) } := by
    rw [hcell, if_neg hne.symm, if_pos rfl, hfilter]
  refine h.replaces hp (by simp) howner trivial List.nodup_nil (by simp [Grove.ids]) ?_
  intro i _ hi hmem
  have hself : i ≠ id := fun heq => hmem (heq ▸ List.mem_cons_self)
  rw [hcell, if_neg hself, if_neg hi]

/-! ### Unwrapping a node -/

theorem takeWhile_ne_append {l l' : List NodeId} (h : id ∉ l) :
    (l ++ id :: l').takeWhile (· ≠ id) = l := by
  have hall : ∀ i ∈ l, decide (i ≠ id) = true := fun i hi =>
    decide_eq_true fun heq => h (heq ▸ hi)
  rw [List.takeWhile_append_of_pos hall]
  simp

theorem dropWhile_ne_append {l l' : List NodeId} (h : id ∉ l) :
    (l ++ id :: l').dropWhile (· ≠ id) = id :: l' := by
  have hall : ∀ i ∈ l, decide (i ≠ id) = true := fun i hi =>
    decide_eq_true fun heq => h (heq ▸ hi)
  rw [List.dropWhile_append_of_pos hall]
  simp

/-- A node is replaced by what is below it. -/
theorem Stands.unwrap (h : t.Stands p pre (.single id kind below) post) :
    t.Replaces (t.unwrap id) p pre (.single id kind below) below post := by
  obtain ⟨hne, hpre, hpost⟩ := h.apart id List.mem_cons_self
  have hbelow : t.children id = below.tops := by rw [Tree.children, h.cell]
  have hcell := cell_unwrap h.parent h.mem_children hne.symm fun c hc =>
    h.apart_below c (Grove.mem_ids_of_mem_tops (hbelow ▸ hc))
  rw [hbelow] at hcell
  have hsplice : spliceAt id below.tops (t.children p) = pre ++ (below.tops ++ post) := by
    rw [h.children, spliceAt]
    simp only [Grove.tops, List.cons_append, List.nil_append]
    rw [takeWhile_ne_append hpre, dropWhile_ne_append hpre, List.append_assoc]
    rfl
  have howner : (t.unwrap id).cell p = { t.cell p with children := pre ++ (below.tops ++ post) } := by
    rw [hcell, if_neg hne.symm, if_pos rfl, hsplice]
  have hin : ∀ i ∈ below.ids, (t.unwrap id).cell i =
      if i ∈ below.tops then { t.cell i with parent := some p } else t.cell i := fun i hi => by
    rw [hcell, if_neg (h.apart_below i hi).2.1, if_neg (h.apart_below i hi).2.2]
  refine h.replaces h.owner_lt_size (by simp) howner ?_ h.inside.nodup ?_ ?_
  · refine h.inside.holds.reparent h.inside.nodup (fun i hi => ?_) fun i hi htop => ?_
    · rw [hin i (Grove.mem_ids_of_mem_tops hi), if_pos hi]
    · rw [hin i hi, if_neg htop]
  · exact fun i hi => .inl (List.mem_cons_of_mem _ (List.mem_append_left _ hi))
  · intro i _ hi hmem
    have hout : i ∉ below.tops := fun htop =>
      hmem (List.mem_cons_of_mem _ (List.mem_append_left _ (Grove.mem_ids_of_mem_tops htop)))
    have hself : i ≠ id := fun heq => hmem (heq ▸ List.mem_cons_self)
    rw [hcell, if_neg hself, if_neg hi, if_neg hout]

/-! ### Wrapping a node -/

/-- A new node is put around a node. -/
theorem Stands.wrap (h : t.Stands p pre (.single id kind below) post) (w : Element) :
    t.Replaces ((t.create (.element w)).wrap id t.cells.size) p pre (.single id kind below)
      (.single t.cells.size (.element w) (.single id kind below)) post := by
  obtain ⟨hne, hpre, hpost⟩ := h.apart id List.mem_cons_self
  have hp := h.owner_lt_size
  have hid : id < t.cells.size := lt_size_of_parent h.parent
  have hpn : p ≠ t.cells.size := Nat.ne_of_lt hp
  have hidn : id ≠ t.cells.size := Nat.ne_of_lt hid
  have hmade : ∀ i, i ≠ t.cells.size → (t.create (.element w)).cell i = t.cell i := fun i hi =>
    cell_create_ne t _ hi
  have hparent : (t.create (.element w)).parent? id = some p := by
    rw [parent?, hmade id hidn]
    exact h.parent
  have hfree : (t.create (.element w)).parent? t.cells.size = none := by
    rw [parent?, cell_create_self]
  have hcell := cell_wrap hparent hfree (Nat.lt_of_lt_of_le hp (by simp)) (by simp) hpn hne.symm
  have hchildren : (t.create (.element w)).children p = pre ++ id :: post := by
    rw [Tree.children, hmade p hpn]
    exact h.children
  have hplaced : (insertAt id t.cells.size (pre ++ id :: post)).filter (· ≠ id) =
      pre ++ ([t.cells.size] ++ post) := by
    rw [insertAt, takeWhile_ne_append hpre, dropWhile_ne_append hpre, List.filter_append,
      filter_ne_of_not_mem hpre, List.filter_cons_of_pos (by simpa using hidn.symm),
      List.filter_cons_of_neg (by simp), filter_ne_of_not_mem hpost]
    rfl
  have howner : ((t.create (.element w)).wrap id t.cells.size).cell p =
      { t.cell p with children := pre ++ ([t.cells.size] ++ post) } := by
    rw [hcell, if_neg hne.symm, if_neg hpn, if_pos rfl, hchildren, hplaced, hmade p hpn]
  have hrest : ∀ i < t.cells.size, i ≠ id → i ≠ p →
      ((t.create (.element w)).wrap id t.cells.size).cell i = t.cell i := fun i hlt hi hip => by
    rw [hcell, if_neg hi, if_neg (Nat.ne_of_lt hlt), if_neg hip, hmade i (Nat.ne_of_lt hlt)]
  have hin := h.apart_below
  refine h.replaces hp (by simp) howner
    ⟨?_, ⟨by simp, .inl rfl⟩, ⟨?_, h.holds.2.1, ?_, trivial⟩, trivial⟩ ?_ ?_ ?_
  · rw [hcell, if_neg hidn.symm, if_pos rfl, Tree.children, cell_create_self]
    rfl
  · rw [hcell, if_pos rfl, hmade id hidn, h.cell]
  · exact h.inside.holds.congr fun i hi => hrest i (hin i hi).1 (hin i hi).2.1 (hin i hi).2.2
  · refine List.nodup_cons.mpr ⟨fun hmem => ?_, by simpa [Grove.ids] using h.nodup⟩
    have hlt := h.holds.lt_size (by simpa [Grove.ids] using hmem)
    exact Nat.lt_irrefl _ hlt
  · intro i hi
    rcases List.mem_cons.mp hi with rfl | hi
    · exact .inr (Nat.le_refl _)
    · exact .inl (by simpa [Grove.ids] using hi)
  · intro i hlt hip hmem
    exact hrest i hlt (fun heq => hmem (heq ▸ List.mem_cons_self)) hip

end Folio.Html.Tree
