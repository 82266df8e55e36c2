import Folio.Proofs.Cells

/-! # Groves

A grove is a forest that remembers where in a tree its nodes are.  `t.Holds p g` says that the cells of
`t` below the node `p` read as `g`, and `t.Stands p pre g post` that `g` stands among the children of
`p`, between the nodes `pre` and `post`, and shares no cell with what is around it.  A change inside
such a place is `Replaces t t' p pre g g' post`: another grove stands there, and no cell outside the
place has changed.  Replacements compose: one after the other (`Replaces.trans`), side by side
(`Replaces.append`), and inside a node (`Replaces.inside`); so a pass over a tree is followed through
the shape of the grove, and only what it does to one node needs the cells. -/

namespace Folio.Html

theorem Forest.append_assoc (f g h : Forest) : f ++ g ++ h = f ++ (g ++ h) := by
  induction f with
  | nil => rfl
  | text s next ih => exact congrArg (Forest.text s) ih
  | comment s next ih => exact congrArg (Forest.comment s) ih
  | doctype next ih => exact congrArg Forest.doctype ih
  | element e children next _ ih => exact congrArg (Forest.element e children) ih

/-- Nodes side by side, each with its place, its kind and the nodes below it. -/
inductive Grove where
  | nil
  | node (id : NodeId) (kind : NodeKind) (below next : Grove)
deriving DecidableEq, Repr

namespace Grove

/-- The nodes of one grove and then those of another. -/
def append : Grove → Grove → Grove
  | nil, g => g
  | node id kind below next, g => node id kind below (next.append g)

instance : Append Grove := ⟨append⟩

/-- One node with what is below it. -/
abbrev single (id : NodeId) (kind : NodeKind) (below : Grove) : Grove := node id kind below nil

/-- The places on the top level. -/
def tops : Grove → List NodeId
  | nil => []
  | node id _ _ next => id :: next.tops

/-- All places, in document order. -/
def ids : Grove → List NodeId
  | nil => []
  | node id _ below next => id :: (below.ids ++ next.ids)

/-- The forest that a grove is without the places. -/
def forest : Grove → Forest
  | nil => .nil
  | node _ kind below next => Tree.nodeForest kind below.forest next.forest

@[simp] theorem nil_append (g : Grove) : nil ++ g = g := rfl

@[simp] theorem node_append (id : NodeId) (kind : NodeKind) (below next g : Grove) :
    node id kind below next ++ g = node id kind below (next ++ g) := rfl

@[simp] theorem append_nil : ∀ g : Grove, g ++ nil = g
  | nil => rfl
  | node id kind below next => by rw [node_append, append_nil next]

theorem append_assoc : ∀ f g h : Grove, f ++ g ++ h = f ++ (g ++ h)
  | nil, _, _ => rfl
  | node id kind below next, g, h => congrArg (node id kind below) (append_assoc next g h)

@[simp] theorem tops_append : ∀ f g : Grove, (f ++ g).tops = f.tops ++ g.tops
  | nil, _ => rfl
  | node id _ _ next, g => congrArg (id :: ·) (tops_append next g)

@[simp] theorem ids_append : ∀ f g : Grove, (f ++ g).ids = f.ids ++ g.ids
  | nil, _ => rfl
  | node id _ below next, g => by
    rw [node_append, ids, ids, ids_append next, List.cons_append, List.append_assoc]

theorem forest_append : ∀ f g : Grove, (f ++ g).forest = f.forest ++ g.forest
  | nil, _ => rfl
  | node id kind below next, g => by
    simp only [node_append, forest, forest_append next g]
    cases kind with
    | document => exact (Forest.append_assoc _ _ _).symm
    | element e => rfl
    | text s => rfl
    | comment s => rfl
    | doctype => rfl

theorem mem_ids_of_mem_tops {id : NodeId} : ∀ {g : Grove}, id ∈ g.tops → id ∈ g.ids
  | node _ _ _ _, h => by
    rcases List.mem_cons.mp h with rfl | hnext
    · exact List.mem_cons_self
    · exact List.mem_cons_of_mem _ (List.mem_append_right _ (mem_ids_of_mem_tops hnext))

end Grove

namespace Tree

/-! ### What a tree holds -/

/-- The cells of a tree below a node read as a grove: no node in it is a document, and only elements
hold nodes. -/
def Holds (t : Tree) (p : NodeId) : Grove → Prop
  | .nil => True
  | .node id kind below next =>
    t.cell id = ⟨kind, some p, below.tops⟩ ∧
      (kind ≠ .document ∧ (kind.holds = true ∨ below = .nil)) ∧ t.Holds id below ∧ t.Holds p next

variable {t t' : Tree} {p : NodeId}

theorem holds_append : ∀ {f g : Grove}, t.Holds p (f ++ g) ↔ t.Holds p f ∧ t.Holds p g
  | .nil, _ => by simp [Holds]
  | .node _ _ _ next, g => by
    simp only [Grove.node_append, Holds, holds_append (f := next), and_assoc]

theorem Holds.lt_size {id : NodeId} :
    ∀ {p : NodeId} {g : Grove}, t.Holds p g → id ∈ g.ids → id < t.cells.size
  | p, .node top _ below next, ⟨hcell, _, hbelow, hnext⟩, h => by
    rcases List.mem_cons.mp h with rfl | h
    · exact lt_size_of_parent (p := p) (by rw [parent?, hcell])
    · rcases List.mem_append.mp h with h | h
      · exact hbelow.lt_size h
      · exact hnext.lt_size h

/-- What a tree holds depends on the cells of the grove only. -/
theorem Holds.congr : ∀ {p : NodeId} {g : Grove}, t.Holds p g →
    (∀ id ∈ g.ids, t'.cell id = t.cell id) → t'.Holds p g
  | _, .nil, _, _ => trivial
  | _, .node id _ _ _, ⟨hcell, hkind, hbelow, hnext⟩, h =>
    ⟨(h id List.mem_cons_self).trans hcell, hkind,
      hbelow.congr fun i hi => h i (List.mem_cons_of_mem _ (List.mem_append_left _ hi)),
      hnext.congr fun i hi => h i (List.mem_cons_of_mem _ (List.mem_append_right _ hi))⟩

/-- Two trees that hold the same grove have the same cells in it. -/
theorem Holds.cell_eq {id : NodeId} : ∀ {p : NodeId} {g : Grove}, t.Holds p g → t'.Holds p g → id ∈ g.ids →
    t'.cell id = t.cell id
  | _, .node _ _ _ _, ⟨hcell, _, hbelow, hnext⟩, ⟨hcell', _, hbelow', hnext'⟩, hid => by
    rcases List.mem_cons.mp hid with rfl | hid
    · rw [hcell, hcell']
    · rcases List.mem_append.mp hid with hid | hid
      · exact hbelow.cell_eq hbelow' hid
      · exact hnext.cell_eq hnext' hid

/-! ### Places -/

/-- A grove stands between the nodes `pre` and `post` among the children of a node, apart from all of
them. -/
structure Stands (t : Tree) (p : NodeId) (pre : List NodeId) (g : Grove) (post : List NodeId) :
    Prop where
  children : t.children p = pre ++ (g.tops ++ post)
  holds : t.Holds p g
  nodup : g.ids.Nodup
  apart : ∀ id ∈ g.ids, id ≠ p ∧ id ∉ pre ∧ id ∉ post
  bound : ∀ id, id ∈ pre ∨ id ∈ post → id < t.cells.size

/-- The tree `t'` has the grove `g'` where `t` has `g`, and nothing else has changed. -/
structure Replaces (t t' : Tree) (p : NodeId) (pre : List NodeId) (g g' : Grove)
    (post : List NodeId) : Prop where
  stands : t'.Stands p pre g' post
  size_le : t.cells.size ≤ t'.cells.size
  owner : t'.cell p = { t.cell p with children := pre ++ (g'.tops ++ post) }
  cell_eq : ∀ id < t.cells.size, id ≠ p → id ∉ g.ids → t'.cell id = t.cell id
  ids : ∀ id ∈ g'.ids, id ∈ g.ids ∨ t.cells.size ≤ id

variable {pre post : List NodeId} {f f' g g' : Grove}

/-- A grove is replaced once the cell of its owner is right, the tree holds the new grove, and no other
cell has changed: new nodes are apart from all that was there. -/
theorem Stands.replaces (h : t.Stands p pre g post) (hp : p < t.cells.size)
    (hsize : t.cells.size ≤ t'.cells.size)
    (howner : t'.cell p = { t.cell p with children := pre ++ (g'.tops ++ post) })
    (hholds : t'.Holds p g') (hnodup : g'.ids.Nodup)
    (hids : ∀ id ∈ g'.ids, id ∈ g.ids ∨ t.cells.size ≤ id)
    (hcell : ∀ id < t.cells.size, id ≠ p → id ∉ g.ids → t'.cell id = t.cell id) :
    t.Replaces t' p pre g g' post := by
  refine ⟨⟨?_, hholds, hnodup, fun id hid => ?_, fun id hid => ?_⟩, hsize, howner, hcell, hids⟩
  · rw [Tree.children, howner]
  · rcases hids id hid with hold | hnew
    · exact h.apart id hold
    · have hnot : ¬ id < t.cells.size := Nat.not_lt.mpr hnew
      exact ⟨fun heq => hnot (heq ▸ hp), fun hmem => hnot (h.bound id (.inl hmem)),
        fun hmem => hnot (h.bound id (.inr hmem))⟩
  · exact Nat.lt_of_lt_of_le (h.bound id hid) hsize

/-- The cell of the owner is as it was if the top level is. -/
theorem Stands.cell_owner (h : t.Stands p pre g post) (htops : g'.tops = g.tops) :
    t.cell p = { t.cell p with children := pre ++ (g'.tops ++ post) } := by
  rw [htops, ← h.children]
  rfl

theorem Replaces.refl (h : t.Stands p pre g post) : t.Replaces t p pre g g post := by
  exact ⟨h, Nat.le_refl _, h.cell_owner rfl, fun _ _ _ _ => rfl, fun _ => .inl⟩

/-- Nothing has changed where a grove is replaced by itself. -/
theorem Replaces.eq_of_same (hs : t.Stands p pre g post) (h : t.Replaces t' p pre g g post)
    (hsize : t'.cells.size = t.cells.size) : t' = t := by
  apply eq_of_cell hsize
  intro i hi
  by_cases hmem : i ∈ g.ids
  · exact hs.holds.cell_eq h.stands.holds hmem
  · by_cases howner : i = p
    · subst howner
      rw [h.owner]
      exact (hs.cell_owner rfl).symm
    · exact h.cell_eq i hi howner hmem

/-- One change after another. -/
theorem Replaces.trans {t₁ : Tree} {g₁ : Grove} (h : t.Replaces t₁ p pre g g₁ post)
    (h' : t₁.Replaces t' p pre g₁ g' post) : t.Replaces t' p pre g g' post := by
  refine ⟨h'.stands, Nat.le_trans h.size_le h'.size_le, ?_, ?_, ?_⟩
  · rw [h'.owner, h.owner]
  · intro id hlt hne hmem
    have hmem₁ : id ∉ g₁.ids := fun hid => (h.ids id hid).elim hmem fun hge => by omega
    rw [h'.cell_eq id (Nat.lt_of_lt_of_le hlt h.size_le) hne hmem₁, h.cell_eq id hlt hne hmem]
  · intro id hid
    rcases h'.ids id hid with h₁ | hge
    · exact h.ids id h₁
    · exact .inr (Nat.le_trans h.size_le hge)

/-- The left part of a grove stands before the top level of the right part. -/
theorem Stands.left (h : t.Stands p pre (f ++ g) post) : t.Stands p pre f (g.tops ++ post) := by
  obtain ⟨hchildren, hholds, hnodup, hapart, hbound⟩ := h
  rw [Grove.ids_append, List.nodup_append] at hnodup
  refine ⟨by simpa using hchildren, (holds_append.mp hholds).1, hnodup.1, fun id hid => ?_,
    fun id hid => ?_⟩
  · obtain ⟨hp, hpre, hpost⟩ := hapart id (by simp [hid])
    refine ⟨hp, hpre, fun hmem => ?_⟩
    rcases List.mem_append.mp hmem with htop | hmem
    · exact hnodup.2.2 id hid id (Grove.mem_ids_of_mem_tops htop) rfl
    · exact hpost hmem
  · rcases hid with hpre | hmem
    · exact hbound id (.inl hpre)
    · rcases List.mem_append.mp hmem with htop | hpost
      · exact (holds_append.mp hholds).2.lt_size (Grove.mem_ids_of_mem_tops htop)
      · exact hbound id (.inr hpost)

/-- Once the left part of a grove is replaced, the right part stands after it. -/
theorem Replaces.right (h : t.Stands p pre (f ++ g) post)
    (hf : t.Replaces t' p pre f f' (g.tops ++ post)) : t'.Stands p (pre ++ f'.tops) g post := by
  obtain ⟨-, hholds, hnodup, hapart, hbound⟩ := h
  rw [Grove.ids_append, List.nodup_append] at hnodup
  have hg := (holds_append.mp hholds).2
  have happart : ∀ id ∈ g.ids, id ≠ p ∧ id ∉ pre ∧ id ∉ post := fun id hid => hapart id (by simp [hid])
  have hother : ∀ id ∈ g.ids, id ∉ f.ids := fun id hid hf => hnodup.2.2 id hf id hid rfl
  refine ⟨?_, hg.congr fun id hid => hf.cell_eq id (hg.lt_size hid) (happart id hid).1 (hother id hid),
    hnodup.2.1, fun id hid => ?_, fun id hid => ?_⟩
  · rw [children, hf.owner]
    simp
  · refine ⟨(happart id hid).1, fun hmem => ?_, (happart id hid).2.2⟩
    rcases List.mem_append.mp hmem with hpre | htop
    · exact (happart id hid).2.1 hpre
    · rcases hf.ids id (Grove.mem_ids_of_mem_tops htop) with hold | hnew
      · exact hother id hid hold
      · exact absurd (hg.lt_size hid) (Nat.not_lt.mpr hnew)
  · rcases hid with hmem | hpost
    · rcases List.mem_append.mp hmem with hpre | htop
      · exact Nat.lt_of_lt_of_le (hbound id (.inl hpre)) hf.size_le
      · exact hf.stands.holds.lt_size (Grove.mem_ids_of_mem_tops htop)
    · exact Nat.lt_of_lt_of_le (hbound id (.inr hpost)) hf.size_le

/-- The right part of a grove stands after the top level of the left part. -/
theorem Stands.right (h : t.Stands p pre (f ++ g) post) : t.Stands p (pre ++ f.tops) g post :=
  Replaces.right h (.refl h.left)

/-- Changes side by side. -/
theorem Replaces.append {t₁ : Tree} (h : t.Stands p pre (f ++ g) post)
    (hf : t.Replaces t₁ p pre f f' (g.tops ++ post))
    (hg : t₁.Replaces t' p (pre ++ f'.tops) g g' post) :
    t.Replaces t' p pre (f ++ g) (f' ++ g') post := by
  have hright := hf.right h
  have hfresh : ∀ id ∈ f'.ids, id < t₁.cells.size := fun id => hf.stands.holds.lt_size
  have hkept : ∀ id ∈ f'.ids, id ∉ g.ids := by
    intro id hid hmem
    rcases hf.ids id hid with hold | hnew
    · have hnodup := h.nodup
      rw [Grove.ids_append, List.nodup_append] at hnodup
      exact hnodup.2.2 id hold id hmem rfl
    · exact absurd ((holds_append.mp h.holds).2.lt_size hmem) (Nat.not_lt.mpr hnew)
  refine ⟨⟨?_, ?_, ?_, ?_, ?_⟩, Nat.le_trans hf.size_le hg.size_le, ?_, ?_, ?_⟩
  · rw [hg.stands.children]
    simp
  · refine holds_append.mpr ⟨hf.stands.holds.congr fun id hid => ?_, hg.stands.holds⟩
    exact hg.cell_eq id (hfresh id hid) (hf.stands.apart id hid).1 (hkept id hid)
  · rw [Grove.ids_append, List.nodup_append]
    refine ⟨hf.stands.nodup, hg.stands.nodup, fun id hid other hother heq => ?_⟩
    subst heq
    rcases hg.ids id hother with hold | hnew
    · exact hkept id hid hold
    · exact absurd (hfresh id hid) (Nat.not_lt.mpr hnew)
  · intro id hid
    rw [Grove.ids_append, List.mem_append] at hid
    rcases hid with hid | hid
    · obtain ⟨hp, hpre, hpost⟩ := hf.stands.apart id hid
      exact ⟨hp, hpre, fun hmem => hpost (List.mem_append_right _ hmem)⟩
    · obtain ⟨hp, hpre, hpost⟩ := hg.stands.apart id hid
      exact ⟨hp, fun hmem => hpre (List.mem_append_left _ hmem), hpost⟩
  · intro id hid
    exact Nat.lt_of_lt_of_le (h.bound id hid) (Nat.le_trans hf.size_le hg.size_le)
  · rw [hg.owner, hf.owner]
    simp
  · intro id hlt hne hmem
    rw [Grove.ids_append, List.mem_append, not_or] at hmem
    rw [hg.cell_eq id (Nat.lt_of_lt_of_le hlt hf.size_le) hne hmem.2, hf.cell_eq id hlt hne hmem.1]
  · intro id hid
    rw [Grove.ids_append, List.mem_append] at hid ⊢
    rcases hid with hid | hid
    · exact (hf.ids id hid).imp_left .inl
    · exact (hg.ids id hid).elim (fun hold => .inl (.inr hold))
        fun hnew => .inr (Nat.le_trans hf.size_le hnew)

variable {id : NodeId} {kind : NodeKind} {below below' next : Grove} {e : Element}

/-- What is below a node stands alone among its children. -/
theorem Stands.inside (h : t.Stands p pre (.node id kind below next) post) :
    t.Stands id [] below [] := by
  obtain ⟨-, ⟨hcell, -, hbelow, -⟩, hnodup, -, -⟩ := h
  rw [Grove.ids, List.nodup_cons, List.nodup_append, List.mem_append, not_or] at hnodup
  refine ⟨by rw [Tree.children, hcell]; simp, hbelow, hnodup.2.1, fun i hi => ?_, by simp⟩
  exact ⟨fun heq => hnodup.1.1 (heq ▸ hi), List.not_mem_nil, List.not_mem_nil⟩

theorem Stands.owner_lt_size (h : t.Stands p pre (.node id kind below next) post) :
    p < t.cells.size := by
  refine lt_size_of_mem_children (c := id) ?_
  rw [h.children]
  simp [Grove.tops]

/-- A change below an element is a change of the element with what is around it. -/
theorem Replaces.inside (h : t.Stands p pre (.node id (.element e) below next) post)
    (hb : t.Replaces t' id [] below below' []) :
    t.Replaces t' p pre (.node id (.element e) below next) (.node id (.element e) below' next)
      post := by
  have hself := h.apart id List.mem_cons_self
  have hin : ∀ i ∈ below.ids, i ∈ (Grove.node id (.element e) below next).ids := fun i hi =>
    List.mem_cons_of_mem _ (List.mem_append_left _ hi)
  have hafter : ∀ i ∈ next.ids, i ∈ (Grove.node id (.element e) below next).ids := fun i hi =>
    List.mem_cons_of_mem _ (List.mem_append_right _ hi)
  obtain ⟨hcell, -, -, hnext⟩ := h.holds
  have hnodup := h.nodup
  rw [Grove.ids, List.nodup_cons, List.nodup_append, List.mem_append, not_or] at hnodup
  obtain ⟨⟨-, hidnext⟩, -, hnextnodup, hdisjoint⟩ := hnodup
  have hp : t'.cell p = t.cell p :=
    hb.cell_eq p h.owner_lt_size (Ne.symm hself.1) fun hmem => (h.apart p (hin p hmem)).1 rfl
  have hnextcell : ∀ i ∈ next.ids, t'.cell i = t.cell i := fun i hi =>
    hb.cell_eq i (hnext.lt_size hi) (fun heq => hidnext (heq ▸ hi)) fun hmem => hdisjoint i hmem i hi rfl
  refine h.replaces h.owner_lt_size hb.size_le ?_
    ⟨?_, ⟨nofun, .inl rfl⟩, hb.stands.holds, hnext.congr hnextcell⟩ ?_ ?_ ?_
  · rw [hp]
    exact h.cell_owner rfl
  · rw [hb.owner, hcell]
    simp
  · rw [Grove.ids, List.nodup_cons, List.nodup_append, List.mem_append, not_or]
    refine ⟨⟨fun hmem => (hb.stands.apart id hmem).1 rfl, hidnext⟩, hb.stands.nodup, hnextnodup, ?_⟩
    intro i hi j hj heq
    subst heq
    rcases hb.ids i hi with hold | hnew
    · exact hdisjoint i hold i hj rfl
    · exact absurd (hnext.lt_size hj) (Nat.not_lt.mpr hnew)
  · intro i hi
    rcases List.mem_cons.mp hi with rfl | hi
    · exact .inl List.mem_cons_self
    · rcases List.mem_append.mp hi with hi | hi
      · exact (hb.ids i hi).imp_left (hin i)
      · exact .inl (hafter i hi)
  · intro i hilt hne hmem
    refine hb.cell_eq i hilt (fun heq => hmem (heq ▸ List.mem_cons_self)) fun hi => hmem (hin i hi)

end Tree

end Folio.Html
