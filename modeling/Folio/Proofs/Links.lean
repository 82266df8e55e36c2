import Folio.Proofs.GroveEdits
import Folio.Proofs.GroveOfTree

/-! # Edits keep a tree well-formed

Taking a node out, putting it among the children of another (`Placed`) and replacing it by its children
keep the links of a tree consistent, and changing elements touches no link.  None of them gives the
document a parent unless it is put somewhere, so a well-formed tree stays well-formed. -/

namespace Folio.Html.Tree

variable {t t' : Tree} {id p : NodeId}

/-! ### The same links -/

/-- Where links have changed at some nodes only, every chain of parents ends if it ends at those nodes;
the nodes that were nearer to the end of their chain may be taken to be done. -/
theorem Consistent.reaches_of_relinked (ht : t.Consistent) (changed : NodeId → Prop)
    (hchanged : ∀ n i, changed i → t.Reaches n i →
      (∀ m < n, ∀ a, t.Reaches m a → ∃ k, t'.Reaches k a) → ∃ k, t'.Reaches k i)
    (hkept : ∀ i, ¬ changed i → t'.parent? i = t.parent? i) (i : NodeId) : ∃ k, t'.Reaches k i := by
  have hall : ∀ n i, t.Reaches n i → ∃ k, t'.Reaches k i := by
    intro n
    induction n using Nat.strongRecOn with
    | ind n ih =>
        intro i hi
        by_cases hc : changed i
        · exact hchanged n i hc hi ih
        · have hsame := hkept i hc
          cases n with
          | zero => exact ⟨0, hsame.trans hi⟩
          | succ n =>
              obtain ⟨b, hb, hn⟩ := hi
              obtain ⟨k, hk⟩ := ih n (Nat.lt_add_one n) b hn
              exact ⟨k + 1, b, hsame.trans hb, hk⟩
  obtain ⟨n, hn⟩ := ht.reaches i
  exact hall n i hn

/-- The same links are as consistent as they were. -/
theorem Consistent.congr (ht : t.Consistent) (hparent : ∀ i, t'.parent? i = t.parent? i)
    (hchildren : ∀ i, t'.children i = t.children i) : t'.Consistent := by
  refine ⟨fun q c => ?_, fun q => ?_, fun i => ?_⟩
  · rw [hchildren, hparent]
    exact ht.mem_children_iff q c
  · rw [hchildren]
    exact ht.children_nodup q
  · exact ht.reaches_of_relinked (fun _ => False) (fun _ _ => False.elim) (fun i _ => hparent i) i

/-! ### The kind of a node -/

section kinds

variable {kind : NodeKind}

/-- Where one node has another kind, a node can hold what it could if that one can. -/
theorem holds_of_kind (hcell : ∀ i, t'.cell i = if i = id then { t.cell id with kind := kind } else t.cell i)
    (hholds : kind.holds = (t.cell id).kind.holds) (i : NodeId) :
    (t'.cell i).kind.holds = (t.cell i).kind.holds := by
  rw [hcell]
  split
  · subst i
    exact hholds
  · rfl

/-- A change of the kind of one node touches no link. -/
theorem parent?_of_kind
    (hcell : ∀ i, t'.cell i = if i = id then { t.cell id with kind := kind } else t.cell i) (i : NodeId) :
    t'.parent? i = t.parent? i := by
  rw [parent?, hcell]
  split
  · subst i
    rfl
  · rfl

theorem Consistent.of_kind (ht : t.Consistent)
    (hcell : ∀ i, t'.cell i = if i = id then { t.cell id with kind := kind } else t.cell i) :
    t'.Consistent := by
  refine ht.congr (parent?_of_kind hcell) fun i => ?_
  rw [children, hcell]
  split
  · subst i
    rfl
  · rfl

theorem WellFormed.of_kind (ht : t.WellFormed)
    (hcell : ∀ i, t'.cell i = if i = id then { t.cell id with kind := kind } else t.cell i)
    (hholds : kind.holds = (t.cell id).kind.holds)
    (hdocument : kind = .document → (t.cell id).kind = .document) : t'.WellFormed := by
  have hparent := parent?_of_kind hcell
  have hlinked := (ht.consistent.of_kind hcell).linked ((hparent _).trans ht.document_parent)
  refine ⟨hlinked, fun c q h => ?_, fun c q h => ?_⟩
  · rw [hparent] at h
    rw [holds_of_kind hcell hholds]
    exact ht.holds_of_parent c q h
  · rw [hparent] at h
    rw [hcell]
    split
    · subst c
      exact fun heq => ht.kind_of_parent id q h (hdocument heq)
    · exact ht.kind_of_parent c q h

end kinds

theorem holds_mapKind (f : Element → Element) (kind : NodeKind) :
    (mapKind f kind).holds = kind.holds := by
  cases kind <;> rfl

theorem mapKind_eq_document_iff (f : Element → Element) (kind : NodeKind) :
    mapKind f kind = .document ↔ kind = .document := by
  cases kind <;> simp [mapKind]

/-- Changing an element keeps a tree well-formed. -/
theorem WellFormed.modifyElement (ht : t.WellFormed) (id : NodeId) (f : Element → Element) :
    (t.modifyElement id f).WellFormed :=
  ht.of_kind (cell_modifyElement id f) (holds_mapKind f _) (mapKind_eq_document_iff f _).mp

/-! ### Taking a node out -/

theorem Consistent.parent?_detach (ht : t.Consistent) (id i : NodeId) :
    (t.detach id).parent? i = if i = id then none else t.parent? i := by
  cases h : t.parent? id with
  | none =>
      rw [detach_of_parent_none h]
      split
      · rw [‹i = id›, h]
      · rfl
  | some q =>
      rw [parent?, cell_detach h (ht.parent_lt_size h) (ht.ne_of_parent h)]
      split
      · rfl
      · split
        · subst i
          rfl
        · rfl

/-- A node has a parent afterwards only if it had it before. -/
theorem Consistent.parent?_of_detach (ht : t.Consistent) {c q : NodeId}
    (h : (t.detach id).parent? c = some q) : t.parent? c = some q := by
  rw [ht.parent?_detach] at h
  split at h
  · cases h
  · exact h

/-- Detaching keeps the links consistent. -/
theorem Consistent.detach (ht : t.Consistent) (id : NodeId) : (t.detach id).Consistent := by
  have hparent := ht.parent?_detach id
  cases h : t.parent? id with
  | none => rwa [detach_of_parent_none h]
  | some q =>
      have hne := ht.ne_of_parent h
      have hcell := cell_detach h (ht.parent_lt_size h) hne
      have hchildren : ∀ i, (t.detach id).children i =
          if i = q then (t.children q).filter (· ≠ id) else t.children i := by
        intro i
        rw [children, hcell]
        split
        · subst i
          rw [if_neg hne.symm]
          rfl
        · split <;> rfl
      refine ⟨fun x c => ?_, fun x => ?_, fun i => ?_⟩
      · rw [hchildren, hparent]
        by_cases hc : c = id
        · subst c
          rw [if_pos rfl]
          split
          · simp
          · rename_i hx
            rw [ht.mem_children_iff, h]
            simpa using Ne.symm hx
        · rw [if_neg hc]
          split
          · subst x
            rw [List.mem_filter, ht.mem_children_iff]
            simp [hc]
          · exact ht.mem_children_iff x c
      · rw [hchildren]
        split
        · exact (ht.children_nodup q).filter _
        · exact ht.children_nodup x
      · refine ht.reaches_of_relinked (· = id) (fun n i hi _ _ => ⟨0, ?_⟩) (fun i hi => ?_) i
        · show (t.detach id).parent? i = none
          rw [hparent]
          exact if_pos hi
        · rw [hparent]
          exact if_neg hi

/-! ### Putting a node in -/

theorem parent?_create (t : Tree) (kind : NodeKind) (i : NodeId) :
    (t.create kind).parent? i = t.parent? i := by
  by_cases hi : i = t.cells.size
  · rw [parent?, parent?, hi, cell_create_self, cell_of_size_le (Nat.le_refl _)]
    rfl
  · rw [parent?, cell_create_ne t kind hi, parent?]

theorem children_create (t : Tree) (kind : NodeKind) (i : NodeId) :
    (t.create kind).children i = t.children i := by
  by_cases hi : i = t.cells.size
  · rw [children, children, hi, cell_create_self, cell_of_size_le (Nat.le_refl _)]
    rfl
  · rw [children, cell_create_ne t kind hi, children]

/-- A new node has no links. -/
theorem Consistent.create (ht : t.Consistent) (kind : NodeKind) : (t.create kind).Consistent :=
  ht.congr (parent?_create t kind) (children_create t kind)

/-- Nothing is below a new node. -/
theorem Consistent.not_climbs_create (ht : t.Consistent) (kind : NodeKind) (hid : id < t.cells.size)
    (k : Nat) : ¬ (t.create kind).Climbs k id t.cells.size := by
  have hparent : ∀ i p, (t.create kind).parent? i = some p → t.parent? i = some p := fun i p h =>
    (parent?_create t kind i).symm.trans h
  intro hk
  obtain ⟨n, hn⟩ := ht.reaches t.cells.size
  have hend : ∀ {k : Nat} {i : NodeId}, i < t.cells.size → ¬ t.Climbs k i t.cells.size := by
    intro k
    induction k with
    | zero => exact fun hlt heq => Nat.ne_of_lt hlt heq
    | succ k ih => exact fun _ ⟨p, hp, h⟩ => ih (ht.parent_lt_size hp) h
  exact hend hid (hk.mono hparent)

/-- The tree `t'` is `t` with a node put among the children of another, wherever there. -/
structure Placed (t t' : Tree) (p child : NodeId) : Prop where
  parent?_eq : ∀ i, t'.parent? i = if i = child then some p else t.parent? i
  perm : (t'.children p).Perm (child :: t.children p)
  children_eq : ∀ i, i ≠ p → t'.children i = t.children i

theorem placed_of_perm {child : NodeId} {f : List NodeId → List NodeId} (hp : p < t.cells.size)
    (hc : child < t.cells.size) (hne : p ≠ child)
    (hf : (f (t.children p)).Perm (child :: t.children p)) :
    t.Placed ((t.setParent child (some p)).modifyChildren p f) p child := by
  have hcell := cell_setParent_modifyChildren f hp hc hne
  refine ⟨fun i => ?_, ?_, fun i hi => ?_⟩
  · rw [parent?, hcell]
    split
    · rfl
    · split
      · subst i
        rfl
      · rfl
  · rw [children, hcell, if_neg hne, if_pos rfl]
    exact hf
  · rw [children, hcell, if_neg hi]
    split
    · subst i
      rfl
    · rfl

/-- A node without a parent can be put among the children of any node that is neither the node nor below
it. -/
theorem Consistent.placed {child : NodeId} (ht : t.Consistent) (h : t.parent? child = none)
    (hup : ∀ k, ¬ t.Climbs k p child) (hplaced : t.Placed t' p child) : t'.Consistent := by
  obtain ⟨hparent, hperm, hchildren⟩ := hplaced
  refine ⟨fun x c => ?_, fun x => ?_, fun i => ?_⟩
  · rw [hparent]
    by_cases hx : x = p
    · subst x
      rw [hperm.mem_iff, List.mem_cons, ht.mem_children_iff]
      split <;> simp [*]
    · rw [hchildren x hx, ht.mem_children_iff]
      split
      · rename_i hc
        rw [hc, h]
        simpa using Ne.symm hx
      · rfl
  · by_cases hx : x = p
    · subst x
      rw [hperm.nodup_iff, List.nodup_cons, ht.mem_children_iff, h]
      exact ⟨nofun, ht.children_nodup _⟩
    · rw [hchildren x hx]
      exact ht.children_nodup x
  · obtain ⟨m, hm⟩ := ht.reaches p
    have hend : t'.Reaches m p := hm.congr fun k b hk => by
      rw [hparent, if_neg fun heq : b = child => hup k (heq ▸ hk)]
    refine ht.reaches_of_relinked (· = child) (fun n i hi _ _ => ?_) (fun i hi => ?_) i
    · exact ⟨m + 1, p, (hparent i).trans (if_pos hi), hend⟩
    · rw [hparent, if_neg hi]

variable {child : NodeId}

theorem placed_append (hp : p < t.cells.size) (hc : child < t.cells.size) (hne : p ≠ child) :
    (t.detach child).Placed (t.append p child) p child :=
  placed_of_perm (by simpa using hp) (by simpa using hc) hne (List.perm_append_singleton child _)

theorem placed_insertBefore {sibling : NodeId} (h : t.parent? sibling = some p)
    (hp : p < t.cells.size) (hc : child < t.cells.size) (hne : p ≠ child) :
    (t.detach child).Placed (t.insertBefore sibling child) p child := by
  simp only [insertBefore, h]
  refine placed_of_perm (by simpa using hp) (by simpa using hc) hne ?_
  rw [insertAt, List.perm_middle.congr_left, List.takeWhile_append_dropWhile]

theorem Consistent.parent?_of_placed_detach (ht : t.Consistent)
    (hplaced : (t.detach child).Placed t' p child) (i : NodeId) :
    t'.parent? i = if i = child then some p else t.parent? i := by
  rw [hplaced.parent?_eq, ht.parent?_detach]
  split <;> rfl

/-- A node that is put elsewhere is taken out first, which leaves no other way up from its new parent. -/
theorem Consistent.of_placed_detach (ht : t.Consistent) (hup : ∀ k, ¬ t.Climbs k p child)
    (hplaced : (t.detach child).Placed t' p child) : t'.Consistent := by
  have hnone : (t.detach child).parent? child = none := by rw [ht.parent?_detach, if_pos rfl]
  exact (ht.detach child).placed hnone
    (fun k hk => hup k (hk.mono fun _ _ => ht.parent?_of_detach)) hplaced

/-- A node can be made the last child of any node that is neither the node nor below it. -/
theorem Consistent.append (ht : t.Consistent) (hp : p < t.cells.size) (hc : child < t.cells.size)
    (hup : ∀ k, ¬ t.Climbs k p child) : (t.append p child).Consistent :=
  ht.of_placed_detach hup (placed_append hp hc (hup 0))

/-- A node can be put before any node whose parent is neither the node nor below it. -/
theorem Consistent.insertBefore (ht : t.Consistent) {sibling : NodeId}
    (h : t.parent? sibling = some p) (hc : child < t.cells.size) (hup : ∀ k, ¬ t.Climbs k p child) :
    (t.insertBefore sibling child).Consistent :=
  ht.of_placed_detach hup (placed_insertBefore h (ht.parent_lt_size h) hc (hup 0))

/-! ### Replacing a node by its children -/

theorem spliceAt_eq {l₁ l₂ : List NodeId} (h : id ∉ l₁) (inner : List NodeId) :
    spliceAt id inner (l₁ ++ id :: l₂) = l₁ ++ (inner ++ l₂) := by
  rw [spliceAt, takeWhile_ne_append h, dropWhile_ne_append h, List.append_assoc]
  rfl

/-- The children of a node are neither the node nor its parent. -/
theorem Consistent.children_apart (ht : t.Consistent) (h : t.parent? id = some p) :
    ∀ c ∈ t.children id, c < t.cells.size ∧ c ≠ id ∧ c ≠ p := by
  intro c hc
  have hparent := (ht.mem_children_iff id c).mp hc
  refine ⟨lt_size_of_parent hparent, (ht.ne_of_parent hparent).symm, ?_⟩
  rintro rfl
  -- a node that is its own grandparent would have two heights
  obtain ⟨n, hn⟩ := ht.reaches c
  have hself : t.Reaches (n + 2) c := ⟨id, hparent, c, h, hn⟩
  have heq := hself.unique hn
  omega

theorem Consistent.parent?_unwrap (ht : t.Consistent) (h : t.parent? id = some p) (i : NodeId) :
    (t.unwrap id).parent? i =
      if i = id then none else if i ∈ t.children id then some p else t.parent? i := by
  have hapart := ht.children_apart h
  rw [parent?, cell_unwrap h ((ht.mem_children_iff p id).mpr h) (ht.ne_of_parent h) hapart]
  split
  · rfl
  · split
    · subst i
      rw [if_neg fun hp => (hapart p hp).2.2 rfl]
      rfl
    · split <;> rfl

/-- What stands on either side of a node among the children of its parent. -/
theorem Consistent.exists_siblings (ht : t.Consistent) (h : t.parent? id = some p) :
    ∃ l₁ l₂, t.children p = l₁ ++ id :: l₂ ∧ id ∉ l₁ ∧ (l₁ ++ l₂).Nodup ∧
      ∀ c, c ∈ l₁ ++ l₂ ↔ t.parent? c = some p ∧ c ≠ id := by
  obtain ⟨l₁, l₂, hsplit, hnot⟩ := List.eq_append_cons_of_mem ((ht.mem_children_iff p id).mpr h)
  have hnodup := ht.children_nodup p
  rw [hsplit, List.perm_middle.nodup_iff, List.nodup_cons] at hnodup
  obtain ⟨hid, hnodup⟩ := hnodup
  refine ⟨l₁, l₂, hsplit, hnot, hnodup, fun c => ?_⟩
  rw [← ht.mem_children_iff, hsplit, List.mem_append, List.mem_append, List.mem_cons]
  rw [List.mem_append, not_or] at hid
  constructor
  · rintro (hc | hc)
    · exact ⟨.inl hc, fun heq => hid.1 (heq ▸ hc)⟩
    · exact ⟨.inr (.inr hc), fun heq => hid.2 (heq ▸ hc)⟩
  · rintro ⟨hc | hc | hc, hcid⟩
    · exact .inl hc
    · exact absurd hc hcid
    · exact .inr hc

theorem Consistent.children_unwrap (ht : t.Consistent) (h : t.parent? id = some p) {l₁ l₂ : List NodeId}
    (hsplit : t.children p = l₁ ++ id :: l₂) (hnot : id ∉ l₁) (i : NodeId) :
    (t.unwrap id).children i =
      if i = id then [] else if i = p then l₁ ++ (t.children id ++ l₂) else t.children i := by
  rw [children, cell_unwrap h ((ht.mem_children_iff p id).mpr h) (ht.ne_of_parent h)
    (ht.children_apart h), hsplit, spliceAt_eq hnot]
  split
  · rfl
  · split
    · rfl
    · split <;> rfl

theorem Consistent.mem_children_unwrap_iff (ht : t.Consistent) (h : t.parent? id = some p) (x c : NodeId) :
    c ∈ (t.unwrap id).children x ↔ (t.unwrap id).parent? c = some x := by
  have hne := ht.ne_of_parent h
  have hinner := ht.mem_children_iff id
  obtain ⟨l₁, l₂, hsplit, hnot, -, hbeside⟩ := ht.exists_siblings h
  have hmid : c ∈ l₁ ++ (t.children id ++ l₂) ↔ c ∈ t.children id ∨ c ∈ l₁ ++ l₂ := by
    simp only [List.mem_append, or_left_comm]
  rw [ht.children_unwrap h hsplit hnot, ht.parent?_unwrap h]
  by_cases hcid : c = id
  · -- the node is nowhere any more
    subst c
    rw [if_pos rfl]
    refine ⟨fun hc => ?_, nofun⟩
    split at hc
    · cases hc
    · split at hc
      · rcases hmid.mp hc with hc | hc
        · exact absurd rfl (ht.children_apart h id hc).2.1
        · exact absurd rfl ((hbeside id).mp hc).2
      · rename_i hx
        rw [ht.mem_children_iff, h] at hc
        exact absurd (Option.some.inj hc).symm hx
  · rw [if_neg hcid]
    by_cases hcin : c ∈ t.children id
    · -- what was below it is below its parent
      rw [if_pos hcin]
      split
      · subst x
        simp [hne]
      · split
        · subst x
          simp [hmid, hcin]
        · rename_i hx hxp
          rw [ht.mem_children_iff, (hinner c).mp hcin]
          simp [Ne.symm hx, Ne.symm hxp]
    · rw [if_neg hcin]
      split
      · subst x
        rw [← hinner c]
        simp [hcin]
      · split
        · subst x
          rw [hmid, hbeside]
          simp [hcin, hcid]
        · exact ht.mem_children_iff x c

theorem Consistent.nodup_children_unwrap (ht : t.Consistent) (h : t.parent? id = some p) (x : NodeId) :
    ((t.unwrap id).children x).Nodup := by
  obtain ⟨l₁, l₂, hsplit, hnot, hnodup, hbeside⟩ := ht.exists_siblings h
  rw [ht.children_unwrap h hsplit hnot]
  split
  · exact List.nodup_nil
  · split
    · have hmiddle : (l₁ ++ (t.children id ++ l₂)).Perm (t.children id ++ (l₁ ++ l₂)) :=
        List.perm_append_comm_assoc _ _ _
      rw [hmiddle.nodup_iff, List.nodup_append]
      refine ⟨ht.children_nodup id, hnodup, ?_⟩
      rintro c hc d hd rfl
      have hp := ((hbeside c).mp hd).1
      rw [(ht.mem_children_iff id c).mp hc] at hp
      exact ht.ne_of_parent h (Option.some.inj hp).symm
    · exact ht.children_nodup x

/-- Replacing a node by its children keeps the links consistent. -/
theorem Consistent.unwrap (ht : t.Consistent) (id : NodeId) : (t.unwrap id).Consistent := by
  cases h : t.parent? id with
  | none => rwa [unwrap_of_parent_none h]
  | some q =>
      have hparent := ht.parent?_unwrap h
      have hinner := ht.mem_children_iff id
      refine ⟨ht.mem_children_unwrap_iff h, ht.nodup_children_unwrap h, fun i => ?_⟩
      refine ht.reaches_of_relinked (fun i => i = id ∨ i ∈ t.children id) ?_ (fun i hi => ?_) i
      · intro n i hi hn hnear
        by_cases hid : i = id
        · exact ⟨0, by rw [Reaches, hparent, if_pos hid]⟩
        · have hin : i ∈ t.children id := hi.resolve_left hid
          -- the parent of the node is two steps nearer to the end than the child
          obtain ⟨k, hk⟩ := ht.reaches q
          have hlong : t.Reaches (k + 2) i := ⟨id, (hinner i).mp hin, q, h, hk⟩
          have heq : k + 2 = n := hlong.unique hn
          obtain ⟨m, hm⟩ := hnear k (by omega) q hk
          refine ⟨m + 1, q, ?_, hm⟩
          rw [hparent, if_neg hid, if_pos hin]
      · rw [not_or] at hi
        rw [hparent, if_neg hi.1, if_neg hi.2]

/-! ### Kinds -/

/-- The tree that holds nothing but the document is well-formed. -/
theorem empty_wellFormed : empty.WellFormed := by
  have hcell : ∀ i, empty.cell i = default := by
    intro i
    cases i with
    | zero => rfl
    | succ i => rfl
  have hparent : ∀ i, empty.parent? i = none := fun i => by rw [parent?, hcell]; rfl
  have hchildren : ∀ i, empty.children i = [] := fun i => by rw [children, hcell]; rfl
  refine ⟨⟨fun p c => ?_, fun p => ?_, fun i => ⟨0, hparent i⟩, hparent _⟩, ?_, ?_⟩
  · rw [hchildren, hparent]
    simp
  · rw [hchildren]
    exact List.nodup_nil
  · intro c p h
    rw [hparent] at h
    cases h
  · intro c p h
    rw [hparent] at h
    cases h

theorem kind_modify {f : Cell → Cell} (hf : ∀ c, (f c).kind = c.kind) (t : Tree) (id i : NodeId) :
    ((t.modify id f).cell i).kind = (t.cell i).kind := by
  by_cases hi : i = id
  · subst hi
    rcases Nat.lt_or_ge i t.cells.size with hlt | hge
    · rw [cell_modify_self f hlt, hf]
    · rw [cell_of_size_le (by simpa using hge), cell_of_size_le hge]
  · rw [cell_modify_ne t f hi]

@[simp] theorem kind_setParent (t : Tree) (id : NodeId) (q : Option NodeId) (i : NodeId) :
    ((t.setParent id q).cell i).kind = (t.cell i).kind :=
  kind_modify (f := fun c => { c with parent := q }) (fun _ => rfl) t id i

@[simp] theorem kind_modifyChildren (t : Tree) (id : NodeId) (f : List NodeId → List NodeId)
    (i : NodeId) : ((t.modifyChildren id f).cell i).kind = (t.cell i).kind :=
  kind_modify (f := fun c => { c with children := f c.children }) (fun _ => rfl) t id i

theorem kind_foldl_setParent (q : Option NodeId) (i : NodeId) : ∀ (ids : List NodeId) (t : Tree),
    ((ids.foldl (fun t c => t.setParent c q) t).cell i).kind = (t.cell i).kind
  | [], _ => rfl
  | id :: ids, t => by
    rw [List.foldl_cons, kind_foldl_setParent q i ids, kind_setParent]

@[simp] theorem kind_detach (t : Tree) (id i : NodeId) :
    ((t.detach id).cell i).kind = (t.cell i).kind := by
  unfold detach
  split <;> simp

@[simp] theorem kind_append (t : Tree) (parent child i : NodeId) :
    ((t.append parent child).cell i).kind = (t.cell i).kind := by
  simp [append]

@[simp] theorem kind_unwrap (t : Tree) (id i : NodeId) :
    ((t.unwrap id).cell i).kind = (t.cell i).kind := by
  unfold unwrap
  split
  · rfl
  · split
    · simp [kind_foldl_setParent]
    · rfl

/-- A node can be taken out of a well-formed tree. -/
theorem WellFormed.detach (ht : t.WellFormed) (id : NodeId) : (t.detach id).WellFormed := by
  have hdocument : (t.detach id).parent? document = none := by
    rw [ht.consistent.parent?_detach, ht.document_parent, ite_self]
  refine ⟨(ht.consistent.detach id).linked hdocument, fun c q h => ?_, fun c q h => ?_⟩
  · rw [kind_detach]
    exact ht.holds_of_parent c q (ht.consistent.parent?_of_detach h)
  · rw [kind_detach]
    exact ht.kind_of_parent c q (ht.consistent.parent?_of_detach h)

/-- A node of a well-formed tree can be replaced by its children. -/
theorem WellFormed.unwrap (ht : t.WellFormed) (id : NodeId) : (t.unwrap id).WellFormed := by
  cases hid : t.parent? id with
  | none => rwa [unwrap_of_parent_none hid]
  | some p =>
      have hold : ∀ {c q}, (t.unwrap id).parent? c = some q →
          (t.cell q).kind.holds = true ∧ (t.cell c).kind ≠ .document := by
        intro c q h
        rw [ht.consistent.parent?_unwrap hid] at h
        split at h
        · cases h
        · split at h
          · obtain rfl := Option.some.inj h
            have hc := (ht.mem_children_iff id c).mp ‹_›
            exact ⟨ht.holds_of_parent id p hid, ht.kind_of_parent c id hc⟩
          · exact ⟨ht.holds_of_parent c q h, ht.kind_of_parent c q h⟩
      have hdocument : (t.unwrap id).parent? document = none := by
        have hnotin : document ∉ t.children id := by
          rw [ht.mem_children_iff, ht.document_parent]
          exact nofun
        rw [ht.consistent.parent?_unwrap hid, if_neg hnotin, ht.document_parent, ite_self]
      refine ⟨(ht.consistent.unwrap id).linked hdocument, fun c q h => ?_, fun c q h => ?_⟩
      · rw [kind_unwrap]
        exact (hold h).1
      · rw [kind_unwrap]
        exact (hold h).2

/-- A new node can be put at the end of any node. -/
theorem Consistent.append_create (ht : t.Consistent) (hid : id < t.cells.size) (kind : NodeKind) :
    ((t.create kind).append id t.cells.size).Consistent :=
  (ht.create kind).append (Nat.lt_of_lt_of_le hid (by simp)) (by simp) (ht.not_climbs_create kind hid)

theorem Consistent.parent?_append_create (ht : t.Consistent) (hid : id < t.cells.size)
    (kind : NodeKind) (i : NodeId) :
    ((t.create kind).append id t.cells.size).parent? i =
      if i = t.cells.size then some id else t.parent? i := by
  rw [(ht.create kind).parent?_of_placed_detach (placed_append
    (Nat.lt_of_lt_of_le hid (by simp)) (by simp) (Nat.ne_of_lt hid)), parent?_create]

/-- A new node can be put at the end of a node that holds nodes. -/
theorem WellFormed.append_create (ht : t.WellFormed) (id : NodeId) (kind : NodeKind)
    (hkind : kind ≠ .document) (hid : id < t.cells.size) (hholds : (t.cell id).kind.holds = true) :
    ((t.create kind).append id t.cells.size).WellFormed := by
  have hparent := ht.consistent.parent?_append_create hid kind
  have hdocument : ((t.create kind).append id t.cells.size).parent? document = none := by
    have hne : document ≠ t.cells.size := Nat.ne_of_lt (Nat.zero_lt_of_lt hid)
    rw [hparent, if_neg hne, ht.document_parent]
  have hold : ∀ {c q}, ((t.create kind).append id t.cells.size).parent? c = some q →
      c = t.cells.size ∧ q = id ∨ t.parent? c = some q := by
    intro c q h
    rw [hparent] at h
    split at h
    · exact .inl ⟨‹_›, (Option.some.inj h).symm⟩
    · exact .inr h
  refine ⟨(ht.consistent.append_create hid kind).linked hdocument, fun c q h => ?_, fun c q h => ?_⟩
  · rw [kind_append]
    rcases hold h with ⟨-, rfl⟩ | h
    · rw [cell_create_ne t kind (Nat.ne_of_lt hid)]
      exact hholds
    · rw [cell_create_ne t kind (Nat.ne_of_lt (ht.consistent.parent_lt_size h))]
      exact ht.holds_of_parent c q h
  · rw [kind_append]
    rcases hold h with ⟨rfl, -⟩ | h
    · rw [cell_create_self]
      exact hkind
    · rw [cell_create_ne t kind (Nat.ne_of_lt (lt_size_of_parent h))]
      exact ht.kind_of_parent c q h

end Folio.Html.Tree
