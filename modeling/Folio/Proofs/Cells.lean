import Folio.Html.Tree

/-! # The cells of an edited tree

An edit changes a few cells and leaves the others alone.  For each edit this module says what every
cell holds afterwards; what is proved about passes over a tree rests on these equations and does not
open the edits again. -/

namespace Folio.Html.Tree

/-- A tree is determined by its cells. -/
theorem eq_of_cell {t t' : Tree} (hsize : t'.cells.size = t.cells.size)
    (h : ∀ id < t.cells.size, t'.cell id = t.cell id) : t' = t := by
  obtain ⟨cells⟩ := t
  obtain ⟨cells'⟩ := t'
  congr 1
  apply Array.ext hsize
  intro i hi' hi
  have hcell := h i hi
  simpa [cell, Array.getD, hi, hi'] using hcell

/-! ### Cells outside the tree -/

theorem cell_of_size_le {t : Tree} {id : NodeId} (h : t.cells.size ≤ id) : t.cell id = default := by
  simp [cell, Array.getD, Nat.not_lt.mpr h]

theorem lt_size_of_parent {t : Tree} {id p : NodeId} (h : t.parent? id = some p) :
    id < t.cells.size := by
  refine Nat.lt_of_not_le fun hle => ?_
  rw [parent?, cell_of_size_le hle] at h
  cases h

theorem lt_size_of_mem_children {t : Tree} {id c : NodeId} (h : c ∈ t.children id) :
    id < t.cells.size := by
  refine Nat.lt_of_not_le fun hle => ?_
  rw [children, cell_of_size_le hle] at h
  cases h

/-! ### One cell -/

theorem kind_of_element? {t : Tree} {id : NodeId} {e : Element} (h : t.element? id = some e) :
    (t.cell id).kind = .element e := by
  unfold element? at h
  split at h
  · rename_i hkind
    rw [hkind, Option.some.inj h]
  · cases h

@[simp] theorem size_modify (t : Tree) (id : NodeId) (f : Cell → Cell) :
    (t.modify id f).cells.size = t.cells.size := by
  simp [modify]

theorem cell_modify_self {t : Tree} {id : NodeId} (f : Cell → Cell) (h : id < t.cells.size) :
    (t.modify id f).cell id = f (t.cell id) := by
  simp [cell, modify, Array.getD, h, Array.getElem_modify_self]

theorem cell_modify_ne (t : Tree) {id other : NodeId} (f : Cell → Cell) (h : other ≠ id) :
    (t.modify id f).cell other = t.cell other := by
  simp only [cell, modify, Array.getD_eq_getD_getElem?, Array.getElem?_modify, if_neg h.symm]

@[simp] theorem size_create (t : Tree) (kind : NodeKind) :
    (t.create kind).cells.size = t.cells.size + 1 := by
  simp [create]

theorem cell_create_self (t : Tree) (kind : NodeKind) :
    (t.create kind).cell t.cells.size = ⟨kind, none, []⟩ := by
  simp [cell, create, Array.getD]

theorem cell_create_ne (t : Tree) {id : NodeId} (kind : NodeKind) (h : id ≠ t.cells.size) :
    (t.create kind).cell id = t.cell id := by
  simp only [cell, create, Array.getD_eq_getD_getElem?, Array.getElem?_push, if_neg h]

@[simp] theorem size_setParent (t : Tree) (id : NodeId) (p : Option NodeId) :
    (t.setParent id p).cells.size = t.cells.size := size_modify t id _

@[simp] theorem size_modifyChildren (t : Tree) (id : NodeId) (f : List NodeId → List NodeId) :
    (t.modifyChildren id f).cells.size = t.cells.size := size_modify t id _

@[simp] theorem size_modifyElement (t : Tree) (id : NodeId) (f : Element → Element) :
    (t.modifyElement id f).cells.size = t.cells.size := size_modify t id _

/-- The kind of a node with its element changed. -/
def mapKind (f : Element → Element) : NodeKind → NodeKind
  | .element e => .element (f e)
  | kind => kind

theorem cell_modifyElement {t : Tree} (id : NodeId) (f : Element → Element) (other : NodeId) :
    (t.modifyElement id f).cell other =
      if other = id then { t.cell id with kind := mapKind f (t.cell id).kind } else t.cell other := by
  split
  · subst other
    rcases Nat.lt_or_ge id t.cells.size with h | h
    · rw [modifyElement, cell_modify_self _ h]
      cases t.cell id with
      | mk kind parent children => cases kind <;> rfl
    · rw [cell_of_size_le (by simpa using h), cell_of_size_le h]
      rfl
  · exact cell_modify_ne t _ ‹_›

/-- A text gets another text. -/
theorem cell_setText {t : Tree} {id : NodeId} {s : String} (h : t.text? id = some s) (s' : String)
    (other : NodeId) :
    (t.modify id fun c => { c with kind := .text s' }).cell other =
      if other = id then { t.cell id with kind := .text s' } else t.cell other := by
  split
  · subst other
    refine cell_modify_self _ (Nat.lt_of_not_le fun hle => ?_)
    rw [text?, cell_of_size_le hle] at h
    cases h
  · exact cell_modify_ne t _ ‹_›

/-! ### Several parents at once -/

theorem size_foldl_setParent (p : Option NodeId) : ∀ (ids : List NodeId) (t : Tree),
    (ids.foldl (fun t c => t.setParent c p) t).cells.size = t.cells.size
  | [], _ => rfl
  | id :: ids, t => by
    rw [List.foldl_cons, size_foldl_setParent p ids, size_setParent]

theorem cell_foldl_setParent_of_not_mem (p : Option NodeId) {other : NodeId} :
    ∀ (ids : List NodeId) (t : Tree), other ∉ ids →
      (ids.foldl (fun t c => t.setParent c p) t).cell other = t.cell other
  | [], _, _ => rfl
  | id :: ids, t, h => by
    rw [List.foldl_cons,
      cell_foldl_setParent_of_not_mem p ids _ (List.not_mem_of_not_mem_cons h)]
    exact cell_modify_ne t _ (List.ne_of_not_mem_cons h)

theorem cell_foldl_setParent_of_mem (p : Option NodeId) {other : NodeId} :
    ∀ (ids : List NodeId) (t : Tree), other ∈ ids → other < t.cells.size →
      (ids.foldl (fun t c => t.setParent c p) t).cell other = { t.cell other with parent := p }
  | id :: ids, t, h, hlt => by
    rw [List.foldl_cons]
    by_cases hmem : other ∈ ids
    · rw [cell_foldl_setParent_of_mem p ids _ hmem (by simpa using hlt)]
      by_cases heq : other = id
      · rw [heq, setParent, cell_modify_self _ (heq ▸ hlt)]
      · rw [setParent, cell_modify_ne t _ heq]
    · have heq : other = id := (List.mem_cons.mp h).resolve_right hmem
      rw [cell_foldl_setParent_of_not_mem p ids _ hmem, heq]
      exact cell_modify_self _ (heq ▸ hlt)

/-! ### Edits -/

@[simp] theorem size_detach (t : Tree) (id : NodeId) :
    (t.detach id).cells.size = t.cells.size := by
  unfold detach
  split
  · rfl
  · simp

theorem detach_of_parent_none {t : Tree} {id : NodeId} (h : t.parent? id = none) :
    t.detach id = t := by
  simp [detach, h]

/-- Detaching takes a node out of the children of its parent. -/
theorem cell_detach {t : Tree} {id p : NodeId} (h : t.parent? id = some p) (hp : p < t.cells.size)
    (hne : p ≠ id) (other : NodeId) :
    (t.detach id).cell other =
      if other = id then { t.cell id with parent := none }
      else if other = p then { t.cell p with children := (t.children p).filter (· ≠ id) }
      else t.cell other := by
  have hid : id < t.cells.size := lt_size_of_parent h
  simp only [detach, h]
  rw [modifyChildren, setParent]
  split
  · subst other
    rw [cell_modify_ne _ _ hne.symm, cell_modify_self _ hid]
  · rename_i hother
    split
    · subst other
      rw [cell_modify_self _ (by simpa using hp), cell_modify_ne _ _ hne]
      rfl
    · rw [cell_modify_ne _ _ ‹_›, cell_modify_ne _ _ hother]

@[simp] theorem size_append (t : Tree) (parent child : NodeId) :
    (t.append parent child).cells.size = t.cells.size := by
  simp [append]

/-- A node gets a parent, and a place among the children of that. -/
theorem cell_setParent_modifyChildren {t : Tree} {p child : NodeId} (f : List NodeId → List NodeId)
    (hp : p < t.cells.size) (hc : child < t.cells.size) (hne : p ≠ child) (other : NodeId) :
    ((t.setParent child (some p)).modifyChildren p f).cell other =
      if other = child then { t.cell child with parent := some p }
      else if other = p then { t.cell p with children := f (t.children p) }
      else t.cell other := by
  rw [modifyChildren, setParent]
  split
  · subst other
    rw [cell_modify_ne _ _ hne.symm, cell_modify_self _ hc]
  · rename_i hother
    split
    · subst other
      rw [cell_modify_self _ (by simpa using hp), cell_modify_ne _ _ hne]
      rfl
    · rw [cell_modify_ne _ _ ‹_›, cell_modify_ne _ _ hother]

/-- Appending makes a node that has no parent the last child of another. -/
theorem cell_append_of_parent_none {t : Tree} {parent child : NodeId}
    (h : t.parent? child = none) (hp : parent < t.cells.size) (hc : child < t.cells.size)
    (hne : parent ≠ child) (other : NodeId) :
    (t.append parent child).cell other =
      if other = child then { t.cell child with parent := some parent }
      else if other = parent then { t.cell parent with children := t.children parent ++ [child] }
      else t.cell other := by
  rw [append, detach_of_parent_none h]
  exact cell_setParent_modifyChildren (· ++ [child]) hp hc hne other

/-- Appending makes a node that another node held the last child of a third one. -/
theorem cell_append_of_parent {t : Tree} {parent child q : NodeId} (h : t.parent? child = some q)
    (hp : parent < t.cells.size) (hq : q < t.cells.size) (hne : parent ≠ child) (hqc : q ≠ child)
    (hqp : q ≠ parent) (other : NodeId) :
    (t.append parent child).cell other =
      if other = child then { t.cell child with parent := some parent }
      else if other = parent then { t.cell parent with children := t.children parent ++ [child] }
      else if other = q then { t.cell q with children := (t.children q).filter (· ≠ child) }
      else t.cell other := by
  have hc : child < t.cells.size := lt_size_of_parent h
  have hcell := cell_detach h hq hqc
  have hparent : (t.detach child).cell parent = t.cell parent := by
    rw [hcell, if_neg hne, if_neg hqp.symm]
  rw [append, cell_setParent_modifyChildren (· ++ [child]) (by simpa using hp) (by simpa using hc) hne,
    hcell child, if_pos rfl, children, hparent, hcell other]
  split
  · rfl
  · rfl

@[simp] theorem size_insertBefore (t : Tree) (sibling child : NodeId) :
    (t.insertBefore sibling child).cells.size = t.cells.size := by
  unfold insertBefore
  split
  · rfl
  · simp

/-- A node that has no parent is put before another. -/
theorem cell_insertBefore_of_parent_none {t : Tree} {sibling child p : NodeId}
    (h : t.parent? sibling = some p) (hnone : t.parent? child = none) (hp : p < t.cells.size)
    (hc : child < t.cells.size) (hne : p ≠ child) (other : NodeId) :
    (t.insertBefore sibling child).cell other =
      if other = child then { t.cell child with parent := some p }
      else if other = p then
        { t.cell p with children := insertAt sibling child (t.children p) }
      else t.cell other := by
  simp only [insertBefore, h]
  rw [detach_of_parent_none hnone]
  exact cell_setParent_modifyChildren (insertAt sibling child) hp hc hne other

@[simp] theorem size_wrap (t : Tree) (id wrapper : NodeId) :
    (t.wrap id wrapper).cells.size = t.cells.size := by
  unfold wrap
  split
  · rfl
  · simp

/-- Wrapping puts a node that has no parent and holds none in the place of another, and the other
inside. -/
theorem cell_wrap {t : Tree} {id wrapper p : NodeId} (h : t.parent? id = some p)
    (hw : t.parent? wrapper = none) (hp : p < t.cells.size) (hlt : wrapper < t.cells.size)
    (hpw : p ≠ wrapper) (hpid : p ≠ id) (other : NodeId) :
    (t.wrap id wrapper).cell other =
      if other = id then { t.cell id with parent := some wrapper }
      else if other = wrapper then
        { t.cell wrapper with parent := some p, children := t.children wrapper ++ [id] }
      else if other = p then
        { t.cell p with
          children := (insertAt id wrapper (t.children p)).filter (· ≠ id) }
      else t.cell other := by
  have hidw : id ≠ wrapper := by
    intro heq
    rw [heq, hw] at h
    cases h
  have hcell := cell_insertBefore_of_parent_none h hw hp hlt hpw
  have hid : (t.insertBefore id wrapper).cell id = t.cell id := by
    rw [hcell, if_neg hidw, if_neg hpid.symm]
  have hparent : (t.insertBefore id wrapper).parent? id = some p := by
    rw [parent?, hid]
    exact h
  have happend := cell_append_of_parent hparent (by simpa using hlt) (by simpa using hp) hidw.symm
    hpid hpw other
  simp only [wrap, h]
  rw [happend]
  split
  · rw [hid]
  · split
    · rw [children, hcell, if_pos rfl]
      rfl
    · split
      · rw [children, hcell, if_neg hpw, if_pos rfl]
      · rw [hcell, if_neg ‹_›, if_neg ‹_›]

/-- Text at the end of a node that holds nothing is a new node. -/
theorem appendText_of_children_nil {t : Tree} {id : NodeId} (h : t.children id = []) (s : String) :
    t.appendText id s = (t.create (.text s)).append id t.cells.size := by
  rw [appendText, h]
  rfl

@[simp] theorem size_moveChildren (t : Tree) (source target : NodeId) :
    (t.moveChildren source target).cells.size = t.cells.size := by
  simp [moveChildren, size_foldl_setParent]

/-- Moving the children of a node puts them behind those of another. -/
theorem cell_moveChildren {t : Tree} {source target : NodeId} (hne : source ≠ target)
    (hs : source < t.cells.size) (ht : target < t.cells.size)
    (hm : ∀ c ∈ t.children source, c < t.cells.size ∧ c ≠ source ∧ c ≠ target) (other : NodeId) :
    (t.moveChildren source target).cell other =
      if other = source then { t.cell source with children := [] }
      else if other = target then
        { t.cell target with children := t.children target ++ t.children source }
      else if other ∈ t.children source then { t.cell other with parent := some target }
      else t.cell other := by
  have hsource : source ∉ t.children source := fun h => (hm source h).2.1 rfl
  have htarget : target ∉ t.children source := fun h => (hm target h).2.2 rfl
  have hsize : target < ((t.children source).foldl (fun t c => t.setParent c (some target))
      (t.modifyChildren source fun _ => [])).cells.size := by
    simpa [size_foldl_setParent] using ht
  simp only [moveChildren]
  rw [modifyChildren]
  split
  · subst other
    rw [cell_modify_ne _ _ hne, cell_foldl_setParent_of_not_mem _ _ _ hsource, modifyChildren,
      cell_modify_self _ hs]
  · rename_i hother
    split
    · subst other
      rw [cell_modify_self _ hsize, cell_foldl_setParent_of_not_mem _ _ _ htarget, modifyChildren,
        cell_modify_ne _ _ hne.symm]
      rfl
    · rename_i hother'
      rw [cell_modify_ne _ _ hother']
      split
      · rename_i hmem
        rw [cell_foldl_setParent_of_mem _ _ _ hmem (by simpa using (hm other hmem).1),
          modifyChildren, cell_modify_ne _ _ hother]
      · rename_i hmem
        rw [cell_foldl_setParent_of_not_mem _ _ _ hmem, modifyChildren, cell_modify_ne _ _ hother]

/-- A node that is given its own children keeps them. -/
theorem cell_moveChildren_self {t : Tree} {source : NodeId} (hs : source < t.cells.size)
    (hm : ∀ c ∈ t.children source, c ≠ source ∧ t.parent? c = some source) (other : NodeId) :
    (t.moveChildren source source).cell other = t.cell other := by
  have hsource : source ∉ t.children source := fun h => (hm source h).1 rfl
  simp only [moveChildren]
  rw [modifyChildren]
  by_cases hother : other = source
  · subst hother
    rw [cell_modify_self _ (by simpa [size_foldl_setParent] using hs),
      cell_foldl_setParent_of_not_mem _ _ _ hsource, modifyChildren, cell_modify_self _ hs]
    rfl
  · rw [cell_modify_ne _ _ hother]
    by_cases hmem : other ∈ t.children source
    · have hparent := (hm other hmem).2
      rw [cell_foldl_setParent_of_mem _ _ _ hmem (by simpa using lt_size_of_parent hparent),
        modifyChildren, cell_modify_ne _ _ hother, ← hparent]
      rfl
    · rw [cell_foldl_setParent_of_not_mem _ _ _ hmem, modifyChildren, cell_modify_ne _ _ hother]

@[simp] theorem size_unwrap (t : Tree) (id : NodeId) :
    (t.unwrap id).cells.size = t.cells.size := by
  unfold unwrap
  split
  · rfl
  · split
    · simp [size_foldl_setParent]
    · rfl

theorem unwrap_of_parent_none {t : Tree} {id : NodeId} (h : t.parent? id = none) :
    t.unwrap id = t := by
  simp [unwrap, h]

/-- Unwrapping puts the children of a node in its place. -/
theorem cell_unwrap {t : Tree} {id p : NodeId} (h : t.parent? id = some p)
    (hmem : id ∈ t.children p) (hne : p ≠ id)
    (hm : ∀ c ∈ t.children id, c < t.cells.size ∧ c ≠ id ∧ c ≠ p) (other : NodeId) :
    (t.unwrap id).cell other =
      if other = id then { t.cell id with parent := none, children := [] }
      else if other = p then
        { t.cell p with children := spliceAt id (t.children id) (t.children p) }
      else if other ∈ t.children id then { t.cell other with parent := some p }
      else t.cell other := by
  have hid : id < t.cells.size := lt_size_of_parent h
  have hp : p < t.cells.size := lt_size_of_mem_children hmem
  have hself : id ∉ t.children id := fun h => (hm id h).2.1 rfl
  have hparent : p ∉ t.children id := fun h => (hm p h).2.2 rfl
  have hsize : ((t.children id).foldl (fun t c => t.setParent c (some p))
      (t.modifyChildren id fun _ => [])).cells.size = t.cells.size := by
    simp [size_foldl_setParent]
  simp only [unwrap, h, List.contains_eq_mem, hmem, decide_true, if_true]
  rw [setParent, modifyChildren]
  split
  · subst other
    rw [cell_modify_self _ (by simpa [hsize] using hid), cell_modify_ne _ _ hne.symm,
      cell_foldl_setParent_of_not_mem _ _ _ hself, modifyChildren, cell_modify_self _ hid]
  · rename_i hother
    rw [cell_modify_ne _ _ hother]
    split
    · subst other
      rw [cell_modify_self _ (by rw [hsize]; exact hp), cell_foldl_setParent_of_not_mem _ _ _ hparent,
        modifyChildren, cell_modify_ne _ _ hne]
      rfl
    · rw [cell_modify_ne _ _ ‹_›]
      split
      · rename_i hmem
        rw [cell_foldl_setParent_of_mem _ _ _ hmem (by simpa using (hm other hmem).1),
          modifyChildren, cell_modify_ne _ _ hother]
      · rename_i hmem
        rw [cell_foldl_setParent_of_not_mem _ _ _ hmem, modifyChildren, cell_modify_ne _ _ hother]

end Folio.Html.Tree
