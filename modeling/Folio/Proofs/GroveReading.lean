import Folio.Html.Pass
import Folio.Proofs.DocumentOrder
import Folio.Proofs.Grove

/-! # Reading a tree

Below every node of a well-formed tree there is a grove (`Tree.WellFormed.stands`), and what a pass
reads of the tree is read off it: the nodes in document order (`Stands.descendants`), their forest
(`Stands.forest`), their text (`Stands.textContent`).  The walks over a tree count their steps down
from the number of its cells; a grove has no more nodes than that, so no walk stops early.  A pass that
first lists elements and then takes a step at each of them is followed from node to node
(`passes_of_element`): the list of a grove is that of its first node and then that of the rest. -/

namespace Folio.Html

namespace Grove

/-- The places of the elements that satisfy `p`, in document order. -/
def elements (p : Element → Bool) : Grove → List NodeId
  | nil => []
  | node id kind below next =>
    match kind with
    | .element e =>
      if p e then id :: (below.elements p ++ next.elements p) else below.elements p ++ next.elements p
    | _ => below.elements p ++ next.elements p

@[simp] theorem elements_nil (p : Element → Bool) : nil.elements p = [] := rfl

theorem elements_node_of_pos {p : Element → Bool} {e : Element} (h : p e = true) (id : NodeId)
    (below next : Grove) :
    (node id (.element e) below next).elements p = id :: (below.elements p ++ next.elements p) := by
  simp [elements, h]

theorem elements_node_of_neg {p : Element → Bool} {e : Element} (h : p e = false) (id : NodeId)
    (below next : Grove) :
    (node id (.element e) below next).elements p = below.elements p ++ next.elements p := by
  simp [elements, h]

theorem elements_append (p : Element → Bool) :
    ∀ f g : Grove, (f ++ g).elements p = f.elements p ++ g.elements p
  | nil, _ => rfl
  | node _ kind below next, g => by
    simp only [node_append, elements, elements_append p next g]
    cases kind with
    | element e =>
        dsimp only
        split
        · rw [List.cons_append, List.append_assoc]
        · rw [List.append_assoc]
    | document => exact (List.append_assoc _ _ _).symm
    | text s => exact (List.append_assoc _ _ _).symm
    | comment s => exact (List.append_assoc _ _ _).symm
    | doctype => exact (List.append_assoc _ _ _).symm

end Grove

namespace Tree

variable {t : Tree} {p : NodeId} {g : Grove}

/-- Only elements hold nodes in a grove. -/
theorem Holds.eq_nil_of_not_holds {id : NodeId} {kind : NodeKind} {below next : Grove}
    (h : t.Holds p (.node id kind below next)) (hkind : kind.holds = false) : below = .nil :=
  h.2.1.2.resolve_left (by simp [hkind])

/-! ### Walks -/

/-- A grove lists its nodes in document order. -/
theorem Holds.preorder : ∀ {p : NodeId} {g : Grove}, t.Holds p g → t.Preorder g.tops g.ids
  | _, .nil, _ => .nil
  | p, .node id kind below next, ⟨hcell, _, hbelow, hnext⟩ => by
    have hchildren : t.children id = below.tops := by rw [children, hcell]
    exact .cons (hchildren ▸ hbelow.preorder) hnext.preorder

theorem Holds.filter_elements (q : Element → Bool) : ∀ {p : NodeId} {g : Grove}, t.Holds p g →
    g.ids.filter (t.isElementOf · q) = g.elements q
  | _, .nil, _ => rfl
  | p, .node id kind below next, ⟨hcell, _, hbelow, hnext⟩ => by
    rw [Grove.ids, List.filter_cons, List.filter_append, hbelow.filter_elements q,
      hnext.filter_elements q]
    cases kind <;> simp [isElementOf, element?, hcell, Grove.elements]

theorem Holds.forestBelow_eq : ∀ {p : NodeId} {g : Grove}, t.Holds p g →
    ∀ depth, g.ids.length ≤ depth → t.forestBelow depth g.tops = g.forest
  | _, .nil, _, 0, _ => rfl
  | _, .nil, _, _ + 1, _ => rfl
  | p, .node id kind below next, ⟨hcell, _, hbelow, hnext⟩, depth, hle => by
    rw [Grove.ids, List.length_cons, List.length_append] at hle
    obtain ⟨n, rfl⟩ : ∃ n, depth = n + 1 := ⟨depth - 1, by omega⟩
    have hchildren : t.children id = below.tops := by rw [children, hcell]
    have hrest : t.forestBelow (n + 1) next.tops = next.forest :=
      hnext.forestBelow_eq (n + 1) (by omega)
    rw [forestBelow] at hrest ⊢
    rw [Grove.tops, List.foldr_cons, hrest, hchildren, hbelow.forestBelow_eq n (by omega), hcell]
    rfl

theorem Holds.flatMap_text : ∀ {p : NodeId} {g : Grove}, t.Holds p g →
    (g.ids.filterMap t.text?).flatMap String.toList = g.forest.textChars
  | _, .nil, _ => rfl
  | p, .node id kind below next, ⟨hcell, hkind, hbelow, hnext⟩ => by
    have hb := hbelow.flatMap_text
    have hn := hnext.flatMap_text
    rw [Grove.ids, List.filterMap_cons, List.filterMap_append]
    cases kind with
    | document => exact absurd rfl hkind.1
    | element e =>
        simp only [text?, hcell, List.flatMap_append, Grove.forest, nodeForest, Forest.textChars]
        rw [hb, hn]
    | text s =>
        have hnil : below = .nil := by simpa [NodeKind.holds] using hkind.2
        subst hnil
        simp only [text?, hcell, Grove.ids, List.filterMap_nil, List.nil_append, List.flatMap_cons,
          Grove.forest, nodeForest, Forest.textChars]
        rw [hn]
    | comment s =>
        have hnil : below = .nil := by simpa [NodeKind.holds] using hkind.2
        subst hnil
        simpa only [text?, hcell, Grove.ids, List.filterMap_nil, List.nil_append, Grove.forest,
          nodeForest, Forest.textChars] using hn
    | doctype =>
        have hnil : below = .nil := by simpa [NodeKind.holds] using hkind.2
        subst hnil
        simpa only [text?, hcell, Grove.ids, List.filterMap_nil, List.nil_append, Grove.forest,
          nodeForest, Forest.textChars] using hn

namespace Stands

variable {r : NodeId} {pre post : List NodeId}

/-- A grove has no more nodes than its tree has cells. -/
theorem length_le (h : t.Stands r pre g post) : g.ids.length ≤ t.cells.size := by
  have hsub : g.ids ⊆ List.range t.cells.size := fun _ hi => List.mem_range.mpr (h.holds.lt_size hi)
  simpa using h.nodup.length_le_of_subset hsub

theorem descendants (h : t.Stands r [] g []) : t.descendants r = g.ids := by
  have hwalk : t.WalksTo (t.children r) g.ids := by
    have htops := h.holds.preorder.walksTo .done
    rw [h.children]
    simpa using htops
  exact hwalk.descendantsFrom_eq h.length_le

theorem elementsBelow (h : t.Stands r [] g []) (q : Element → Bool) :
    t.elementsBelow r q = g.elements q := by
  unfold Tree.elementsBelow
  rw [h.descendants]
  exact h.holds.filter_elements q

theorem forest (h : t.Stands r [] g []) : t.forest r = g.forest := by
  unfold Tree.forest
  rw [h.children]
  simpa using h.holds.forestBelow_eq t.cells.size h.length_le

/-- The text of a node that is no text is the text of what is below it. -/
theorem textContent (h : t.Stands r [] g []) (hr : t.text? r = none) :
    t.textContent r = g.forest.textContent := by
  unfold Tree.textContent
  rw [h.descendants, List.filterMap_cons, hr]
  refine String.toList_inj.mp ?_
  rw [String.toList_join, Forest.textContent, String.toList_ofList]
  exact h.holds.flatMap_text

end Stands

/-! ### Nodes below a node -/

theorem Holds.mem_ids_of_child {p c : NodeId} : ∀ {q : NodeId} {g : Grove}, t.Holds q g → p ∈ g.ids →
    c ∈ t.children p → c ∈ g.ids
  | _, .node id _ below next, ⟨hcell, _, hbelow, hnext⟩, hp, hc => by
    rcases List.mem_cons.mp hp with rfl | hp
    · rw [children, hcell] at hc
      exact List.mem_cons_of_mem _ (List.mem_append_left _ (Grove.mem_ids_of_mem_tops hc))
    · rcases List.mem_append.mp hp with hp | hp
      · exact List.mem_cons_of_mem _ (List.mem_append_left _ (hbelow.mem_ids_of_child hp hc))
      · exact List.mem_cons_of_mem _ (List.mem_append_right _ (hnext.mem_ids_of_child hp hc))

/-- Only the nodes of the grove can be reached from the node it stands below. -/
theorem Stands.mem_ids_of_isBelow (h : t.Stands r [] g []) {n : NodeId} (hn : t.IsBelow r n) :
    n ∈ g.ids := by
  induction hn with
  | child hc =>
      rw [h.children] at hc
      exact Grove.mem_ids_of_mem_tops (by simpa using hc)
  | step _ hc ih => exact h.holds.mem_ids_of_child ih hc

theorem Holds.isBelow {r n : NodeId} : ∀ {p : NodeId} {g : Grove}, t.Holds p g →
    (∀ c ∈ g.tops, t.IsBelow r c) → n ∈ g.ids → t.IsBelow r n
  | _, .node id _ below next, ⟨hcell, _, hbelow, hnext⟩, htops, hn => by
    have hid : t.IsBelow r id := htops id List.mem_cons_self
    have hchildren : t.children id = below.tops := by rw [children, hcell]
    rcases List.mem_cons.mp hn with rfl | hn
    · exact hid
    · rcases List.mem_append.mp hn with hn | hn
      · exact hbelow.isBelow (fun c hc => .step hid (hchildren ▸ hc)) hn
      · exact hnext.isBelow (fun c hc => htops c (List.mem_cons_of_mem _ hc)) hn

/-- The nodes of a grove are those that can be reached from the node it stands below. -/
theorem Stands.mem_ids_iff {r n : NodeId} (h : t.Stands r [] g []) : n ∈ g.ids ↔ t.IsBelow r n := by
  refine ⟨h.holds.isBelow fun c hc => .child ?_, h.mem_ids_of_isBelow⟩
  rw [h.children]
  simpa using hc

/-! ### Passes -/

section passes

variable {σ : Type} {tree : σ → Tree} {step : σ → NodeId → σ} {q : Element → Bool}
  {left : σ → NodeId → Grove → Grove → σ → Prop}

/-- What a pass comes to that takes a step at each element that satisfies `q`: another grove stands in
the place of the first, and `left` tells which one and what else the pass has left behind. -/
def Passes (tree : σ → Tree) (step : σ → NodeId → σ) (q : Element → Bool)
    (left : σ → NodeId → Grove → Grove → σ → Prop) (s : σ) (p : NodeId) (pre : List NodeId)
    (g : Grove) (post : List NodeId) : Prop :=
  ∃ g', (tree s).Replaces (tree ((g.elements q).foldl step s)) p pre g g' post ∧
    left s p g g' ((g.elements q).foldl step s)

/-- A pass is what it is at one element, given what it is below the element: it does nothing at the
other nodes, and what it leaves of two groves stands side by side.  `ok` is what the pass needs of the node
whose children it goes over, and keeps. -/
theorem passes_within (ok : σ → NodeId → Prop)
    (hnil : ∀ s p, left s p .nil .nil s)
    (hleaf : ∀ s p id kind, kind.holds = false → left s p (.single id kind .nil) (.single id kind .nil) s)
    (happend : ∀ {s s' s'' : σ} {p : NodeId} {pre post : List NodeId} {f f' g g' : Grove},
      (tree s).Replaces (tree s') p pre f f' post → left s p f f' s' → left s' p g g' s'' →
        left s p (f ++ g) (f' ++ g') s'')
    (hok : ∀ {s s' : σ} {p : NodeId} {pre post : List NodeId} {f f' : Grove}, ok s p →
      (tree s).Stands p pre f post → (tree s).Replaces (tree s') p pre f f' post →
        left s p f f' s' → ok s' p)
    (helement : ∀ {s : σ} {p : NodeId} {pre post : List NodeId} {id : NodeId} {e : Element}
      {below : Grove}, ok s p → (tree s).Stands p pre (.single id (.element e) below) post →
        (∀ s p post, ok s p → (tree s).Stands p [] below post →
          Passes tree step q left s p [] below post) →
          Passes tree step q left s p pre (.single id (.element e) below) post) :
    ∀ (g : Grove) (s : σ) (p : NodeId) (pre post : List NodeId), ok s p →
      (tree s).Stands p pre g post → Passes tree step q left s p pre g post
  | .nil, s, p, _, _, _, h => ⟨.nil, .refl h, hnil s p⟩
  | .node id kind below next, s, p, pre, post, hp, h => by
    have hsplit : Grove.node id kind below next = .single id kind below ++ next := rfl
    rw [hsplit] at h ⊢
    have hfirst : Passes tree step q left s p pre (.single id kind below) (next.tops ++ post) := by
      cases kind with
      | document => exact absurd rfl h.left.holds.2.1.1
      | element e =>
          exact helement hp h.left fun s p post hp hs =>
            passes_within ok hnil hleaf happend hok helement below s p [] post hp hs
      | text _ =>
          obtain rfl := h.left.holds.eq_nil_of_not_holds rfl
          exact ⟨_, .refl h.left, hleaf s p id _ rfl⟩
      | comment _ =>
          obtain rfl := h.left.holds.eq_nil_of_not_holds rfl
          exact ⟨_, .refl h.left, hleaf s p id _ rfl⟩
      | doctype =>
          obtain rfl := h.left.holds.eq_nil_of_not_holds rfl
          exact ⟨_, .refl h.left, hleaf s p id _ rfl⟩
    obtain ⟨f', hf, hleft⟩ := hfirst
    obtain ⟨g', hg, hleft'⟩ := passes_within ok hnil hleaf happend hok helement next _ p _ post
      (hok hp h.left hf hleft) (hf.right h)
    refine ⟨f' ++ g', ?_, ?_⟩
    · rw [Grove.elements_append, List.foldl_append]
      exact .append h hf hg
    · rw [Grove.elements_append, List.foldl_append]
      exact happend hf hleft hleft'

/-- A pass that needs nothing of the node whose children it goes over. -/
theorem passes_of_element
    (hnil : ∀ s p, left s p .nil .nil s)
    (hleaf : ∀ s p id kind, kind.holds = false → left s p (.single id kind .nil) (.single id kind .nil) s)
    (happend : ∀ {s s' s'' : σ} {p : NodeId} {pre post : List NodeId} {f f' g g' : Grove},
      (tree s).Replaces (tree s') p pre f f' post → left s p f f' s' → left s' p g g' s'' →
        left s p (f ++ g) (f' ++ g') s'')
    (helement : ∀ {s : σ} {p : NodeId} {pre post : List NodeId} {id : NodeId} {e : Element}
      {below : Grove}, (tree s).Stands p pre (.single id (.element e) below) post →
        (∀ s p post, (tree s).Stands p [] below post → Passes tree step q left s p [] below post) →
          Passes tree step q left s p pre (.single id (.element e) below) post)
    (g : Grove) (s : σ) (p : NodeId) (pre post : List NodeId) (h : (tree s).Stands p pre g post) :
    Passes tree step q left s p pre g post :=
  passes_within (fun _ _ => True) hnil hleaf happend (fun _ _ _ _ => trivial)
    (fun _ h hbelow => helement h fun s p post => hbelow s p post trivial) g s p pre post trivial h

end passes

end Tree

end Folio.Html
