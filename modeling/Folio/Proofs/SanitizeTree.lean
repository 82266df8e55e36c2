import Folio.Proofs.GroveEdits
import Folio.Proofs.GroveOfTree

/-! # Cleaning a tree

`Tree.sanitize` walks over a tree while it changes it: it lists the children of a node, cleans one after
the other, and by then the children of a disallowed child stand in its place.  Where a grove stands
this comes to `Grove.sanitize`, which keeps the places, and that is `Forest.sanitize` with the places
forgotten.  The induction is over the grove: a node is cleaned with everything below it before the
next of its siblings is looked at, so the siblings are as they were listed. -/

namespace Folio.Html

/-! ### Counts -/

namespace Removed

theorem add_assoc (a b c : Removed) : a + b + c = a + (b + c) := by
  change Removed.add (Removed.add a b) c = Removed.add a (Removed.add b c)
  simp only [Removed.add, Nat.add_assoc]

theorem add_comm (a b : Removed) : a + b = b + a := by
  change Removed.add a b = Removed.add b a
  simp only [Removed.add, Nat.add_comm]

theorem add_zero (a : Removed) : a + {} = a := rfl

theorem zero_add (a : Removed) : {} + a = a := (add_comm {} a).trans (add_zero a)

end Removed

namespace Grove

/-- What is left of a grove. -/
def sanitize : Grove → Grove
  | nil => nil
  | node id kind below next =>
    match kind with
    | .text s => node id (.text s) below next.sanitize
    | .element e =>
      if allowsElement e then node id (.element (cleanElement e)) below.sanitize next.sanitize
      else if dropsContent e then next.sanitize
      else below.sanitize ++ next.sanitize
    | _ => next.sanitize

theorem sanitize_append : ∀ f g : Grove, (f ++ g).sanitize = f.sanitize ++ g.sanitize
  | nil, _ => rfl
  | node id kind below next, g => by
    have ih := sanitize_append next g
    cases kind with
    | element e =>
        simp only [node_append, sanitize, ih]
        split
        · rfl
        · split
          · rfl
          · exact (append_assoc _ _ _).symm
    | text s => simp only [node_append, sanitize, ih]
    | comment s => exact ih
    | doctype => exact ih
    | document => exact ih

end Grove

theorem Forest.removed_append (f g : Forest) : (f ++ g).removed = f.removed + g.removed := by
  induction f with
  | nil => exact (Removed.zero_add g.removed).symm
  | text s next ih => exact ih
  | comment s next ih => exact ih
  | doctype next ih => exact ih
  | element e children next _ ih =>
      change (element e children (next ++ g)).removed = (element e children next).removed + g.removed
      simp only [removed, ih]
      split
      · exact (Removed.add_assoc _ _ _).symm
      · split <;> exact (Removed.add_assoc _ _ _).symm

namespace Tree

variable {t : Tree}

/-- Without the places, what is left of a grove is what is left of its forest. -/
theorem Holds.forest_sanitize : ∀ {p : NodeId} {g : Grove}, t.Holds p g →
    g.sanitize.forest = g.forest.sanitize
  | _, .nil, _ => rfl
  | _, .node id kind below next, ⟨_, hkind, hbelow, hnext⟩ => by
    have hb := hbelow.forest_sanitize
    have hn := hnext.forest_sanitize
    cases kind with
    | document => exact absurd rfl hkind.1
    | element e =>
        simp only [Grove.sanitize, Grove.forest, nodeForest, Forest.sanitize]
        split
        · simp only [Grove.forest, nodeForest, hb, hn]
        · split
          · exact hn
          · rw [Grove.forest_append, hb, hn]
    | text s => exact congrArg (Forest.text s) hn
    | comment s => exact hn
    | doctype => exact hn

end Tree

namespace Cleaning

variable {s : Cleaning} {p id : NodeId} {pre post : List NodeId} {kind : NodeKind}
  {below : Grove}

/-- What cleaning a place comes to: what is left of the grove stands there, and what has gone is
counted. -/
structure Cleans (s s' : Cleaning) (p : NodeId) (pre : List NodeId) (g : Grove)
    (post : List NodeId) : Prop where
  replaces : s.tree.Replaces s'.tree p pre g g.sanitize post
  removed : s'.removed = s.removed + g.forest.removed

/-- One node is cleaned, given that what is below it would be. -/
theorem cleans_node {depth : Nat} (h : s.tree.Stands p pre (.single id kind below) post)
    (hbelow : ∀ s : Cleaning, s.tree.Stands id [] below [] →
      s.Cleans (below.tops.foldl (node depth) s) id [] below []) :
    s.Cleans (node (depth + 1) s id) p pre (.single id kind below) post := by
  have hchildren : s.tree.children id = below.tops := by rw [Tree.children, h.cell]
  rw [node, h.cell]
  cases kind with
  | document => exact absurd rfl h.holds.2.1.1
  | text _ => exact ⟨.refl h, (Removed.add_zero _).symm⟩
  | comment _ => exact ⟨h.detach, (Removed.add_zero _).symm⟩
  | doctype => exact ⟨h.detach, (Removed.add_zero _).symm⟩
  | element e =>
      dsimp only
      by_cases hallowed : allowsElement e
      · rw [if_pos hallowed]
        have hclean := h.modifyElement cleanElement
        have hnow : (s.tree.modifyElement id cleanElement).children id = below.tops := by
          rw [Tree.children, hclean.stands.cell]
        have hinner := hbelow ((s.cleanAttrs id).count
          ⟨0, 0, (e.attrs.filter (!keepsAttr e ·)).length⟩) hclean.stands.inside
        have hsame : (Grove.single id (.element e) below).sanitize =
            .single id (.element (cleanElement e)) below.sanitize := by
          simp [Grove.sanitize, hallowed]
        rw [← hnow] at hinner
        constructor
        · rw [hsame]
          exact hclean.trans (.inside hclean.stands hinner.replaces)
        · rw [Grove.forest, Tree.nodeForest, Forest.removed, if_pos hallowed]
          exact hinner.removed.trans (Removed.add_assoc _ _ _)
      · rw [if_neg hallowed]
        by_cases hdropped : dropsContent e
        · rw [if_pos hdropped]
          have hsame : (Grove.single id (.element e) below).sanitize = .nil := by
            simp [Grove.sanitize, hallowed, hdropped]
          refine ⟨by rw [hsame]; exact h.detach, ?_⟩
          rw [Grove.forest, Tree.nodeForest, Forest.removed, if_neg hallowed, if_pos hdropped]
          rfl
        · rw [if_neg hdropped, hchildren]
          have hinner := hbelow s h.inside
          have hkept := Tree.Replaces.inside h hinner.replaces
          have hsame : (Grove.single id (.element e) below).sanitize = below.sanitize := by
            simp [Grove.sanitize, hallowed, hdropped]
          refine ⟨by rw [hsame]; exact hkept.trans hkept.stands.unwrap, ?_⟩
          rw [Grove.forest, Tree.nodeForest, Forest.removed, if_neg hallowed, if_neg hdropped]
          exact (congrArg (· + _) hinner.removed).trans
            ((Removed.add_assoc _ _ _).trans (congrArg _ (Removed.add_comm _ _)))

/-- Cleaning the nodes of a grove one after the other, deep enough. -/
theorem cleans_foldl : ∀ (g : Grove) (depth : Nat) (s : Cleaning) (p : NodeId)
    (pre post : List NodeId), g.ids.length ≤ depth → s.tree.Stands p pre g post →
      s.Cleans (g.tops.foldl (node depth) s) p pre g post
  | .nil, _, s, _, _, _, _, h => ⟨.refl h, (Removed.add_zero _).symm⟩
  | .node id kind below next, depth, s, p, pre, post, hle, h => by
    rw [Grove.ids, List.length_cons, List.length_append] at hle
    obtain ⟨n, rfl⟩ : ∃ n, depth = n + 1 := ⟨depth - 1, by omega⟩
    have hsplit : Grove.node id kind below next = .single id kind below ++ next := rfl
    rw [hsplit] at h
    have hfirst := cleans_node h.left fun s hs =>
      cleans_foldl below n s id [] [] (by omega) hs
    have hrest := cleans_foldl next (n + 1) (node (n + 1) s id) p _ post (by omega)
      (hfirst.replaces.right h)
    rw [Grove.tops, List.foldl_cons, hsplit]
    constructor
    · rw [Grove.sanitize_append]
      exact .append h hfirst.replaces hrest.replaces
    · rw [hrest.removed, hfirst.removed, Grove.forest_append, Forest.removed_append,
        Removed.add_assoc]

end Cleaning

/-- Cleaning what is below a node leaves there what is left of the grove, and changes nothing else. -/
theorem Tree.Stands.sanitize {t : Tree} {r : NodeId} {g : Grove} (h : t.Stands r [] g []) :
    t.Replaces (t.sanitize r).tree r [] g g.sanitize [] ∧
      (t.sanitize r).removed = g.forest.removed := by
  have hclean := Cleaning.cleans_foldl g t.cells.size ⟨t, {}⟩ r [] [] h.length_le h
  have htops : t.children r = g.tops := by simpa using h.children
  unfold Tree.sanitize
  rw [htops]
  exact ⟨hclean.replaces, hclean.removed.trans (Removed.zero_add _)⟩

end Folio.Html
