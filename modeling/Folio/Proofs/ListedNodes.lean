import Folio.Proofs.DocumentOrder
import Folio.Proofs.EditRuns

/-! # The listed nodes below a node

Where links are consistent, the nodes that are listed below a node are those below it, each once and in
document order (`Consistent.listsBelow_descendants`), so the text of a node is its own text and then
the texts of its children, from the first to the last (`Consistent.textContent_eq`). -/

namespace Folio.Html.Tree

open scoped List

variable {t : Tree}

/-! ### Text -/

/-- The texts in the list of some nodes are the texts of the nodes, one after the other. -/
theorem Preorder.join_text (ht : t.Consistent) {ids out : List NodeId} (h : t.Preorder ids out) :
    String.join (out.filterMap t.text?) = String.join (ids.map t.textContent) := by
  induction h with
  | nil => rfl
  | @cons id ids below rest hbelow _ _ ihrest =>
      have hdescendants : t.descendants id = below := by
        have hwalk : t.WalksTo (t.children id) below := by simpa using hbelow.walksTo .done
        exact (ht.walksTo_descendants id).unique hwalk
      have htext : t.textContent id = String.join ((id :: below).filterMap t.text?) := by
        rw [textContent, hdescendants]
      rw [← List.cons_append, List.filterMap_append, String.join_append, ihrest, List.map_cons,
        String.join_cons, htext]

/-- The text of a node is its own and then that of the nodes below it. -/
theorem textContent_eq_append (t : Tree) (r : NodeId) :
    t.textContent r = (t.text? r).getD "" ++ String.join ((t.descendants r).filterMap t.text?) := by
  unfold textContent
  rw [List.filterMap_cons]
  cases t.text? r with
  | none => simp
  | some s => simp

theorem Consistent.textContent_eq (ht : t.Consistent) (r : NodeId) :
    t.textContent r = (t.text? r).getD "" ++ String.join ((t.children r).map t.textContent) := by
  rw [textContent_eq_append, (ht.preorder_descendants r).join_text ht]

/-! ### The list of descendants -/

/-- What it is to list the nodes below a node: the loop over the stack ends with the list, which is the
recursive one; the nodes whose chain of parents passes through the node are in it, each once; a node comes
before the nodes below it; and of two children of one node, the first comes with all that is below it before
the second with all that is below that. -/
structure ListsBelow (t : Tree) (r : NodeId) (out : List NodeId) : Prop where
  walks : t.WalksTo (t.children r) out
  preorder : t.Preorder (t.children r) out
  nodup : out.Nodup
  mem_iff : ∀ n, n ∈ out ↔ ∃ k, t.Climbs (k + 1) n r
  above_first : ∀ a b k, a ∈ out → t.Climbs (k + 1) b a → [a, b] <+ out
  sibling_first : ∀ p a b, p = r ∨ p ∈ out → [a, b] <+ t.children p →
    ∀ x y j k, t.Climbs j x a → t.Climbs k y b → [x, y] <+ out

theorem Consistent.listsBelow_descendants (ht : t.Consistent) (r : NodeId) :
    t.ListsBelow r (t.descendants r) where
  walks := ht.walksTo_descendants r
  preorder := ht.preorder_descendants r
  nodup := (ht.preorder_descendants r).nodup_children ht
  mem_iff _ := (ht.preorder_descendants r).mem_children_iff ht
  above_first _ _ _ ha hb := (ht.preorder_descendants r).sublist_of_climbs ht ha hb
  sibling_first _ _ _ hp hab _ _ _ _ hx hy :=
    (ht.preorder_descendants r).sublist_of_children ht hp hab hx hy

/-- **Descendants in document order**: in a tree with consistent links the loop over the stack ends below
every node, and what it lists are the nodes below that node in document order; the text of a node is put
together of its own and those of the listed nodes in this order, and so of the texts of its children. -/
theorem descendants_listsBelow (ht : t.Consistent) (r : NodeId) :
    t.ListsBelow r (t.descendants r) ∧
      t.textContent r = (t.text? r).getD "" ++ String.join ((t.descendants r).filterMap t.text?) ∧
      t.textContent r = (t.text? r).getD "" ++ String.join ((t.children r).map t.textContent) :=
  ⟨ht.listsBelow_descendants r, t.textContent_eq_append r, ht.textContent_eq r⟩

/-- A division whose nodes were put into it in another order than they stand in. -/
def mixedEdits : List Edit :=
  [.create (.element (.ofHtml "div")), .append 0 1, .appendText 1 "c",
    .create (.element (.ofHtml "span")), .insertBefore 2 3, .appendText 3 "b", .create (.text "a"),
    .insertBefore 3 5, .create (.element (.ofHtml "b")), .wrap 4 6]

/-- The loop lists the nodes of the division as they stand, and so its text is put together. -/
theorem descendants_listsBelow_mixedEdits :
    (mixedEdits.foldl apply empty).Consistent ∧
      (mixedEdits.foldl apply empty).ListsBelow 1 [5, 3, 6, 4, 2] ∧
      (mixedEdits.foldl apply empty).textContent 1 = "abc" := by
  have hconsistent : (mixedEdits.foldl apply empty).Consistent :=
    empty_wellFormed.consistent.foldl_apply mixedEdits (by decide +kernel)
  have hlist : (mixedEdits.foldl apply empty).descendants 1 = [5, 3, 6, 4, 2] := by decide +kernel
  obtain ⟨hbelow, htext, -⟩ := descendants_listsBelow hconsistent 1
  rw [hlist] at hbelow htext
  refine ⟨hconsistent, hbelow, htext.trans ?_⟩
  decide +kernel

end Folio.Html.Tree
