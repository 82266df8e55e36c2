import Folio.Proofs.GroveReading
import Folio.Proofs.Heights

/-! # The grove below a node

In a well-formed tree every node has a height, which is bounded by the number of cells, so the cells below
a node can be read as a grove.  A grove lists its nodes in document order, and so no place comes twice in
it. -/

namespace Folio.Html.Tree

variable {t : Tree}

/-- Some nodes with what is below them, down to a depth. -/
def groveBelow (t : Tree) : Nat → List NodeId → Grove
  | 0, _ => .nil
  | depth + 1, ids =>
    ids.foldr (fun id next =>
      .node id (t.cell id).kind (t.groveBelow depth (t.children id)) next) .nil

/-- What is needed of the grove below some children of a node: it has them on its top level, the tree
holds it, and below each of them there is nothing of another. -/
structure Grows (t : Tree) (p : NodeId) (ids : List NodeId) (g : Grove) : Prop where
  tops : g.tops = ids
  holds : t.Holds p g
  nodup : g.ids.Nodup
  climbs : ∀ i ∈ g.ids, ∃ c ∈ ids, ∃ k, t.Climbs k i c

/-- The step from the groves below some children of a node to the grove of the node's children. -/
theorem WellFormed.grows_foldr (ht : t.WellFormed) {p : NodeId} {n depth : Nat}
    (hp : t.Reaches n p)
    (hbelow : ∀ id, t.parent? id = some p →
      t.Grows id (t.children id) (t.groveBelow depth (t.children id))) :
    ∀ ids : List NodeId, ids.Nodup → (∀ id ∈ ids, t.parent? id = some p) →
      t.Grows p ids (ids.foldr (fun id next =>
        .node id (t.cell id).kind (t.groveBelow depth (t.children id)) next) .nil)
  | [], _, _ => ⟨rfl, trivial, List.nodup_nil, nofun⟩
  | id :: ids, hnodup, hparent => by
    have hid := hparent id List.mem_cons_self
    obtain ⟨hbtops, hbholds, -, -⟩ := hbelow id hid
    obtain ⟨hntops, hnholds, -, -⟩ := ht.grows_foldr hp hbelow ids (List.nodup_cons.mp hnodup).2
      fun i hi => hparent i (List.mem_cons_of_mem id hi)
    rw [List.foldr_cons]
    generalize ids.foldr _ Grove.nil = next at hntops hnholds ⊢
    have htops : (Grove.node id (t.cell id).kind (t.groveBelow depth (t.children id)) next).tops =
        id :: ids := congrArg (id :: ·) hntops
    have hholds : t.Holds p (.node id (t.cell id).kind (t.groveBelow depth (t.children id)) next) := by
      refine ⟨?_, ⟨ht.kind_of_parent id p hid, ?_⟩, hbholds, hnholds⟩
      · rw [hbtops]
        have hparent : (t.cell id).parent = some p := hid
        rw [← hparent]
        rfl
      · cases hchildren : t.children id with
        | nil => exact .inr (by cases depth <;> rfl)
        | cons c rest =>
            have hc : t.parent? c = some id := (ht.mem_children_iff id c).mp (by simp [hchildren])
            exact .inl (ht.holds_of_parent c id hc)
    -- the rest is told by the order in which a grove lists its nodes
    have hpreorder : t.Preorder (id :: ids) _ := htops ▸ hholds.preorder
    refine ⟨htops, hholds, ?_, fun i hi => hpreorder.exists_climbs ht.consistent hi⟩
    have hreaches : ∀ i ∈ id :: ids, t.Reaches (n + 1) i := fun i hi => ⟨p, hparent i hi, hp⟩
    exact hpreorder.nodup ht.consistent hreaches hnodup

theorem WellFormed.grows (ht : t.WellFormed) : ∀ (depth n : Nat) (p : NodeId), t.Reaches n p →
    t.cells.size ≤ n + depth → t.Grows p (t.children p) (t.groveBelow depth (t.children p))
  | 0, n, p, hn, hle => by
    rw [ht.consistent.children_eq_nil hn hle]
    exact ⟨rfl, trivial, List.nodup_nil, nofun⟩
  | depth + 1, n, p, hn, hle => by
    refine ht.grows_foldr hn (fun id hid => ?_) _ (ht.children_nodup p) fun id hid => ?_
    · exact ht.grows depth (n + 1) id ⟨p, hid, hn⟩ (by omega)
    · exact (ht.mem_children_iff p id).mp hid

/-- Below every node of a well-formed tree stands a grove. -/
theorem WellFormed.stands (ht : t.WellFormed) (r : NodeId) : ∃ g, t.Stands r [] g [] := by
  obtain ⟨n, hn⟩ := ht.reaches r
  obtain ⟨htops, hholds, hnodup, hclimbs⟩ := ht.grows t.cells.size n r hn (by omega)
  refine ⟨_, by simpa using htops.symm, hholds, hnodup, fun i hi => ⟨fun heq => ?_, by simp⟩, by simp⟩
  obtain ⟨c, hc, k, hk⟩ := hclimbs i hi
  have hup := hk.step ((ht.mem_children_iff r c).mp hc)
  have hself := (hup.reaches hn).unique (heq ▸ hn)
  omega

/-- The nodes that are listed below a node are those that can be reached from it. -/
theorem WellFormed.mem_descendants_iff (ht : t.WellFormed) {r n : NodeId} :
    n ∈ t.descendants r ↔ t.IsBelow r n := by
  obtain ⟨g, hg⟩ := ht.stands r
  rw [hg.descendants, hg.mem_ids_iff]

end Folio.Html.Tree
