import Folio.Proofs.Cells

/-! # Heights

In a tree whose links are consistent every chain of parents ends, so every node has a height: the
number of links above it.  A node on a chain is higher than all nodes above it, which bounds the heights
by the number of cells; so the nodes above a node are all listed (`Consistent.mem_ancestors_iff`). -/

namespace Folio.Html.Tree

variable {t t' : Tree}

/-- The links of a tree are consistent: a child list names exactly the nodes that name its owner as their
parent, each once, and every chain of parents ends.  The document may have a parent. -/
structure Consistent (t : Tree) : Prop where
  mem_children_iff : ∀ p c, c ∈ t.children p ↔ t.parent? c = some p
  children_nodup : ∀ p, (t.children p).Nodup
  reaches : ∀ id, ∃ n, t.Reaches n id

theorem Linked.consistent (ht : t.Linked) : t.Consistent :=
  ⟨ht.mem_children_iff, ht.children_nodup, ht.reaches⟩

theorem Consistent.linked (ht : t.Consistent) (h : t.parent? document = none) : t.Linked :=
  ⟨ht.mem_children_iff, ht.children_nodup, ht.reaches, h⟩

/-! ### Climbing -/

theorem Reaches.unique : ∀ {m n : Nat} {id : NodeId}, t.Reaches m id → t.Reaches n id → m = n
  | 0, 0, _, _, _ => rfl
  | 0, _ + 1, _, hm, ⟨_, hp, _⟩ => by simp [Reaches, hp] at hm
  | _ + 1, 0, _, ⟨_, hp, _⟩, hn => by simp [Reaches, hp] at hn
  | m + 1, n + 1, id, ⟨p, hp, hm⟩, ⟨q, hq, hn⟩ => by
    obtain rfl : p = q := Option.some.inj (hp.symm.trans hq)
    rw [hm.unique hn]

/-- Climbing `n` links from a node leads to `a`. -/
def Climbs (t : Tree) : Nat → NodeId → NodeId → Prop
  | 0, id, a => id = a
  | n + 1, id, a => ∃ p, t.parent? id = some p ∧ t.Climbs n p a

theorem Climbs.reaches : ∀ {k n : Nat} {id a : NodeId}, t.Climbs k id a → t.Reaches n a →
    t.Reaches (n + k) id
  | 0, _, _, _, rfl, h => h
  | _ + 1, _, _, _, ⟨p, hp, hclimbs⟩, h => ⟨p, hp, hclimbs.reaches h⟩

theorem Climbs.unique : ∀ {k : Nat} {id a b : NodeId}, t.Climbs k id a → t.Climbs k id b → a = b
  | 0, _, _, _, rfl, rfl => rfl
  | _ + 1, _, _, _, ⟨p, hp, ha⟩, ⟨q, hq, hb⟩ => by
    obtain rfl : p = q := Option.some.inj (hp.symm.trans hq)
    exact ha.unique hb

theorem Climbs.step : ∀ {k : Nat} {id a p : NodeId}, t.Climbs k id a → t.parent? a = some p →
    t.Climbs (k + 1) id p
  | 0, _, _, p, rfl, h => ⟨p, h, rfl⟩
  | _ + 1, _, _, _, ⟨q, hq, hclimbs⟩, h => ⟨q, hq, hclimbs.step h⟩

/-- Where links have only gone, climbing leads where it led. -/
theorem Climbs.mono (h : ∀ i p, t'.parent? i = some p → t.parent? i = some p) :
    ∀ {k : Nat} {id a : NodeId}, t'.Climbs k id a → t.Climbs k id a
  | 0, _, _, rfl => rfl
  | _ + 1, id, _, ⟨p, hp, hclimbs⟩ => ⟨p, h id p hp, hclimbs.mono h⟩

/-- From a node, climbing leads to two nodes of one height only if they are the same. -/
theorem Climbs.eq_of_height {j k n : Nat} {id a b : NodeId} (ha : t.Climbs j id a)
    (hb : t.Climbs k id b) (hna : t.Reaches n a) (hnb : t.Reaches n b) : a = b := by
  have hjk : n + j = n + k := (ha.reaches hna).unique (hb.reaches hnb)
  obtain rfl : j = k := by omega
  exact ha.unique hb

/-- A chain of parents whose nodes have the parents that they had ends as it did. -/
theorem Reaches.congr : ∀ {n : Nat} {a : NodeId}, t.Reaches n a →
    (∀ k b, t.Climbs k a b → t'.parent? b = t.parent? b) → t'.Reaches n a
  | 0, a, ha, hsame => (hsame 0 a rfl).trans ha
  | _ + 1, a, ⟨b, hb, hn⟩, hsame =>
    ⟨b, (hsame 0 a rfl).trans hb, hn.congr fun k c hc => hsame (k + 1) c ⟨b, hb, hc⟩⟩

/-! ### The height of a tree -/

namespace Consistent

theorem parent_lt_size (ht : t.Consistent) {id p : NodeId} (h : t.parent? id = some p) :
    p < t.cells.size :=
  lt_size_of_mem_children ((ht.mem_children_iff p id).mpr h)

theorem ne_of_parent (ht : t.Consistent) {id p : NodeId} (h : t.parent? id = some p) : p ≠ id := by
  rintro rfl
  obtain ⟨n, hn⟩ := ht.reaches p
  have hself : t.Reaches (n + 1) p := ⟨p, h, hn⟩
  have heq := hself.unique hn
  omega

/-- The nodes on a chain of parents are all different. -/
theorem exists_chain (ht : t.Consistent) : ∀ {n : Nat} {id : NodeId}, t.Reaches n id →
    id < t.cells.size → ∃ chain : List NodeId, chain.length = n + 1 ∧ chain.Nodup ∧
      ∀ i ∈ chain, i < t.cells.size ∧ ∃ m ≤ n, t.Reaches m i
  | 0, id, h, hlt => ⟨[id], rfl, by simp, by simpa using ⟨hlt, h⟩⟩
  | n + 1, id, h, hlt => by
    obtain ⟨p, hp, hn⟩ := h
    obtain ⟨chain, hlength, hnodup, hchain⟩ := ht.exists_chain hn (ht.parent_lt_size hp)
    refine ⟨id :: chain, by simp [hlength], List.nodup_cons.mpr ⟨fun hmem => ?_, hnodup⟩, ?_⟩
    · obtain ⟨-, m, hm, hreach⟩ := hchain id hmem
      have heq : m = n + 1 := hreach.unique ⟨p, hp, hn⟩
      omega
    · intro i hi
      rcases List.mem_cons.mp hi with rfl | hi
      · exact ⟨hlt, n + 1, Nat.le_refl _, p, hp, hn⟩
      · obtain ⟨hilt, m, hm, hreach⟩ := hchain i hi
        exact ⟨hilt, m, by omega, hreach⟩

/-- A tree is less high than it has cells. -/
theorem height_lt_size (ht : t.Consistent) {n : Nat} {id : NodeId} (h : t.Reaches n id)
    (hlt : id < t.cells.size) : n < t.cells.size := by
  obtain ⟨chain, hlength, hnodup, hchain⟩ := ht.exists_chain h hlt
  have hsub : chain ⊆ List.range t.cells.size := fun i hi => List.mem_range.mpr (hchain i hi).1
  have hle := hnodup.length_le_of_subset hsub
  rw [List.length_range] at hle
  omega

end Consistent

/-! ### The nodes above a node -/

theorem mem_ancestorsFrom_iff {a : NodeId} : ∀ (steps : Nat) (id : NodeId),
    a ∈ t.ancestorsFrom steps (some id) ↔ ∃ k < steps, t.Climbs k id a
  | 0, _ => by simp [ancestorsFrom]
  | steps + 1, id => by
    have hrest : a ∈ t.ancestorsFrom steps (t.parent? id) ↔ ∃ k < steps, t.Climbs (k + 1) id a := by
      cases hp : t.parent? id with
      | none => cases steps <;> simp [ancestorsFrom, Climbs, hp]
      | some p => simp [mem_ancestorsFrom_iff steps p, Climbs, hp]
    rw [ancestorsFrom, List.mem_cons, hrest]
    constructor
    · rintro (rfl | ⟨k, hk, hclimbs⟩)
      · exact ⟨0, Nat.zero_lt_succ _, rfl⟩
      · exact ⟨k + 1, Nat.succ_lt_succ hk, hclimbs⟩
    · rintro ⟨k, hk, hclimbs⟩
      cases k with
      | zero => exact .inl hclimbs.symm
      | succ k => exact .inr ⟨k, Nat.lt_of_succ_lt_succ hk, hclimbs⟩

/-- The nodes above a node are those that climbing from it leads to. -/
theorem Consistent.mem_ancestors_iff (ht : t.Consistent) {id a : NodeId} :
    a ∈ t.ancestors id ↔ ∃ k, t.Climbs (k + 1) id a := by
  unfold ancestors
  cases hp : t.parent? id with
  | none => cases t.cells.size <;> simp [ancestorsFrom, Climbs, hp]
  | some p =>
    simp only [mem_ancestorsFrom_iff, Climbs, hp, Option.some.injEq, exists_eq_left']
    refine ⟨fun ⟨k, _, h⟩ => ⟨k, h⟩, fun ⟨k, h⟩ => ⟨k, ?_, h⟩⟩
    obtain ⟨n, hn⟩ := ht.reaches a
    have hlt := ht.height_lt_size (h.reaches hn) (ht.parent_lt_size hp)
    omega

/-- Enough steps list all nodes above. -/
theorem ancestorsFrom_eq_of_reaches : ∀ {n k l : Nat} {id : NodeId}, t.Reaches n id → n < k → n < l →
    t.ancestorsFrom k (some id) = t.ancestorsFrom l (some id)
  | 0, k + 1, l + 1, id, h, _, _ => by
    have hp : t.parent? id = none := h
    rw [ancestorsFrom, ancestorsFrom, hp]
    cases k <;> cases l <;> rfl
  | n + 1, k + 1, l + 1, id, ⟨p, hp, hn⟩, hk, hl => by
    rw [ancestorsFrom, ancestorsFrom, hp,
      ancestorsFrom_eq_of_reaches hn (Nat.lt_of_succ_lt_succ hk) (Nat.lt_of_succ_lt_succ hl)]

/-- Above a node are its parent and the nodes above that. -/
theorem Consistent.ancestors_of_parent (ht : t.Consistent) {id p : NodeId}
    (h : t.parent? id = some p) : t.ancestors id = p :: t.ancestors p := by
  obtain ⟨n, hn⟩ := ht.reaches p
  have hlt := ht.height_lt_size hn (ht.parent_lt_size h)
  rw [ancestors, h]
  exact ancestorsFrom_eq_of_reaches hn hlt (Nat.lt_succ_of_lt hlt)

/-- A node is neither another one nor above it if no climb leads from there to it. -/
theorem Consistent.not_mem_ancestors_iff (ht : t.Consistent) {id a : NodeId} :
    a ∉ id :: t.ancestors id ↔ ∀ k, ¬ t.Climbs k id a := by
  rw [List.mem_cons, ht.mem_ancestors_iff]
  constructor
  · intro h k hk
    cases k with
    | zero => exact h (.inl hk.symm)
    | succ k => exact h (.inr ⟨k, hk⟩)
  · rintro h (rfl | ⟨k, hk⟩)
    · exact h 0 rfl
    · exact h (k + 1) hk

end Folio.Html.Tree
