import Folio.Proofs.AliasSpelling
import Folio.Proofs.PathOrder
import Folio.Proofs.ShortPaths

/-! # The inverse of an alias table

The inverse of a table is made in one walk, in which the first key that leads to a target keeps it.  What the
walk has seen is a lower part of the table, so the key that stays is the smallest, byte by byte.  The inverse
is exact (`AliasGraph.ofExpanded_inverse`): it has an entry for every target, going there and back again
comes to the target, no key stands for two of them, and the order in which the table was filled does not
show. -/

namespace Folio.AliasGraph

variable {expanded : PathMap} {t k : ContentPath}

theorem exposes_ofExpanded_iff :
    (ofExpanded expanded).Exposes t k ↔
      expanded[k]? = some t ∧ ∀ k' : ContentPath, expanded[k']? = some t → k.bytes ≤ k'.bytes := by
  simp only [Exposes, target?, ofExpanded, ContentPath.isLE_iff]

/-- A table is filled by writing its entries in any order. -/
theorem getElem?_insertAll_of_perm {l : List (ContentPath × ContentPath)} (h : l.Perm expanded.toList)
    (p : ContentPath) : (insertAll ∅ l)[p]? = expanded[p]? := by
  have hmem : ∀ e, e ∈ l ↔ expanded[e.1]? = some e.2 := fun e => by rw [h.mem_iff, mem_toList_iff]
  cases hp : expanded[p]? with
  | none =>
    have hne : ∀ e ∈ l, e.1 ≠ p := by
      rintro e he rfl
      rw [hmem, hp] at he
      cases he
    exact (getElem?_foldl_insert_of_ne Prod.fst Prod.snd l ∅ hne).trans (by simp)
  | some q =>
    refine getElem?_foldl_insert_of_mem Prod.fst Prod.snd l ∅ ((hmem (p, q)).mpr hp) fun e he hk => ?_
    rw [hmem, hk, hp] at he
    exact (Option.some.inj he).symm

/-- **Inverse of a table**: the targets of the inverse are those of the table, and each of them has the
smallest of its keys there.  So the key of a target leads back to it, no two targets have one key, and tables
that are filled with the same entries in another order have the same inverse. -/
theorem ofExpanded_inverse (expanded : PathMap) :
    let g := ofExpanded expanded
    (∀ t, t ∈ g.inverse ↔ ∃ k : ContentPath, expanded[k]? = some t) ∧
    (∀ t k : ContentPath, g.inverse[t]? = some k ↔
      expanded[k]? = some t ∧ ∀ k' : ContentPath, expanded[k']? = some t → k.bytes ≤ k'.bytes) ∧
    (∀ t, t ∈ g.inverse ↔ (g.key? t).bind g.target? = some t) ∧
    (∀ t t' k, g.key? t = some k → g.key? t' = some k → t = t') ∧
    ∀ l : List (ContentPath × ContentPath), l.Perm expanded.toList →
      SameEntries (ofExpanded (insertAll ∅ l)) g := by
  intro g
  have hmem : ∀ t, t ∈ g.inverse ↔ g.Reaches t := fun t => by
    rw [← g.isTarget_iff, isTarget, Std.TreeMap.contains_iff_mem]
  have hback : ∀ t, g.Reaches t → (g.key? t).bind g.target? = some t := by
    intro t ht
    obtain ⟨k, hk⟩ := ht.exposes
    rw [(g.key?_eq_some_iff t k).mpr hk, Option.bind_some]
    exact hk.1
  refine ⟨hmem, ?_, ?_, ?_, ?_⟩
  · intro t k
    exact (g.key?_eq_some_iff t k).trans exposes_ofExpanded_iff
  · intro t
    rw [hmem]
    refine ⟨hback t, fun h => ?_⟩
    obtain ⟨k, -, hk⟩ := Option.bind_eq_some_iff.mp h
    exact ⟨k, hk⟩
  · intro t t' k h h'
    exact ((g.key?_eq_some_iff t k).mp h).target_unique ((g.key?_eq_some_iff t' k).mp h')
  · intro l hl
    exact sameEntries_of_target? (getElem?_insertAll_of_perm hl)

end Folio.AliasGraph
