import Folio.Proofs.PathTables

/-! # The short path of a target

Of all short paths that lead to one target, the alias graph exposes the smallest in the order of paths
(`AliasGraph.Exposes`).  The inverse table of a graph holds exactly these (`key?_eq_some_iff`), so the
exposed short path is determined by its target and its target by the short path. -/

namespace Folio

/-- The first entry of a list for each target, put under the targets that a table does not have. -/
theorem getElem?_foldl_insertIfNew (t : ContentPath) :
    ∀ (l : List (ContentPath × ContentPath)) (m : PathMap),
      (l.foldl (fun m e => m.insertIfNew e.2 e.1) m)[t]? =
        m[t]?.or ((l.find? fun e => e.2 = t).map Prod.fst)
  | [], m => by simp
  | e :: l, m => by
      rw [List.foldl_cons, getElem?_foldl_insertIfNew t l, Std.TreeMap.getElem?_insertIfNew]
      by_cases he : e.2 = t
      · subst he
        cases hm : m[e.2]? with
        | none => simp [Std.TreeMap.mem_iff_isSome_getElem?, hm]
        | some k => simp [Std.TreeMap.mem_iff_isSome_getElem?, hm]
      · simp [he]

/-- In a list that ascends in some order, what is found first is below all that could have been found. -/
theorem rel_of_find?_eq_some {α : Type} {R : α → α → Prop} (hrefl : ∀ a, R a a) {q : α → Bool} {e : α}
    {l : List α} (hl : l.Pairwise R) (hf : l.find? q = some e) {a : α} (ha : a ∈ l) (hq : q a = true) :
    R e a := by
  obtain ⟨-, before, after, rfl, hbefore⟩ := List.find?_eq_some_iff_append.mp hf
  obtain ⟨-, hafter, -⟩ := List.pairwise_append.mp hl
  rcases List.mem_append.mp ha with ha | ha
  · have := hbefore a ha
    simp [hq] at this
  · rcases List.mem_cons.mp ha with rfl | ha
    · exact hrefl a
    · exact (List.pairwise_cons.mp hafter).1 a ha

theorem smallestKeys_getElem? (expanded : PathMap) (t : ContentPath) :
    (smallestKeys expanded)[t]? = (expanded.toList.find? fun e => e.2 = t).map Prod.fst := by
  rw [smallestKeys, Std.TreeMap.foldl_eq_foldl_toList, getElem?_foldl_insertIfNew]
  simp

namespace AliasGraph

/-- The graph of aliases that are given as raw paths. -/
def ofRaw (aliases : List (String × String)) : AliasGraph :=
  ofExpanded <| Std.TreeMap.ofList <|
    aliases.map fun e => (ContentPath.ofString e.1, ContentPath.ofString e.2)

variable (g : AliasGraph)

/-- `g.Exposes target key`: of the short paths that lead to the target, `key` is the smallest. -/
def Exposes (target key : ContentPath) : Prop :=
  g.target? key = some target ∧ ∀ k, g.target? k = some target → (compare key k).isLE

/-- Whether some short path leads to a path. -/
def Reaches (target : ContentPath) : Prop := ∃ key, g.target? key = some target

variable {g} {t t' k k' : ContentPath}

theorem Exposes.unique (h : g.Exposes t k) (h' : g.Exposes t k') : k = k' := by
  have h1 := h.2 k' h'.1
  have h2 := h'.2 k h.1
  exact Std.LawfulEqCmp.eq_of_compare (Std.OrientedCmp.isLE_antisymm h1 h2)

theorem Exposes.target_unique (h : g.Exposes t k) (h' : g.Exposes t' k) : t = t' :=
  Option.some.inj (h.1.symm.trans h'.1)

theorem Exposes.reaches (h : g.Exposes t k) : g.Reaches t := ⟨k, h.1⟩

variable (g) (t k)

theorem key?_eq (t : ContentPath) :
    g.key? t = (g.expanded.toList.find? fun e => e.2 = t).map Prod.fst := by
  rw [key?, g.inverse_eq, smallestKeys_getElem?]

theorem key?_eq_none_iff : g.key? t = none ↔ ¬ g.Reaches t := by
  rw [key?_eq, Option.map_eq_none_iff, List.find?_eq_none]
  constructor
  · rintro h ⟨k, hk⟩
    exact h (k, t) ((mem_toList_iff _ _).mpr hk) (by simp)
  · intro h e he ht
    rw [mem_toList_iff, of_decide_eq_true ht] at he
    exact h ⟨e.1, he⟩

/-- The inverse table holds the short paths that the graph exposes, and nothing else. -/
theorem key?_eq_some_iff : g.key? t = some k ↔ g.Exposes t k := by
  have sound : ∀ {k}, g.key? t = some k → g.Exposes t k := by
    intro k h
    rw [key?_eq, Option.map_eq_some_iff] at h
    obtain ⟨e, he, rfl⟩ := h
    have ht : e.2 = t := by simpa using List.find?_some he
    have hm := (mem_toList_iff _ _).mp (List.mem_of_find?_eq_some he)
    rw [ht] at hm
    have hascending : g.expanded.toList.Pairwise fun a b => (compare a.1 b.1).isLE :=
      Std.TreeMap.ordered_keys_toList.imp fun h => by rw [h]; rfl
    refine ⟨hm, fun k' hk' => ?_⟩
    exact rel_of_find?_eq_some (fun _ => Std.ReflCmp.isLE_rfl) hascending he
      ((mem_toList_iff _ (k', t)).mpr hk') (by simp)
  refine ⟨sound, fun h => ?_⟩
  cases hk : g.key? t with
  | none => exact absurd h.reaches ((key?_eq_none_iff g t).mp hk)
  | some k' => rw [(sound hk).unique h]

theorem isTarget_iff : g.isTarget t = true ↔ g.Reaches t := by
  have h : g.isTarget t = (g.key? t).isSome := Std.TreeMap.contains_eq_isSome_getElem?
  rw [h]
  cases hk : g.key? t with
  | none => simpa using (key?_eq_none_iff g t).mp hk
  | some k => simpa using ((key?_eq_some_iff g t k).mp hk).reaches

/-- A target that is reached has an exposed short path. -/
theorem Reaches.exposes {g : AliasGraph} {t : ContentPath} (h : g.Reaches t) : ∃ k, g.Exposes t k := by
  cases hk : g.key? t with
  | none => exact absurd h ((key?_eq_none_iff g t).mp hk)
  | some k => exact ⟨k, (key?_eq_some_iff g t k).mp hk⟩

end AliasGraph

end Folio
