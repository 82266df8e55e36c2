import Folio.Routing.Redirect

/-! # Lookups in tables of paths

What a table holds after entries have been written to it one after the other.  A fold of insertions
leaves a path alone that it does not write (`getElem?_foldl_insert_of_ne`) and gives a path its value
when all its writes agree (`getElem?_foldl_insert_of_mem`), in whatever order they come
(`getElem?_foldl_insert_congr`); the paths of a table are those that some step writes (`mem_foldl_iff`).
An overlay answers from the upper layer first (`overlay_getElem?`). -/

namespace Folio

theorem getElem?_insert_path (m : PathMap) (key value p : ContentPath) :
    (m.insert key value)[p]? = if key = p then some value else m[p]? := by
  simp [Std.TreeMap.getElem?_insert]

section Folds

variable {α : Type} (key value : α → ContentPath)

/-- Insertions under other paths do not show. -/
theorem getElem?_foldl_insert_of_ne {p : ContentPath} :
    ∀ (l : List α) (m : PathMap), (∀ a ∈ l, key a ≠ p) →
      (l.foldl (fun m a => m.insert (key a) (value a)) m)[p]? = m[p]?
  | [], _, _ => rfl
  | a :: l, m, h => by
      have hl := getElem?_foldl_insert_of_ne l (m.insert (key a) (value a))
        (fun b hb => h b (List.mem_cons_of_mem a hb))
      rw [List.foldl_cons, hl, getElem?_insert_path, if_neg (h a List.mem_cons_self)]

/-- A path that is written shows its value if no write under it says anything else. -/
theorem getElem?_foldl_insert_of_mem {a : α} :
    ∀ (l : List α) (m : PathMap), a ∈ l → (∀ b ∈ l, key b = key a → value b = value a) →
      (l.foldl (fun m b => m.insert (key b) (value b)) m)[key a]? = some (value a)
  | b :: l, m, ha, h => by
      rw [List.foldl_cons]
      by_cases hl : ∃ c ∈ l, key c = key a
      · obtain ⟨c, hc, hk⟩ := hl
        have hv := h c (List.mem_cons_of_mem b hc) hk
        have := getElem?_foldl_insert_of_mem l (m.insert (key b) (value b)) hc fun d hd hdc => by
          rw [h d (List.mem_cons_of_mem b hd) (hdc.trans hk), hv]
        rwa [hk, hv] at this
      · have hne : ∀ c ∈ l, key c ≠ key a := fun c hc hk => hl ⟨c, hc, hk⟩
        rcases List.mem_cons.mp ha with rfl | ha
        · rw [getElem?_foldl_insert_of_ne key value l _ hne, getElem?_insert_path, if_pos rfl]
        · exact absurd rfl (hne a ha)

/-- What a table shows after insertions was there before or has been written. -/
theorem mem_or_of_getElem?_foldl_insert {p q : ContentPath} :
    ∀ (l : List α) (m : PathMap),
      (l.foldl (fun m a => m.insert (key a) (value a)) m)[p]? = some q →
        (∃ a ∈ l, key a = p ∧ value a = q) ∨ m[p]? = some q
  | [], _, h => .inr h
  | a :: l, m, h => by
      rcases mem_or_of_getElem?_foldl_insert l _ h with ⟨b, hb, hp⟩ | h
      · exact .inl ⟨b, List.mem_cons_of_mem a hb, hp⟩
      · rw [getElem?_insert_path] at h
        split at h
        · rename_i hk
          exact .inl ⟨a, List.mem_cons_self, hk, Option.some.inj h⟩
        · exact .inr h

/-- The order of insertions does not show under a path that is always written the same value. -/
theorem getElem?_foldl_insert_congr {l l' : List α} (same : ∀ a, a ∈ l ↔ a ∈ l') {p : ContentPath}
    (agree : ∀ a ∈ l, ∀ b ∈ l, key a = p → key b = p → value a = value b) (m : PathMap) :
    (l.foldl (fun m a => m.insert (key a) (value a)) m)[p]? =
      (l'.foldl (fun m a => m.insert (key a) (value a)) m)[p]? := by
  by_cases h : ∃ a ∈ l, key a = p
  · obtain ⟨a, ha, rfl⟩ := h
    rw [getElem?_foldl_insert_of_mem key value l m ha fun b hb hk => agree b hb a ha hk rfl,
      getElem?_foldl_insert_of_mem key value l' m ((same a).mp ha) fun b hb hk =>
        agree b ((same b).mpr hb) a ha hk rfl]
  · have hne : ∀ a ∈ l, key a ≠ p := fun a ha hk => h ⟨a, ha, hk⟩
    rw [getElem?_foldl_insert_of_ne key value l m hne,
      getElem?_foldl_insert_of_ne key value l' m fun a ha => hne a ((same a).mpr ha)]

end Folds

/-- The paths of a table that a loop over a list writes to: those it had, and one for each step that
writes. -/
theorem mem_foldl_iff {α : Type} {step : PathMap → α → PathMap} (Writes : α → ContentPath → Prop)
    (hstep : ∀ m a p, p ∈ step m a ↔ Writes a p ∨ p ∈ m) {p : ContentPath} {l : List α} {m : PathMap} :
    p ∈ l.foldl step m ↔ (∃ a ∈ l, Writes a p) ∨ p ∈ m := by
  induction l generalizing m with
  | nil => simp
  | cons a l ih =>
    rw [List.foldl_cons, ih, hstep]
    simp only [List.mem_cons, exists_eq_or_imp, or_assoc, or_left_comm]

/-! ### Where tables lead -/

/-- Every entry of a table leads to a path that satisfies `P`. -/
def EndsIn (P : ContentPath → Prop) (m : PathMap) : Prop := ∀ p q : ContentPath, m[p]? = some q → P q

section Ends

variable {P : ContentPath → Prop}

theorem endsIn_empty : EndsIn P ∅ := by
  intro p q h
  simp at h

theorem EndsIn.insert {m : PathMap} (hm : EndsIn P m) (key : ContentPath) {target : ContentPath}
    (ht : P target) : EndsIn P (m.insert key target) := by
  intro p q h
  rw [getElem?_insert_path] at h
  split at h
  · exact Option.some.inj h ▸ ht
  · exact hm p q h

end Ends

/-! ### Layers -/

/-- The entries of a table, as a list. -/
theorem mem_toList_iff (m : PathMap) (e : ContentPath × ContentPath) :
    e ∈ m.toList ↔ m[e.1]? = some e.2 := Std.TreeMap.mem_toList_iff_getElem?_eq_some

/-- The upper layer is asked first. -/
theorem overlay_getElem? (base layer : PathMap) (p : ContentPath) :
    (overlay base layer)[p]? = layer[p]?.or base[p]? := by
  rw [overlay, Std.TreeMap.foldl_eq_foldl_toList]
  cases h : layer[p]? with
  | none =>
      rw [getElem?_foldl_insert_of_ne Prod.fst Prod.snd, Option.none_or]
      intro e he hp
      rw [mem_toList_iff, hp, h] at he
      cases he
  | some v =>
      have hm : (p, v) ∈ layer.toList := (mem_toList_iff layer (p, v)).mpr h
      have := getElem?_foldl_insert_of_mem Prod.fst Prod.snd layer.toList base hm fun e he hp => by
        rw [mem_toList_iff, hp, h] at he
        exact (Option.some.inj he).symm
      simpa using this

end Folio
