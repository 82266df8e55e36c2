import Folio.Proofs.KnownRoutes

/-! # Which route shows a document

The route table is laid in three layers: documents under themselves, orphaned redirects, and exposed
short paths, each over the one before.  `shownContent_eq_some_iff` reads off what a route shows.  No
orphaned redirect leads to a document and two short paths are never exposed for one target, so every
document is shown under one route at most: its short path if it has one, else its own
(`shownContent_routes`). -/

namespace Folio

/-- `ShownOnlyUnder m content route`: a table shows the content under this route and no other. -/
def ShownOnlyUnder (m : PathMap) (content route : ContentPath) : Prop :=
  ∀ r : ContentPath, m[r]? = some content ↔ r = route

/-! ### The layers -/

section Layers

variable (documents : List ContentPath) (orphaned : PathMap) (g : AliasGraph)

/-- The lowest layer: the documents that a predicate keeps, each under itself. -/
theorem getElem?_foldl_insert_self (keep : ContentPath → Bool) (p : ContentPath) :
    ((documents.filter keep).foldl (fun m d => m.insert d d) (∅ : PathMap))[p]? =
      if p ∈ documents ∧ keep p = true then some p else none := by
  split
  · rename_i h
    exact getElem?_foldl_insert_of_mem id id _ ∅ (List.mem_filter.mpr h) fun b _ hb => hb
  · rename_i h
    have hne : ∀ a ∈ documents.filter keep, a ≠ p := by
      rintro a ha rfl
      exact h (List.mem_filter.mp ha)
    exact (getElem?_foldl_insert_of_ne id id _ ∅ hne).trans (by simp)

/-- The uppermost layer: an exposed short path shows its target. -/
theorem aliasLayer_of_exposes {t k : ContentPath} (base : PathMap) (h : g.Exposes t k) :
    (g.inverse.foldl (fun m target key => m.insert key target) base)[k]? = some t := by
  rw [Std.TreeMap.foldl_eq_foldl_toList]
  have hm : (t, k) ∈ g.inverse.toList := (mem_toList_iff _ _).mpr ((g.key?_eq_some_iff t k).mpr h)
  refine getElem?_foldl_insert_of_mem Prod.snd Prod.fst g.inverse.toList base hm fun e he hk => ?_
  have he : g.Exposes e.1 e.2 := (g.key?_eq_some_iff e.1 e.2).mp ((mem_toList_iff _ _).mp he)
  exact he.target_unique (hk ▸ h)

/-- Any other path shows what is below the uppermost layer. -/
theorem aliasLayer_of_not_exposes {p : ContentPath} (base : PathMap) (h : ∀ t, ¬ g.Exposes t p) :
    (g.inverse.foldl (fun m target key => m.insert key target) base)[p]? = base[p]? := by
  rw [Std.TreeMap.foldl_eq_foldl_toList]
  refine getElem?_foldl_insert_of_ne Prod.snd Prod.fst _ _ fun e he hk => h e.1 ?_
  exact (g.key?_eq_some_iff e.1 p).mp (hk ▸ (mem_toList_iff _ _).mp he)

/-- What a route shows: the target of an exposed short path; under any other route the target of an
orphaned redirect; and without one the document itself, if no short path leads to it. -/
theorem shownContent_eq_some_iff (r d : ContentPath) :
    (shownContent documents orphaned g)[r]? = some d ↔
      g.Exposes d r ∨ (∀ t, ¬ g.Exposes t r) ∧
        (orphaned[r]? = some d ∨ orphaned[r]? = none ∧ r = d ∧ d ∈ documents ∧ ¬ g.Reaches d) := by
  unfold shownContent
  by_cases hx : ∃ t, g.Exposes t r
  · obtain ⟨t, ht⟩ := hx
    rw [aliasLayer_of_exposes g _ ht, Option.some.injEq]
    constructor
    · rintro rfl
      exact .inl ht
    · rintro (hd | ⟨hn, -⟩)
      · exact ht.target_unique hd
      · exact absurd ht (hn t)
  · have hn : ∀ t, ¬ g.Exposes t r := fun t ht => hx ⟨t, ht⟩
    rw [aliasLayer_of_not_exposes g _ hn, overlay_getElem?, getElem?_foldl_insert_self]
    have hc : orphaned.contains r = orphaned[r]?.isSome := Std.TreeMap.contains_eq_isSome_getElem?
    cases ho : orphaned[r]? with
    | some q => simp [hn]
    | none =>
        simp only [hc, ho, ← g.isTarget_iff, Option.none_or, Option.isSome_none, Bool.false_or,
          Bool.not_eq_true', hn d, false_or, reduceCtorEq, true_and]
        split
        · rename_i h
          constructor
          · rintro ⟨⟩
            exact ⟨hn, rfl, h.1, by simp [h.2]⟩
          · rintro ⟨-, rfl, -⟩
            rfl
        · rename_i h
          constructor
          · rintro ⟨⟩
          · rintro ⟨-, rfl, hd, ht⟩
            exact absurd ⟨hd, by simpa using ht⟩ h

end Layers

/-! ### Documents and their routes -/

section Documents

variable (documents : List ContentPath) (g : AliasGraph) (manifest : RawManifest)

/-- The orphaned redirects of a manifest, judged by the documents and aliases of a site. -/
def orphanedOf : PathMap :=
  KnownRoutes.orphaned ⟨g, Std.TreeSet.ofList documents⟩ manifest

variable {documents} {d : ContentPath}

theorem orphanedOf_ne (hd : d ∈ documents) (r : ContentPath) :
    (orphanedOf documents g manifest)[r]? ≠ some d := by
  intro h
  have hn := KnownRoutes.orphaned_ends manifest r d h
  exact absurd ((KnownRoutes.isDocument_ofList g documents d).mpr hd) (Bool.eq_false_iff.mp hn)

/-- The routes of a document: its short path, or itself where nothing covers it. -/
theorem shownContent_document_iff (hd : d ∈ documents) (r : ContentPath) :
    (shownContent documents (orphanedOf documents g manifest) g)[r]? = some d ↔
      g.Exposes d r ∨ r = d ∧ ¬ g.Reaches d ∧ d ∉ orphanedOf documents g manifest ∧
        ∀ t, ¬ g.Exposes t d := by
  rw [shownContent_eq_some_iff, Std.TreeMap.mem_iff_isSome_getElem?]
  have ho := orphanedOf_ne g manifest hd r
  constructor
  · rintro (h | ⟨hn, h | ⟨hr, rfl, -, ht⟩⟩)
    · exact .inl h
    · exact absurd h ho
    · exact .inr ⟨rfl, ht, by simp [hr], hn⟩
  · rintro (h | ⟨rfl, ht, hr, hn⟩)
    · exact .inl h
    · exact .inr ⟨hn, .inr ⟨by simpa using hr, rfl, hd, ht⟩⟩

end Documents

/-- A document that aliases lead to is shown under its smallest short path only.  Any other document
is shown under itself only, unless an orphaned redirect starts there or the path is itself the smallest
short path of something; then it is shown nowhere.  Smallest short paths show their targets whatever the
documents and the orphaned redirects are. -/
theorem shownContent_routes (documents : List ContentPath) (g : AliasGraph) (manifest : RawManifest) :
    let orphaned := KnownRoutes.orphaned ⟨g, Std.TreeSet.ofList documents⟩ manifest
    let shown := shownContent documents orphaned g
    (∀ d ∈ documents, g.Reaches d → ∃ k, g.Exposes d k ∧ ShownOnlyUnder shown d k) ∧
    (∀ d ∈ documents, ¬ g.Reaches d → d ∉ orphaned → (∀ t, ¬ g.Exposes t d) →
      ShownOnlyUnder shown d d) ∧
    (∀ d ∈ documents, ¬ g.Reaches d → (d ∈ orphaned ∨ ∃ t, g.Exposes t d) →
      ∀ r : ContentPath, shown[r]? ≠ some d) ∧
    ∀ (documents' : List ContentPath) (orphaned' : PathMap) (t k : ContentPath), g.Exposes t k →
      (shownContent documents' orphaned' g)[k]? = some t := by
  refine ⟨?_, ?_, ?_, ?_⟩
  · intro d hd ht
    obtain ⟨k, hk⟩ := ht.exposes
    refine ⟨k, hk, fun r => (shownContent_document_iff g manifest hd r).trans ⟨?_, ?_⟩⟩
    · rintro (h | ⟨-, h, -⟩)
      · exact h.unique hk
      · exact absurd ht h
    · rintro rfl
      exact .inl hk
  · intro d hd ht ho hx r
    refine (shownContent_document_iff g manifest hd r).trans ⟨?_, ?_⟩
    · rintro (h | ⟨rfl, -⟩)
      · exact absurd h.reaches ht
      · rfl
    · rintro rfl
      exact .inr ⟨rfl, ht, ho, hx⟩
  · intro d hd ht hc r hr
    rcases (shownContent_document_iff g manifest hd r).mp hr with h | ⟨-, -, ho, hx⟩
    · exact ht h.reaches
    · rcases hc with hc | ⟨t, h⟩
      · exact ho hc
      · exact hx t h
  · intro documents' orphaned' t k h
    exact (shownContent_eq_some_iff documents' orphaned' g k t).mpr (.inl h)

end Folio
