import Folio.Proofs.ShortPaths

/-! # What redirects lead to

A redirect of a manifest is served only if it ends at a document or at an exposed short path
(`KnownRoutes.IsEnd`), and it is reported as orphaned only if its target is no document.  A redirect that
a document declares ends at that document. -/

namespace Folio

namespace KnownRoutes

variable (f : KnownRoutes)

/-- Paths that show content of their own: documents and exposed short paths. -/
def IsEnd (p : ContentPath) : Prop := f.isDocument p = true ∨ ∃ t, f.aliases.Exposes t p

theorem isDocument_ofList (g : AliasGraph) (documents : List ContentPath) (p : ContentPath) :
    isDocument ⟨g, Std.TreeSet.ofList documents⟩ p = true ↔ p ∈ documents := by
  simp [isDocument, Std.TreeSet.contains_ofList]

variable {f} {p q : ContentPath}

theorem isEnd_of_resolve? (h : f.resolve? p = some q) : f.IsEnd q := by
  simp only [resolve?] at h
  split at h
  · rename_i hd
    exact .inl (Option.some.inj h ▸ hd)
  · split at h
    · rename_i hd
      exact .inl (Option.some.inj h ▸ hd)
    · exact .inr ⟨p, (f.aliases.key?_eq_some_iff p q).mp h⟩

theorem isDocument_of_resolve?_eq_none (h : f.resolve? p = none) : f.isDocument p = false := by
  simp only [resolve?] at h
  split at h
  · cases h
  · rename_i hd
    exact Bool.eq_false_iff.mpr hd

/-- A redirect that is served ends where content is shown. -/
theorem servable_ends (manifest : RawManifest) : EndsIn f.IsEnd (f.servable manifest) := by
  refine List.foldlRecOn _ _ endsIn_empty fun m hm e _ => ?_
  split
  · rename_i ht
    exact hm.insert e.1 (isEnd_of_resolve? ht)
  · exact hm

/-- No orphaned redirect leads to a document. -/
theorem orphaned_ends (manifest : RawManifest) :
    EndsIn (fun q => f.isDocument q = false) (f.orphaned manifest) := by
  refine List.foldlRecOn _ _ endsIn_empty fun m hm e _ => ?_
  split
  · rename_i hc
    have hn := (Bool.and_eq_true_iff.mp hc).1
    exact hm.insert e.1 (isDocument_of_resolve?_eq_none (Option.isNone_iff_eq_none.mp hn))
  · exact hm

end KnownRoutes

/-! ### Declared redirects -/

section Declared

variable {P : ContentPath → Prop}

/-- A claim adds at most a redirect to the document that makes it. -/
theorem claimAlias_ends {route : ContentPath} (hr : P route) {state : PathMap × List Diagnostic}
    (hs : EndsIn P state.1) (raw : String) : EndsIn P (claimAlias route state raw).1 := by
  simp only [claimAlias]
  split
  · exact hs
  · split
    · exact hs
    · exact hs.insert _ hr

/-- A declared redirect ends at a document that declares. -/
theorem declaredRedirects_ends {documents : List (ContentPath × List String)}
    (hd : ∀ d ∈ documents, P d.1) : EndsIn P (declaredRedirects documents).1 := by
  refine List.foldlRecOn (motive := fun s : PathMap × List Diagnostic => EndsIn P s.1) _ _
    endsIn_empty fun s hs d hm => ?_
  have hr : P d.1 := hd d (List.mem_mergeSort.mp hm)
  exact List.foldlRecOn (motive := fun s : PathMap × List Diagnostic => EndsIn P s.1) _ _ hs
    fun s hs raw _ => claimAlias_ends hr hs raw

end Declared

end Folio
