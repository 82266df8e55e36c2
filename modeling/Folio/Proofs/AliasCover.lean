import Folio.Proofs.AliasEntries
import Folio.Proofs.TreeSlugs

/-! # Aliases cover their targets

An alias of a directory is expanded over the walk of that directory, while the documents of a tree come
from the walk of the whole.  Both meet below the target (`build_covers`), except for the second name of
the target's own readme: it is a document of the tree, but the walk that starts in the target leaves it
out. -/

namespace Folio

open ContentPath (IsName IsClean cleanNames)

/-! ### The table of one alias -/

namespace AliasGraph

variable {tree : ContentTree} {manifest : RawManifest} {rawKey rawTarget : String} {inside : Listing}

/-- The table of an alias of a directory: the short path itself over what the walk of the directory
gives. -/
theorem target?_build (single : manifest.toList = [(rawKey, rawTarget)])
    (held : tree.disk.dirAt? (tree.diskPath (.ofString rawTarget)) = some inside)
    (distinct : ContentPath.ofString rawKey ≠ ContentPath.ofString rawTarget) (p : ContentPath) :
    (build manifest tree []).1.target? p =
      if ContentPath.ofString rawKey = p then some (ContentPath.ofString rawTarget)
      else ((inside.entrySlugs []).foldl (fun m s => m.insert ((ContentPath.ofString rawKey).extend s)
        ((ContentPath.ofString rawTarget).extend s)) (∅ : PathMap))[p]? := by
  have hwalk : tree.slugsUnder (ContentPath.ofString rawTarget) = .ok (inside.entrySlugs []) := by
    rw [ContentTree.slugsUnder, held, ← Listing.slugs_eq]
  have hentries : entries manifest = [(.ofString rawKey, .ofString rawTarget)] := by
    simp [entries, declared, single, distinct]
  have hderived : derived tree [] (.ofString rawKey, .ofString rawTarget) =
      (inside.entrySlugs []).map fun s =>
        ((ContentPath.ofString rawKey).extend s, (ContentPath.ofString rawTarget).extend s) := by
    simp [derived, suffixes, keptSlugs, hwalk, isReserved]
  rw [target?, expanded_build, hentries, List.flatMap_singleton, hderived, insertAll,
    List.foldl_append, List.foldl_map, List.foldl_cons, List.foldl_nil, getElem?_insert_path]

variable {rest : List String}

theorem isName_of_mem_append_cleanNames {raw : String} (h : ∀ s ∈ rest, IsName s.toList) :
    ∀ s ∈ cleanNames raw ++ rest, IsName s.toList := by
  intro s hs
  rcases List.mem_append.mp hs with hs | hs
  · exact (ContentPath.isClean_of_mem_cleanNames hs).isName
  · exact h s hs

theorem extend_ofString (raw : String) (rest : List String) :
    (ContentPath.ofString raw).extend rest = .ofSegments (cleanNames raw ++ rest) := by
  rw [ContentPath.extend, ContentPath.segments_ofString]

/-- Behind the short path stand the slugs of the directory, and nothing else. -/
theorem target?_build_extend (named : inside.WellNamed)
    (single : manifest.toList = [(rawKey, rawTarget)])
    (held : tree.disk.dirAt? (tree.diskPath (.ofString rawTarget)) = some inside)
    (distinct : ContentPath.ofString rawKey ≠ ContentPath.ofString rawTarget)
    (hrest : rest ≠ []) (hnames : ∀ s ∈ rest, IsName s.toList) :
    (rest ∈ inside.entrySlugs [] →
      (build manifest tree []).1.target? ((ContentPath.ofString rawKey).extend rest) =
        some ((ContentPath.ofString rawTarget).extend rest)) ∧
    (rest ∉ inside.entrySlugs [] →
      (build manifest tree []).1.target? ((ContentPath.ofString rawKey).extend rest) = none) := by
  have hinj : ∀ {s : List String}, (∀ n ∈ s, IsName n.toList) →
      ((ContentPath.ofString rawKey).extend s = (ContentPath.ofString rawKey).extend rest ↔
        s = rest) := by
    intro s hs
    rw [extend_ofString, extend_ofString, ContentPath.ofSegments_inj
      (isName_of_mem_append_cleanNames hs) (isName_of_mem_append_cleanNames hnames)]
    simp
  have hkey : ContentPath.ofString rawKey ≠ (ContentPath.ofString rawKey).extend rest := by
    intro h
    exact hrest ((hinj (s := []) (by simp)).mp ((ContentPath.extend_nil_ofString rawKey).trans h)).symm
  rw [target?_build single held distinct, if_neg hkey]
  constructor
  · intro hmem
    refine getElem?_foldl_insert_of_mem (ContentPath.ofString rawKey).extend
      (ContentPath.ofString rawTarget).extend _ ∅ hmem fun s hs he => ?_
    rw [(hinj (named.isName_of_mem_entrySlugs hs)).mp he]
  · intro hmem
    refine (getElem?_foldl_insert_of_ne (ContentPath.ofString rawKey).extend
      (ContentPath.ofString rawTarget).extend _ ∅ fun s hs he => ?_).trans (by simp)
    exact hmem ((hinj (named.isName_of_mem_entrySlugs hs)).mp he ▸ hs)

/-! ### Documents below the target -/

/-- **Cover of an alias**: of the documents strictly below the target of a lone alias, each is reached by
the short path with the rest of the document behind it.  The one exception is the path `readme` directly
below a target that holds no directory of this name with anything in it: nothing leads there. -/
theorem build_covers (named : tree.disk.WellNamed) {documents : PathSet}
    (walked : tree.documents = .ok documents) (single : manifest.toList = [(rawKey, rawTarget)])
    (held : tree.disk.dirAt? (tree.diskPath (.ofString rawTarget)) = some inside)
    (distinct : ContentPath.ofString rawKey ≠ ContentPath.ofString rawTarget) {d : ContentPath}
    (hd : d ∈ documents) (below : d.startsWith (.ofString rawTarget) = true)
    (strict : d ≠ .ofString rawTarget) :
    let key := ContentPath.ofString rawKey
    let target := ContentPath.ofString rawTarget
    let graph := (build manifest tree []).1
    ∃ rest ≠ [], d.segments = target.segments ++ rest ∧
      (rest ≠ ["readme"] ∨ inside.HoldsReadmeDirectory → graph.target? (key.extend rest) = some d) ∧
      (rest = ["readme"] ∧ ¬ inside.HoldsReadmeDirectory →
        graph.target? (key.extend rest) = none) := by
  intro key target graph
  obtain ⟨content, hcontent, rfl⟩ := ContentTree.documents_eq_ok_iff.mp walked
  obtain ⟨slug, hslug, rfl⟩ := ContentTree.mem_ofList_documents.mp hd
  have hnamed : content.WellNamed := named.dirAt? hcontent
  have hclean : ∀ s ∈ cleanNames rawTarget, IsClean s.toList :=
    fun s hs => ContentPath.isClean_of_mem_cleanNames hs
  have hdown : content.descend? (cleanNames rawTarget) = some inside := by
    rw [← Disk.dirAt?_joinAll hcontent hclean, ← ContentPath.segments_ofString]
    exact held
  have hnames := hnamed.isName_of_mem_entrySlugs hslug
  rw [ContentPath.ofString_eq_ofSegments, ContentPath.startsWith_ofSegments_iff
    (fun s hs => (hclean s hs).isName) hnames] at below
  obtain ⟨rest, rfl⟩ := below
  have hrest : rest ≠ [] := by
    rintro rfl
    exact strict (by rw [List.append_nil, ContentPath.ofString_eq_ofSegments])
  have hrestnames : ∀ s ∈ rest, IsName s.toList := fun s hs => hnames s (List.mem_append_right _ hs)
  have hin : rest ∈ inside.entrySlugs [] ∨ rest = ["readme"] := by
    by_cases hpath : cleanNames rawTarget = []
    · obtain rfl : content = inside := by simpa [hpath, Listing.descend?] using hdown
      exact .inl (by simpa [hpath] using hslug)
    · have hcut := (hnamed.append_mem_entrySlugs_iff hpath hdown hrest).mp hslug
      exact hcut.2.imp_right And.left
  obtain ⟨hfound, hmissing⟩ := target?_build_extend (hnamed.descend? hdown) single held distinct
    hrest hrestnames
  refine ⟨rest, hrest, ?_, ?_, ?_⟩
  · rw [ContentPath.segments_ofSegments hnames, ContentPath.segments_ofString]
  · intro h
    have hmem : rest ∈ inside.entrySlugs [] := by
      rcases hin with hin | rfl
      · exact hin
      · exact Listing.readme_mem_entrySlugs_iff.mpr (h.resolve_left (by simp))
    rw [← extend_ofString]
    exact hfound hmem
  · rintro ⟨rfl, hnone⟩
    exact hmissing fun hmem => hnone (Listing.readme_mem_entrySlugs_iff.mp hmem)

/-! ### A handbook -/

/-- A handbook with a readme and a directory of guides. -/
def handbook : ContentTree :=
  ⟨⟨.dir "content" (.dir "handbook" (.dir "guides" (.file "one.md" (.text "One") .nil)
    (.file "readme.md" (.text "Handbook") .nil)) .nil) .nil, []⟩, ⟨"content"⟩⟩

/-- A short path for the handbook. -/
def handbookAlias : RawManifest := .ofList [("brainery", "handbook")]

/-- A guide of the handbook is reached by the short path. -/
theorem build_covers_handbook :
    handbook.disk.WellNamed ∧ handbookAlias.toList = [("brainery", "handbook")] ∧
    ContentPath.ofString "brainery" ≠ ContentPath.ofString "handbook" ∧
    (∃ inside, handbook.disk.dirAt? (handbook.diskPath (.ofString "handbook")) = some inside) ∧
    (∃ documents, handbook.documents = .ok documents ∧ ⟨"/handbook/guides/one"⟩ ∈ documents) ∧
    (build handbookAlias handbook []).1.target? ⟨"/brainery/guides/one"⟩ =
      some ⟨"/handbook/guides/one"⟩ := by
  have named : handbook.disk.WellNamed := by decide +kernel
  have single : handbookAlias.toList = [("brainery", "handbook")] := by decide +kernel
  have distinct : ContentPath.ofString "brainery" ≠ ContentPath.ofString "handbook" := by
    decide +kernel
  obtain ⟨inside, held⟩ : ∃ inside,
      handbook.disk.dirAt? (handbook.diskPath (.ofString "handbook")) = some inside :=
    Option.isSome_iff_exists.mp (by decide +kernel)
  obtain ⟨documents, walked, hd⟩ : ∃ documents, handbook.documents = .ok documents ∧
      ⟨"/handbook/guides/one"⟩ ∈ documents :=
    exists_ok_of_any handbook.documents (·.contains ⟨"/handbook/guides/one"⟩) (by decide +kernel)
  refine ⟨named, single, distinct, ⟨inside, held⟩, ⟨documents, walked, hd⟩, ?_⟩
  obtain ⟨rest, -, hsegs, hreached, -⟩ := build_covers named walked single held distinct hd
    (by decide +kernel) (by decide +kernel)
  have hrest : rest = ["guides", "one"] := by
    have h : ["handbook"] ++ ["guides", "one"] = ["handbook"] ++ rest := by
      rw [← show (ContentPath.ofString "handbook").segments = ["handbook"] by decide +kernel, ← hsegs]
      decide +kernel
    exact (List.append_cancel_left h).symm
  subst hrest
  exact hreached (.inl (by decide))

/-- The readme of the handbook has a name of its own among the documents, and the short path does not
lead there. -/
theorem build_leaves_readme :
    handbook.disk.WellNamed ∧ handbookAlias.toList = [("brainery", "handbook")] ∧
    (∃ inside, handbook.disk.dirAt? (handbook.diskPath (.ofString "handbook")) = some inside) ∧
    (∃ documents, handbook.documents = .ok documents ∧ ⟨"/handbook/readme"⟩ ∈ documents) ∧
    ContentPath.startsWith ⟨"/handbook/readme"⟩ (.ofString "handbook") = true ∧
    (build handbookAlias handbook []).1.target? ((ContentPath.ofString "brainery").extend ["readme"]) =
      none := by
  refine ⟨by decide +kernel, by decide +kernel, ?_, ?_, by decide +kernel, by decide +kernel⟩
  · exact Option.isSome_iff_exists.mp (by decide +kernel)
  · exact exists_ok_of_any handbook.documents (·.contains ⟨"/handbook/readme"⟩) (by decide +kernel)

end AliasGraph

end Folio
