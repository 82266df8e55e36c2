import Folio.Proofs.AliasCover
import Folio.Proofs.LookupOrder

/-! # Documents as targets of aliases

The walk of a content tree registers a document for a file whatever letters its extension is written in, and
`readme` for a readme in any letters, but walking below a document finds its file only where these are
small letters.  So an alias can point at every document of a tree that is spelled in small letters, and at
every directory (`ContentTree.slugsUnder_documents`); at other documents only if there is a directory or a
file of the same name in small letters as well. -/

namespace Folio

open ContentPath (IsName)
open DiskPath (IsStep)

/-! ### The files of slugs -/

/-- The walk registers a document of this name for a file: its stem, or `readme` for a readme. -/
def IsFileOf (file name : String) : Prop :=
  ∃ stem, documentStem? file = some stem ∧ (stem = name ∨ name = "readme" ∧ isStem stem "readme" = true)

namespace Listing

variable {l content : Listing} {slug : Slug}

theorem exists_readme_of_directoryKind (h : l.directoryKind = .readme) :
    ∃ file, (file, false) ∈ l.visible ∧ IsFileOf file "readme" := by
  unfold directoryKind DirectoryKind.ofEntries at h
  dsimp only at h
  split at h
  · rename_i hany
    obtain ⟨⟨file, isDirectory⟩, hmem, hreadme⟩ := List.any_eq_true.mp hany
    obtain ⟨rfl, hreadme⟩ : isDirectory = false ∧ isIndexFile "readme" file = true := by simpa using hreadme
    refine ⟨file, hmem, ?_⟩
    unfold isIndexFile at hreadme
    split at hreadme
    · rename_i stem hstem
      exact ⟨stem, hstem, .inr ⟨rfl, hreadme⟩⟩
    · cases hreadme
  · split at h
    · cases h
    · split at h <;> cases h

/-- What the walk registers is a directory or has a file. -/
theorem WellNamed.of_mem_entrySlugs (hl : l.WellNamed) (h : slug ∈ l.entrySlugs []) :
    (l.descend? slug).isSome ∨
      ∃ dirs name file, slug = dirs ++ [name] ∧ dirs ++ [file] ∈ l.visibleFiles [] ∧ IsFileOf file name := by
  induction slug generalizing l with
  | nil => exact absurd h (nil_notMem_entrySlugs l)
  | cons n rest ih =>
    rcases mem_entrySlugs_iff.mp h with ⟨file, hfile, h⟩ | ⟨m, inside, hdir, hshown, h⟩
    · obtain ⟨stem, hstem, -, he⟩ := mem_fileSlugs_iff.mp h
      have hmem : [file] ∈ l.visibleFiles [] := mem_visibleFiles_iff.mpr (.inl ⟨file, hfile, rfl⟩)
      exact .inr ⟨[], stem, file, he, hmem, stem, hstem, .inl rfl⟩
    · have hfind := hl.find?_of_hasDir hdir
      have hbelow : ∀ {path}, path ∈ inside.visibleFiles [] → m :: path ∈ l.visibleFiles [] := fun hpath =>
        mem_visibleFiles_iff.mpr (.inr ⟨m, inside, hdir, hshown, _, hpath, rfl⟩)
      rcases h with h | ⟨rest', hmem, he⟩
      · rcases DirectoryKind.mem_ownSlugs_iff.mp h with ⟨he, -⟩ | ⟨he, hkind⟩
        · refine .inl ?_
          rw [he, Listing.descend?, hfind]
          rfl
        · obtain ⟨file, hfile, hreadme⟩ := exists_readme_of_directoryKind hkind
          have hmem : [file] ∈ inside.visibleFiles [] := mem_visibleFiles_iff.mpr (.inl ⟨file, hfile, rfl⟩)
          exact .inr ⟨[m], "readme", file, he, hbelow hmem, hreadme⟩
      · obtain ⟨rfl, rfl⟩ := List.cons.inj he
        rcases ih (hl.of_hasDir hdir) hmem with hsome | ⟨dirs, name, file, rfl, hfile, hof⟩
        · refine .inl ?_
          rw [Listing.descend?, hfind]
          exact hsome
        · exact .inr ⟨m :: dirs, name, file, rfl, hbelow hfile, hof⟩

/-- The markdown files of a tree are spelled in small letters: their extensions, and the stems of readmes. -/
def SpelledSmall (l : Listing) : Prop :=
  ∀ names ∈ l.visibleFiles [], ∀ stem ∈ documentStem? (names.getLastD ""),
    (∃ ext ∈ markdownExtensions, names.getLastD "" = stem ++ "." ++ ext) ∧
      (isStem stem "readme" = true → stem = "readme")

instance (l : Listing) : Decidable l.SpelledSmall :=
  inferInstanceAs (Decidable (∀ names ∈ l.visibleFiles [], ∀ stem ∈ documentStem? (names.getLastD ""),
    (∃ ext ∈ markdownExtensions, names.getLastD "" = stem ++ "." ++ ext) ∧
      (isStem stem "readme" = true → stem = "readme")))

/-- A file that is spelled in small letters carries the name of its document. -/
theorem SpelledSmall.eq_document (h : l.SpelledSmall) {dirs : List String} {name file : String}
    (hmem : dirs ++ [file] ∈ l.visibleFiles []) (hof : IsFileOf file name) :
    ∃ ext ∈ markdownExtensions, file = name ++ "." ++ ext := by
  obtain ⟨stem, hstem, hname⟩ := hof
  have hsmall := h _ hmem stem
  rw [List.getLastD_concat] at hsmall
  obtain ⟨hext, hreadme⟩ := hsmall hstem
  rcases hname with rfl | ⟨rfl, hindex⟩
  · exact hext
  · rwa [hreadme hindex] at hext

end Listing

/-! ### Walks below documents -/

namespace ContentTree

variable {t : ContentTree} {content : Listing} {dirs : List String} {name : String}

/-- There is something to walk below a path exactly if it is a directory that can be read, or the name of a
document and no closed directory. -/
theorem exists_slugsUnder_iff (named : content.WellNamed) (h : t.disk.dirAt? t.root = some content)
    (hnames : ∀ s ∈ dirs ++ [name], IsName s.toList ∧ isHidden s = false) :
    (∃ slugs, t.slugsUnder (.ofSegments (dirs ++ [name])) = .ok slugs) ↔
      (t.disk.dirAt? (t.diskPath (.ofSegments (dirs ++ [name])))).isSome ∨
        t.disk.isClosed (t.diskPath (.ofSegments (dirs ++ [name]))) = false ∧
          ∃ ext ∈ markdownExtensions, dirs ++ [name ++ "." ++ ext] ∈ content.visibleFiles [] := by
  have hsteps : ∀ s ∈ dirs ++ [name], IsStep s.toList := fun s hs =>
    isStep_of_isHidden_eq_false (hnames s hs).1 (hnames s hs).2
  have hroot : (ContentPath.ofSegments (dirs ++ [name])).isRoot = false := by
    rw [← Bool.not_eq_true, ContentPath.isRoot_ofSegments fun s hs => (hnames s hs).1]
    simp
  have hfile := fileOf?_ofSegments h hsteps
  have hnone := named.document?_eq_none_iff (hnames name (by simp)).1 fun s hs => (hnames s hs).2
  have hdown : t.disk.dirAt? (t.diskPath (.ofSegments (dirs ++ [name]))) =
      content.descend? (dirs ++ [name]) := by
    rw [diskPath_ofSegments fun s hs => (hnames s hs).1, Disk.dirAt?_joinAll_of_steps h hsteps]
  unfold slugsUnder
  rw [hroot, hdown]
  rw [Listing.found?, List.getLast?_concat, List.dropLast_concat, Option.bind_some] at hfile
  cases hinside : content.descend? (dirs ++ [name]) with
  | some inside => simp
  | none =>
    rw [hinside] at hfile
    cases hclosed : t.disk.isClosed (t.diskPath (.ofSegments (dirs ++ [name]))) with
    | true => simp
    | false =>
      cases hdocument : content.document? dirs name with
      | none =>
        rw [hdocument] at hfile
        have hmissing : t.fileOf? (.ofSegments (dirs ++ [name])) = none := hfile
        simpa [hmissing] using hnone.mp hdocument
      | some found =>
        rw [hdocument] at hfile
        obtain ⟨f, hf, -⟩ := hfile
        have hsome : ∃ ext ∈ markdownExtensions, dirs ++ [name ++ "." ++ ext] ∈ content.visibleFiles [] := by
          by_contra hno
          rw [hnone.mpr fun ext hext hmem => hno ⟨ext, hext, hmem⟩] at hdocument
          cases hdocument
        simpa [hf] using hsome

end ContentTree

/-! ### Reports about aliases -/

namespace AliasGraph

variable {tree : ContentTree} {reserved : List String} {manifest : RawManifest} {key target : ContentPath}

/-- What there is to report about one alias. -/
def reports (tree : ContentTree) (e : ContentPath × ContentPath) : List Diagnostic :=
  if e.1 = e.2 then [selfReference e.1]
  else
    match tree.slugsUnder e.2 with
    | .ok _ => []
    | .error cause => [missingTarget e.1 e.2 cause]

theorem expandOne_snd (state : PathMap × List Diagnostic) (e : ContentPath × ContentPath) :
    (expandOne tree reserved state e).2 = state.2 ++ reports tree e := by
  obtain ⟨key, target⟩ := e
  unfold expandOne reports
  dsimp only
  split
  · rfl
  · cases tree.slugsUnder target with
    | ok slugs => exact (List.append_nil _).symm
    | error cause => rfl

/-- The reports of a manifest are those of its aliases, in their order. -/
theorem build_snd : (build manifest tree reserved).2 = (declared manifest).flatMap (reports tree) := by
  have hrun : ∀ (l : List (ContentPath × ContentPath)) (state : PathMap × List Diagnostic),
      (l.foldl (expandOne tree reserved) state).2 = state.2 ++ l.flatMap (reports tree) := by
    intro l
    induction l with
    | nil => simp
    | cons e l ih =>
      intro state
      rw [List.foldl_cons, ih, expandOne_snd, List.flatMap_cons, List.append_assoc]
  exact hrun (declared manifest) (∅, [])

/-- The target of an alias is reported as missing exactly if there is nothing to walk below it. -/
theorem exists_missing_target_iff (h : (key, target) ∈ declared manifest) (hne : key ≠ target) :
    (∃ d ∈ (build manifest tree reserved).2, d.code = "alias.missing-target" ∧ d.path = some key.text ∧
        d.context = some target.text) ↔
      ¬ ∃ slugs, tree.slugsUnder target = .ok slugs := by
  rw [build_snd]
  constructor
  · rintro ⟨d, hd, hcode, hpath, hcontext⟩ ⟨slugs, hok⟩
    obtain ⟨e, -, hd⟩ := List.mem_flatMap.mp hd
    unfold reports at hd
    split at hd
    · have hself : (selfReference e.1).code = "alias.self-reference" := rfl
      rw [List.mem_singleton.mp hd, hself] at hcode
      exact absurd hcode (by decide)
    · split at hd
      · cases hd
      · rename_i cause herror
        rw [List.mem_singleton.mp hd] at hcontext
        obtain ⟨text⟩ := target
        obtain ⟨key', ⟨text'⟩⟩ := e
        obtain rfl : text' = text := Option.some.inj hcontext
        rw [hok] at herror
        cases herror
  · intro hnone
    cases hwalk : tree.slugsUnder target with
    | ok slugs => exact absurd ⟨slugs, hwalk⟩ hnone
    | error cause =>
      refine ⟨missingTarget key target cause, List.mem_flatMap.mpr ⟨_, h, ?_⟩, rfl, rfl, rfl⟩
      simp [reports, hne, hwalk]

end AliasGraph

namespace ContentTree

variable {tree : ContentTree} {documents : PathSet}

/-- **Documents as targets**: there is something to walk below a document exactly if it is a directory or the
name of a file with its extension in small letters, a closed directory apart.  In a tree that is spelled in
small letters this is so for every document that is no closed directory and every directory, and the target of
an alias is reported as missing exactly if there is nothing to walk below it. -/
theorem slugsUnder_documents (named : tree.disk.WellNamed) (walked : tree.documents = .ok documents) :
    ∃ content, tree.disk.dirAt? tree.root = some content ∧
      (∀ d ∈ documents, ∃ dirs name, ContentPath.ofSegments (dirs ++ [name]) = d ∧
        ((∃ slugs, tree.slugsUnder d = .ok slugs) ↔
          (tree.disk.dirAt? (tree.diskPath d)).isSome ∨
            tree.disk.isClosed (tree.diskPath d) = false ∧
              ∃ ext ∈ markdownExtensions, dirs ++ [name ++ "." ++ ext] ∈ content.visibleFiles [])) ∧
      (content.SpelledSmall → ∀ d, d ∈ documents ∧ tree.disk.isClosed (tree.diskPath d) = false ∨
          (tree.disk.dirAt? (tree.diskPath d)).isSome →
        ∃ slugs, tree.slugsUnder d = .ok slugs) ∧
      ∀ manifest reserved key target, (key, target) ∈ AliasGraph.declared manifest → key ≠ target →
        ((∃ d ∈ (AliasGraph.build manifest tree reserved).2, d.code = "alias.missing-target" ∧
            d.path = some key.text ∧ d.context = some target.text) ↔
          ¬ ∃ slugs, tree.slugsUnder target = .ok slugs) := by
  obtain ⟨content, hcontent, rfl⟩ := documents_eq_ok_iff.mp walked
  have named' := named.dirAt? hcontent
  have hdirectory : ∀ d, (tree.disk.dirAt? (tree.diskPath d)).isSome →
      ∃ slugs, tree.slugsUnder d = .ok slugs := by
    intro d hd
    obtain ⟨inside, hinside⟩ := Option.isSome_iff_exists.mp hd
    refine ⟨inside.slugs, ?_⟩
    rw [slugsUnder, hinside]
  refine ⟨content, hcontent, fun d hd => ?_, fun small d hd => ?_, fun _ _ _ _ h hne =>
    AliasGraph.exists_missing_target_iff h hne⟩
  · obtain ⟨slug, hslug, rfl⟩ := mem_ofList_documents.mp hd
    have hnames := named'.isShown_of_mem_entrySlugs hslug
    obtain rfl | ⟨dirs, name, rfl⟩ := slug.eq_nil_or_concat
    · exact absurd hslug (Listing.nil_notMem_entrySlugs content)
    · rw [List.concat_eq_append] at hnames ⊢
      exact ⟨dirs, name, rfl, exists_slugsUnder_iff named' hcontent hnames⟩
  · rcases hd with ⟨hd, hopen⟩ | hd
    · obtain ⟨slug, hslug, rfl⟩ := mem_ofList_documents.mp hd
      have hnames := named'.isShown_of_mem_entrySlugs hslug
      rcases named'.of_mem_entrySlugs hslug with hdown | ⟨dirs, name, file, rfl, hmem, hof⟩
      · refine hdirectory _ ?_
        rwa [diskPath_ofSegments fun s hs => (hnames s hs).1, Disk.dirAt?_joinAll_of_steps hcontent
          fun s hs => isStep_of_isHidden_eq_false (hnames s hs).1 (hnames s hs).2]
      · obtain ⟨ext, hext, rfl⟩ := small.eq_document hmem hof
        exact (exists_slugsUnder_iff named' hcontent hnames).mpr (.inr ⟨hopen, ext, hext, hmem⟩)
    · exact hdirectory d hd

/-- A short path for the readme of a handbook. -/
def readmeAlias : RawManifest := .ofList [("start", "handbook/readme")]

/-- All documents of the handbook can be walked, and the short path for its readme is not reported. -/
theorem slugsUnder_documents_handbook :
    AliasGraph.handbook.disk.WellNamed ∧
    ∃ documents, AliasGraph.handbook.documents = .ok documents ∧
      documents.toList =
        [⟨"/handbook"⟩, ⟨"/handbook/guides"⟩, ⟨"/handbook/guides/one"⟩, ⟨"/handbook/readme"⟩] ∧
      (∀ d ∈ documents, ∃ slugs, AliasGraph.handbook.slugsUnder d = .ok slugs) ∧
      ¬ ∃ d ∈ (AliasGraph.build readmeAlias AliasGraph.handbook []).2, d.code = "alias.missing-target" ∧
        d.path = some "/start" ∧ d.context = some "/handbook/readme" := by
  have named : AliasGraph.handbook.disk.WellNamed := by decide +kernel
  obtain ⟨documents, walked, hlist⟩ := exists_ok_of_any AliasGraph.handbook.documents
    (fun documents => documents.toList ==
      [⟨"/handbook"⟩, ⟨"/handbook/guides"⟩, ⟨"/handbook/guides/one"⟩, ⟨"/handbook/readme"⟩])
    (by decide +kernel)
  have hlist := eq_of_beq hlist
  obtain ⟨content, hcontent, -, hsmall, hreports⟩ := slugsUnder_documents named walked
  have small : (AliasGraph.handbook.disk.dirAt? AliasGraph.handbook.root).all
      (fun content => decide content.SpelledSmall) = true := by decide +kernel
  rw [hcontent, Option.all_some] at small
  have hopen : ∀ d ∈ documents.toList,
      AliasGraph.handbook.disk.isClosed (AliasGraph.handbook.diskPath d) = false := by
    rw [hlist]
    decide +kernel
  have hall : ∀ d ∈ documents, ∃ slugs, AliasGraph.handbook.slugsUnder d = .ok slugs :=
    fun d hd => hsmall (of_decide_eq_true small) d (.inl ⟨hd, hopen d (Std.TreeSet.mem_toList.mpr hd)⟩)
  have hreadme : ⟨"/handbook/readme"⟩ ∈ documents := by
    rw [← Std.TreeSet.mem_toList, hlist]
    simp
  refine ⟨named, documents, walked, hlist, hall, ?_⟩
  rw [hreports readmeAlias [] ⟨"/start"⟩ ⟨"/handbook/readme"⟩ (by decide +kernel) (by decide), not_not]
  exact hall _ hreadme

/-- A document and a readme in capital letters. -/
def capitals : ContentTree :=
  ⟨⟨.dir "content" (.dir "docs" (.file "README.md" (.text "Docs") .nil) (.file "x.MD" (.text "X") .nil)) .nil, []⟩,
    ⟨"content"⟩⟩

/-- Short paths for both. -/
def capitalAliases : RawManifest := .ofList [("a", "x"), ("b", "docs/readme")]

/-- Both are documents, there is nothing to walk below them, and the short paths are reported. -/
theorem exists_document_missing :
    capitals.disk.WellNamed ∧ ∃ documents, capitals.documents = .ok documents ∧
      ∀ d ∈ [ContentPath.mk "/x", ContentPath.mk "/docs/readme"], d ∈ documents ∧
        (¬ ∃ slugs, capitals.slugsUnder d = .ok slugs) ∧
        ∃ report ∈ (AliasGraph.build capitalAliases capitals []).2, report.code = "alias.missing-target" ∧
          report.context = some d.text := by
  have named : capitals.disk.WellNamed := by decide +kernel
  obtain ⟨documents, walked, hmem⟩ := exists_ok_of_any capitals.documents
    (fun documents => [ContentPath.mk "/x", ContentPath.mk "/docs/readme"].all documents.contains)
    (by decide +kernel)
  have hmissing : ∀ d ∈ [ContentPath.mk "/x", ContentPath.mk "/docs/readme"],
      (capitals.slugsUnder d).isOk = false ∧
        ∃ report ∈ (AliasGraph.build capitalAliases capitals []).2, report.code = "alias.missing-target" ∧
          report.context = some d.text := by decide +kernel
  refine ⟨named, documents, walked, fun d hd => ⟨List.all_eq_true.mp hmem d hd, ?_, (hmissing d hd).2⟩⟩
  rintro ⟨slugs, hok⟩
  have hnot := (hmissing d hd).1
  rw [hok] at hnot
  cases hnot

end ContentTree

end Folio
