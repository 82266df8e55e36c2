import Folio.Proofs.ListingShape
import Folio.Proofs.Places
import Folio.Proofs.SitePages
import Folio.Proofs.SourceTable
import Mathlib.Data.List.Basic

/-! # Editing one document

Two disks with the same paths differ only at one file.  A path whose place is not that of the file is read
alike on both (`Disk.DiffersOnlyAt.read`), whatever steps back it takes.  So if the file is no manifest, the
two sites are the same but for their disks (`Disk.DiffersOnlyAt.load`), a source whose file is another
one becomes the same page, and an edit of a document changes the page of its own route alone
(`Site.build_edit`).  A link to the file is an entry of its own, so that a manifest which is one must not change
with it. -/

namespace Folio

/-! ### Disks that differ at one file -/

namespace Listing

variable {l l' : Listing} {f : List String}

/-- Two listings with the same paths, of which only the file at `f` may hold something else. -/
structure DiffersOnlyAt (f : List String) (l l' : Listing) : Prop where
  shape : l.shape = l'.shape
  same : ∀ names, names ≠ f → l.fileAt? names = l'.fileAt? names

namespace DiffersOnlyAt

/-- The content of the first file put in the place of another. -/
theorem file (name : String) {content content' : FileContent} (hshape : content.shape = content'.shape)
    (next : Listing) : DiffersOnlyAt [name] (.file name content next) (.file name content' next) where
  shape := by rw [Listing.shape, Listing.shape, hshape]
  same names hne := by
    cases names with
    | nil => rfl
    | cons n rest =>
      rw [fileAt?, fileAt?, find?, find?]
      by_cases hn : name = n
      · have hrest : rest ≠ [] := by
          rintro rfl
          exact hne (by rw [hn])
        simp [hn, hrest]
      · simp [hn]

/-- A difference in the first directory. -/
theorem dir (name : String) (next : Listing) (h : DiffersOnlyAt f l l') :
    DiffersOnlyAt (name :: f) (.dir name l next) (.dir name l' next) where
  shape := by rw [Listing.shape, Listing.shape, h.shape]
  same names hne := by
    cases names with
    | nil => rfl
    | cons n rest =>
      rw [fileAt?, fileAt?, find?, find?]
      by_cases hn : name = n
      · have hrest : rest ≠ f := by
          rintro rfl
          exact hne (by rw [hn])
        simp [hn, h.same rest hrest]
      · simp [hn]

end DiffersOnlyAt

end Listing

namespace Disk

variable {d d' : Disk} {f : List String}

/-- Two disks with the same paths and the same working directory, of which only the file at `f` may hold
something else. -/
structure DiffersOnlyAt (f : List String) (d d' : Disk) : Prop where
  root : Listing.DiffersOnlyAt f d.root d'.root
  here : d'.here = d.here

namespace DiffersOnlyAt

theorem shape (h : DiffersOnlyAt f d d') : d'.shape = d.shape := by
  rw [Disk.shape, Disk.shape, h.root.shape, h.here]

theorem place (h : DiffersOnlyAt f d d') (path : DiskPath) : d'.place path = d.place path := by
  rw [Disk.place, Disk.place, way, way, h.here]

/-- A path that does not lead to the file is read alike. -/
theorem read (h : DiffersOnlyAt f d d') {path : DiskPath} (hpath : d.place path ≠ f) :
    d'.read path = d.read path := by
  have hshape : (d'.lookUp path).map DiskEntry.shape = (d.lookUp path).map DiskEntry.shape := by
    rw [← lookUp_shape, ← lookUp_shape, h.shape]
  rw [Disk.read, Disk.read]
  cases hd : d.lookUp path with
  | error e =>
    rw [hd] at hshape
    cases hd' : d'.lookUp path with
    | error e' =>
      rw [hd'] at hshape
      rw [Except.error.inj hshape]
    | ok entry' =>
      rw [hd'] at hshape
      cases hshape
  | ok entry =>
    rw [hd] at hshape
    cases hd' : d'.lookUp path with
    | error e' =>
      rw [hd'] at hshape
      cases hshape
    | ok entry' =>
      rw [hd'] at hshape
      have hkind : entry'.shape = entry.shape := Except.ok.inj hshape
      cases entry with
      | dir inside => cases entry' <;> first | rfl | cases hkind
      | closed inside => cases entry' <;> first | rfl | cases hkind
      | file content =>
        cases entry' with
        | dir inside' => cases hkind
        | closed inside' => cases hkind
        | file content' =>
          have hfile := fileAt?_place hd
          have hfile' := fileAt?_place hd'
          rw [h.place, ← h.root.same _ hpath, hfile] at hfile'
          rw [Option.some.inj hfile']

theorem loadManifest (h : DiffersOnlyAt f d d') {path : DiskPath} (hpath : d.place path ≠ f) :
    Folio.loadManifest d' path = Folio.loadManifest d path := by
  rw [Folio.loadManifest, Folio.loadManifest, manifestAt, manifestAt, h.read hpath]

theorem documents (h : DiffersOnlyAt f d d') (root : DiskPath) :
    ContentTree.documents ⟨d', root⟩ = ContentTree.documents ⟨d, root⟩ := by
  rw [← ContentTree.documents_shape ⟨d', root⟩, ← ContentTree.documents_shape ⟨d, root⟩,
    ContentTree.shape, ContentTree.shape, h.shape]

theorem aliasGraph (h : DiffersOnlyAt f d d') (manifest : RawManifest) (root : DiskPath)
    (reserved : List String) :
    AliasGraph.build manifest ⟨d', root⟩ reserved = AliasGraph.build manifest ⟨d, root⟩ reserved := by
  rw [← AliasGraph.build_shape manifest ⟨d', root⟩, ← AliasGraph.build_shape manifest ⟨d, root⟩,
    ContentTree.shape, ContentTree.shape, h.shape]

/-- If the file is no manifest, the two sites are the same but for their disks. -/
theorem load (h : DiffersOnlyAt f d d') {config : Config} (haliases : d.place config.aliasManifest ≠ f)
    (hredirects : d.place config.redirectManifest ≠ f) :
    Site.load d' config = (Site.load d config).map fun site =>
      { site with tree := ⟨d', config.contentDirectory⟩ } := by
  unfold Site.load
  dsimp only
  rw [h.documents, h.loadManifest haliases, h.loadManifest hredirects, h.aliasGraph]
  cases ContentTree.documents ⟨d, config.contentDirectory⟩ <;> rfl

/-- The candidates for sources are the same. -/
theorem candidates [Engines] (h : DiffersOnlyAt f d d') {config : Config} {path : DiskPath}
    {inside inside' : Listing} (hdir : d.dirAt? path = some inside) (hdir' : d'.dirAt? path = some inside') :
    config.candidates inside' = config.candidates inside := by
  have hshape : inside'.shape = inside.shape := by
    have hdirs := congrArg (·.dirAt? path) h.shape
    simpa only [dirAt?_shape, hdir, hdir', Option.map_some, Option.some.injEq] using hdirs
  rw [← Config.candidates_shape config inside', hshape, Config.candidates_shape]

end DiffersOnlyAt

end Disk

/-! ### The pages of two sites -/

namespace Site

section Edits

variable [Engines] {disk disk' : Disk} {config : Config} {site : Site} {s : Source} {r : ContentPath}
  {names : List String}

/-- A source has no page but under its own route. -/
theorem filter_page_outcome (hroute : s.route = r) :
    (site.outcome s).page?.filter (·.route ≠ r) = none := by
  cases hpage : (site.outcome s).page? with
  | none => rfl
  | some p => simp [route_of_outcome hpage, hroute]

/-- A source whose file is read alike on another disk becomes the same there. -/
theorem outcome_of_read (hread : disk'.read s.file = site.tree.disk.read s.file) (root : DiskPath) :
    ({ site with tree := ⟨disk', root⟩ } : Site).outcome s = site.outcome s := by
  have hfile : ({ site with tree := ⟨disk', root⟩ } : Site).renderFile s.path s.file =
      site.renderFile s.path s.file := by
    unfold renderFile
    dsimp only
    rw [hread]
    rfl
  unfold outcome page
  rw [hfile]

/-- **Editing one document changes no other page**: of two disks with the same paths, let only one file
below the content directory hold something else, which is no manifest.  Then loading fails on both for the
same reason, or it succeeds on both, the aliases, the orphaned redirects and the shown content of the two
builds are the same, and so are the pages of every route but that of the file. -/
theorem build_edit (named : disk.WellNamed)
    (h : Disk.DiffersOnlyAt (disk.place config.contentDirectory ++ names) disk disk')
    (haliases : disk.place config.aliasManifest ≠ disk.place config.contentDirectory ++ names)
    (hredirects : disk.place config.redirectManifest ≠ disk.place config.contentDirectory ++ names) :
    (∃ e, Site.load disk config = .error e ∧ Site.load disk' config = .error e) ∨
      ∃ site site', Site.load disk config = .ok site ∧ Site.load disk' config = .ok site' ∧
        site'.build.aliases = site.build.aliases ∧ site'.build.orphaned = site.build.orphaned ∧
        site'.build.shownContent = site.build.shownContent ∧
        site'.build.pages.filter (·.route ≠ (ContentPath.ofString (relativeText names)).route) =
          site.build.pages.filter (·.route ≠ (ContentPath.ofString (relativeText names)).route) := by
  have hload := h.load haliases hredirects
  cases loaded : Site.load disk config with
  | error e =>
    rw [loaded] at hload
    exact .inl ⟨e, rfl, hload⟩
  | ok site =>
    rw [loaded] at hload
    refine .inr ⟨site, _, rfl, hload, rfl, rfl, rfl, ?_⟩
    obtain ⟨content, hcontent, htree, rfl, -⟩ := of_load_eq_ok loaded
    obtain ⟨content', hcontent', -⟩ := of_load_eq_ok hload
    have hsources := sources_eq htree hcontent
    have hsources' : ({ site with tree := ⟨disk', site.config.contentDirectory⟩ } : Site).sources =
        site.sources := by
      rw [hsources, ← h.candidates hcontent hcontent']
      exact sources_eq rfl hcontent'
    rw [pages_build, pages_build, hsources', List.filter_filterMap, List.filter_filterMap]
    refine List.filterMap_congr fun e he => ?_
    have hheld := Std.TreeMap.mem_toList_iff_getElem?_eq_some.mp he
    rw [hsources] at hheld
    obtain ⟨hmem, hroute⟩ := Sources.mem_of_getElem?_ofList hheld
    obtain ⟨names', hnames', -, hsource⟩ := Config.mem_candidates.mp hmem
    by_cases hedited : names' = names
    · -- a page of the edited file has the route that is left out
      have hleft : e.2.route = (ContentPath.ofString (relativeText names)).route := by
        rw [← hsource, hedited, Config.route_sourceOf]
      rw [filter_page_outcome hleft, filter_page_outcome hleft]
    · have hread : disk'.read e.2.file = site.tree.disk.read e.2.file := by
        have hpath := (Disk.dirAt?_eq_some_iff.mp hcontent).1
        have hsteps := (named.dirAt? hcontent).isStep_of_mem_visibleFiles
          (content.walkedFiles_sublist.subset hnames')
        rw [htree, ← hsource]
        refine h.read ?_
        rw [Config.sourceOf, Disk.place_joinAll hpath hsteps]
        exact fun he => hedited (List.append_cancel_left he)
      rw [outcome_of_read hread]

end Edits

/-- Two documents, of which the first holds what is given. -/
def twoDocuments (content : FileContent) : Disk where
  root := .dir "content" (.file "a.md" content (.file "b.md" (.text "Two") .nil)) .nil

/-- When the first document becomes unreadable, its page goes and the other one stays as it is. -/
theorem build_edit_twoDocuments :
    let config := Config.ofDirectories "content" "out"
    let before := twoDocuments (.text "*One*")
    let after := twoDocuments .undecodable
    let html := fun site : Site => site.build.pages.map fun p => (p.route, p.document.rendered.html)
    before.WellNamed ∧
      Disk.DiffersOnlyAt (before.place config.contentDirectory ++ ["a.md"]) before after ∧
      before.place config.aliasManifest ≠ before.place config.contentDirectory ++ ["a.md"] ∧
      before.place config.redirectManifest ≠ before.place config.contentDirectory ++ ["a.md"] ∧
      ∃ site site', Site.load before config = .ok site ∧ Site.load after config = .ok site' ∧
        html site = [(⟨"/a"⟩, "<p><em>One</em></p>\n"), (⟨"/b"⟩, "<p>Two</p>\n")] ∧
        html site' = [(⟨"/b"⟩, "<p>Two</p>\n")] ∧
        site'.build.pages.filter (·.route ≠ ⟨"/a"⟩) = site.build.pages.filter (·.route ≠ ⟨"/a"⟩) := by
  intro config before after html
  have named : before.WellNamed := by decide +kernel
  have hplace : before.place config.contentDirectory = ["content"] := by decide +kernel
  have hdiffers : Disk.DiffersOnlyAt (before.place config.contentDirectory ++ ["a.md"]) before after := by
    rw [hplace]
    exact ⟨.dir "content" .nil (.file "a.md" (by rfl) (.file "b.md" (.text "Two") .nil)), rfl⟩
  have haliases : before.place config.aliasManifest ≠ before.place config.contentDirectory ++ ["a.md"] := by
    decide +kernel
  have hredirects : before.place config.redirectManifest ≠ before.place config.contentDirectory ++ ["a.md"] := by
    decide +kernel
  have hroute : (ContentPath.ofString (relativeText ["a.md"])).route = ⟨"/a"⟩ := by decide +kernel
  obtain ⟨site, loaded, hpages⟩ := exists_ok_of_any (Site.load before config)
    (fun site => html site = [(⟨"/a"⟩, "<p><em>One</em></p>\n"), (⟨"/b"⟩, "<p>Two</p>\n")]) (by decide +kernel)
  obtain ⟨site', loaded', hpages'⟩ := exists_ok_of_any (Site.load after config)
    (fun site => html site = [(⟨"/b"⟩, "<p>Two</p>\n")]) (by decide +kernel)
  refine ⟨named, hdiffers, haliases, hredirects, site, site', loaded, loaded',
    of_decide_eq_true hpages, of_decide_eq_true hpages', ?_⟩
  have hedit := build_edit named hdiffers haliases hredirects
  rw [loaded, loaded', hroute] at hedit
  rcases hedit with ⟨e, he, -⟩ | ⟨s, s', hs, hs', -, -, -, hsame⟩
  · cases he
  · cases hs
    cases hs'
    exact hsame

end Site

end Folio
