import Folio.Engines.Standard
import Folio.Proofs.TreeSlugs
import Folio.Site.Basic

/-! # Sources and documents

The sources of a site are found by the texts of their paths, the documents by the names that the walk of
the tree gives.  Where the names on the way to a file are plain, reading the path gives the names back
(`ofString_relativeText`) and the route of the file is one of the documents
(`sources_mem_documents`).  A quotation mark is dropped from a path and a backslash is read as a slash,
so a file with one of them in its name is served under a route that is no document
(`exists_source_not_mem_documents`). -/

namespace Folio

open ContentPath (IsName IsClean)

/-! ### Paths to files -/

/-- A name that a path keeps as it is written. -/
structure IsPlain (name : String) : Prop where
  no_quote : '"' ∉ name.toList
  no_backslash : '\\' ∉ name.toList

instance (name : String) : Decidable (IsPlain name) :=
  decidable_of_iff ('"' ∉ name.toList ∧ '\\' ∉ name.toList)
    ⟨fun h => ⟨h.1, h.2⟩, fun h => ⟨h.1, h.2⟩⟩

/-- A visible name is a step down: names that are only dots are hidden. -/
theorem isStep_of_isHidden_eq_false {name : String} (hname : IsName name.toList)
    (hidden : isHidden name = false) : DiskPath.IsStep name.toList := by
  have hdot : name.toList.head? ≠ some '.' := by simpa [isHidden] using hidden
  refine ⟨hname, ?_, ?_⟩
  · intro e
    exact hdot (by rw [e]; rfl)
  · intro e
    exact hdot (by rw [e]; rfl)

/-- A visible name without quotation marks is clean. -/
theorem isClean_of_isHidden_eq_false {name : String} (hname : IsName name.toList)
    (hquote : '"' ∉ name.toList) (hidden : isHidden name = false) : IsClean name.toList := by
  have hstep := isStep_of_isHidden_eq_false hname hidden
  exact ⟨hstep.ne_nil, hstep.ne_dot, hstep.ne_dots, hstep.no_slash, hquote⟩

/-- The stem of a clean visible name is clean. -/
theorem isClean_of_documentStem? {name stem : String} (hs : documentStem? name = some stem)
    (hname : IsClean name.toList) (hidden : isHidden name = false) : IsClean stem.toList := by
  obtain ⟨hne, ext, he⟩ := eq_of_documentStem? hs
  have hmem : ∀ {c}, c ∈ stem.toList → c ∈ name.toList := fun h => he ▸ List.mem_append_left _ h
  exact isClean_of_isHidden_eq_false ⟨hne, fun h => hname.no_slash (hmem h)⟩
    (fun h => hname.no_quote (hmem h)) ((Listing.isHidden_of_documentStem? hs).trans hidden)

namespace ContentPath

theorem stackOf_clean {s : List Char} (h : IsClean s) : stackOf s = [s] := by
  have hf : s.filter (· ≠ '"') = s :=
    List.filter_eq_self.mpr fun c hc => decide_eq_true fun e : c = '"' => h.no_quote (e ▸ hc)
  rw [stackOf, hf, pieces_name h.isName, List.foldl_cons, List.foldl_nil, h.push]

theorem intercalate_slash (s : List Char) (segs : List (List Char)) :
    ['/'].intercalate (s :: segs) = s ++ segs.flatMap ('/' :: ·) := by
  induction segs generalizing s with
  | nil => simp
  | cons t segs ih => rw [List.intercalate_cons_cons, ih]; simp

theorem stackOf_intercalate {segs : List (List Char)} (h : ∀ s ∈ segs, IsClean s) :
    stackOf (['/'].intercalate segs) = segs.reverse := by
  cases segs with
  | nil => rfl
  | cons s segs =>
    obtain ⟨hs, hsegs⟩ := List.forall_mem_cons.mp h
    rw [intercalate_slash, stackOf_append_flatMap segs s hsegs, stackOf_clean hs,
      List.reverse_cons]

theorem mem_intercalate_slash {c : Char} {segs : List (List Char)}
    (h : c ∈ ['/'].intercalate segs) : c = '/' ∨ ∃ s ∈ segs, c ∈ s := by
  cases segs with
  | nil => simp at h
  | cons s segs =>
    rw [intercalate_slash, List.mem_append, List.mem_flatMap] at h
    rcases h with h | ⟨t, ht, h⟩
    · exact .inr ⟨s, List.mem_cons_self, h⟩
    · rcases List.mem_cons.mp h with h | h
      · exact .inl h
      · exact .inr ⟨t, List.mem_cons_of_mem s ht, h⟩

theorem ofChars_eq_ofSegments {raw : List Char} {names : List String}
    (h : stackOf raw = (names.map String.toList).reverse) : ofChars raw = ofSegments names := by
  rw [ofChars_eq, h, List.reverse_reverse, ofSegments]

end ContentPath

/-- Reading the text of a path of plain names gives the names back. -/
theorem ofString_relativeText {names : List String}
    (h : ∀ s ∈ names, IsClean s.toList ∧ IsPlain s) :
    ContentPath.ofString (relativeText names) = .ofSegments names := by
  have hkept : (("/".intercalate names).toList.map fun c => if c == '\\' then '/' else c) =
      ['/'].intercalate (names.map String.toList) := by
    rw [String.toList_intercalate]
    refine (List.map_congr_left fun c hc => ?_).trans (List.map_id _)
    have hne : c ≠ '\\' := by
      rintro rfl
      rcases ContentPath.mem_intercalate_slash hc with h' | ⟨s, hs, h'⟩
      · cases h'
      · obtain ⟨n, hn, rfl⟩ := List.mem_map.mp hs
        exact (h n hn).2.no_backslash h'
    simp [hne]
  rw [relativeText, hkept]
  refine ContentPath.ofChars_eq_ofSegments (ContentPath.stackOf_intercalate ?_)
  exact List.forall_mem_map.mpr fun s hs => (h s hs).1

/-- The route of a file is the path of its stem, or the directory if the stem is that of an index. -/
theorem ContentPath.route_ofSegments {dirs : List String} {name stem : String}
    (h : ∀ s ∈ dirs ++ [name], IsClean s.toList) (hstem : documentStem? name = some stem)
    (hclean : IsClean stem.toList) :
    (ofSegments (dirs ++ [name])).route =
      if isIndexStem stem then ofSegments dirs else ofSegments (dirs ++ [stem]) := by
  have hname : IsClean name.toList := h name (by simp)
  have hdirs : ∀ s ∈ dirs, IsClean s.toList := fun s hs => h s (List.mem_append_left _ hs)
  have hsegs : ∀ s ∈ dirs ++ [stem], IsName s.toList := by
    intro s hs
    rcases List.mem_append.mp hs with hs | hs
    · exact (hdirs s hs).isName
    · rw [List.mem_singleton.mp hs]
      exact hclean.isName
  have hread : ∀ n : String, IsClean n.toList →
      ofChars ((dirs.map String.toList).flatMap ('/' :: ·) ++ '/' :: n.toList) =
        ofSegments (dirs ++ [n]) := by
    intro n hn
    refine ofChars_eq_ofSegments ?_
    rw [stackOf_append_segment _ hn.no_slash hn.no_quote, hn.push,
      stackOf_flatMap (List.forall_mem_map.mpr hdirs)]
    simp
  rw [route, ← hread name hname, ← ofChars_bareName _ hname, bareName_of_documentStem? hstem,
    hread stem hclean, collapseIndex, fileName?_ofSegments_append hsegs]
  dsimp only
  rw [parent_ofSegments_append hsegs]

/-! ### The table of sources -/

/-- A table of sources holds sources that were offered, each under its route. -/
theorem Sources.mem_of_getElem?_ofList {ss : List Source} {r : ContentPath} {s : Source}
    (h : (Sources.ofList ss)[r]? = some s) : s ∈ ss ∧ s.route = r := by
  have step : ∀ (sources : Sources), ∀ o ∈ ss, (∀ r s, sources[r]? = some s → s ∈ ss ∧ s.route = r) →
      ∀ r s, (sources.offer o)[r]? = some s → s ∈ ss ∧ s.route = r := by
    intro sources o ho hs r s h
    have hinsert : (sources.insert o.route o)[r]? = some s → s ∈ ss ∧ s.route = r := by
      intro h
      rw [Std.TreeMap.getElem?_insert] at h
      split at h
      · rename_i hr
        cases h
        exact ⟨ho, Std.LawfulEqCmp.eq_of_compare hr⟩
      · exact hs r s h
    unfold Sources.offer at h
    split at h
    · split at h
      · exact hs r s h
      · exact hinsert h
    · exact hinsert h
  refine List.foldlRecOn (motive := fun m : Sources => ∀ r s, m[r]? = some s → s ∈ ss ∧ s.route = r)
    ss _ (fun r s h => ?_) (fun m hm o ho => step m o ho hm) r s h
  simp at h

namespace Config

variable {c : Config} {patterns : List (String → Bool)} {path : List String} {s : Source}

theorem of_source?_eq_some (h : c.source? patterns path = some s) :
    isMarkdownName (path.getLastD "") = true ∧
      s.route = (ContentPath.ofString (relativeText path)).route ∧ c.excludes s.route = false := by
  unfold source? at h
  dsimp only at h
  split at h
  · cases h
  · rename_i hkept
    simp only [Bool.or_eq_true, not_or, Bool.not_eq_true, Bool.not_eq_false'] at hkept
    rw [← Option.some.inj h]
    dsimp only
    exact ⟨hkept.1.1, Eq.refl _, hkept.2⟩

theorem mem_candidates_iff [Engines] {content : Listing} :
    s ∈ c.candidates content ↔ ∃ path ∈ content.walkedFiles, c.source? c.patterns path = some s := by
  rw [candidates, List.mem_filterMap]

end Config

/-! ### Sources of a site -/

namespace Site

variable {disk : Disk} {config : Config} {site : Site}

/-- What a loaded site holds of the content tree. -/
theorem of_load_eq_ok (h : Site.load disk config = .ok site) :
    ∃ content, disk.dirAt? config.contentDirectory = some content ∧
      site.tree = ⟨disk, config.contentDirectory⟩ ∧ site.config = config ∧
      ∀ d, d ∈ site.documents ↔
        (∃ slug ∈ content.entrySlugs [], ContentPath.ofSegments slug = d) ∧
          config.excludes d = false := by
  dsimp only [Site.load] at h
  cases hdocs : ContentTree.documents ⟨disk, config.contentDirectory⟩ with
  | error e =>
    rw [hdocs] at h
    cases h
  | ok documents =>
    rw [hdocs] at h
    obtain ⟨content, hcontent, rfl⟩ := ContentTree.documents_eq_ok_iff.mp hdocs
    cases h
    refine ⟨content, hcontent, rfl, rfl, fun d => ?_⟩
    simp only [List.mem_filter, Bool.not_eq_true']
    rw [Std.TreeSet.mem_toList, ContentTree.mem_ofList_documents]

/-- **Sources are documents**: every source of a site is a file that the walk of its content directory comes
to, and if the names on the way to the file are plain, its route is the root or a document of the site. -/
theorem sources_mem_documents [Engines] (named : disk.WellNamed) (loaded : Site.load disk config = .ok site)
    {r : ContentPath} {s : Source} (hs : site.sources[r]? = some s) :
    ∃ content path, disk.dirAt? config.contentDirectory = some content ∧
      path ∈ content.walkedFiles ∧ config.source? config.patterns path = some s ∧
      ((∀ name ∈ path, IsPlain name) → s.route = .root ∨ s.route ∈ site.documents) := by
  obtain ⟨content, hcontent, htree, hconfig, hdocs⟩ := of_load_eq_ok loaded
  rw [sources, htree, hconfig, hcontent] at hs
  obtain ⟨path, hwalked, hsource⟩ :=
    Config.mem_candidates_iff.mp (Sources.mem_of_getElem?_ofList hs).1
  refine ⟨content, path, hcontent, hwalked, hsource, fun plain => ?_⟩
  have hpath : path ∈ content.visibleFiles [] := content.walkedFiles_sublist.subset hwalked
  obtain ⟨hmarkdown, hroute, hkept⟩ := Config.of_source?_eq_some hsource
  have hnames := (named.dirAt? hcontent).isName_of_mem_visibleFiles hpath
  have hclean : ∀ n ∈ path, IsClean n.toList := fun n hn =>
    isClean_of_isHidden_eq_false (hnames n hn).1 (plain n hn).no_quote (hnames n hn).2
  rw [ofString_relativeText fun n hn => ⟨hclean n hn, plain n hn⟩] at hroute
  obtain ⟨dirs, name, rfl, hdirs, hstems⟩ := Listing.exists_slugs_of_mem_visibleFiles hpath
  rw [List.getLastD_concat] at hmarkdown
  obtain ⟨stem, hstem⟩ := Option.isSome_iff_exists.mp hmarkdown
  rw [ContentPath.route_ofSegments hclean hstem (isClean_of_documentStem? hstem
    (hclean name (by simp)) (hnames name (by simp)).2)] at hroute
  rw [hdocs, hkept]
  cases hindex : isIndexStem stem with
  | true =>
    -- an index is served under its directory, which is registered unless it is the root
    rw [hindex, if_pos rfl] at hroute
    by_cases hroot : dirs = []
    · exact .inl (by rw [hroute, hroot]; rfl)
    · exact .inr ⟨⟨dirs, hdirs hroot, hroute.symm⟩, rfl⟩
  | false =>
    rw [hindex, if_neg (by simp)] at hroute
    exact .inr ⟨⟨dirs ++ [stem], hstems stem hstem hindex, hroute.symm⟩, rfl⟩

/-- Guides with an index, in the directory of the content. -/
def guides : Disk where
  root := .dir "content" (.dir "guides" (.file "_index.md" (.text "Guides")
    (.file "setup.v2.mdx" (.text "Setup") .nil)) .nil) .nil

/-- The guide is served under its route, which is a document. -/
theorem sources_mem_documents_guides :
    let config := Config.ofDirectories "content" "out"
    guides.WellNamed ∧ ∃ site s, Site.load guides config = .ok site ∧
      site.sources[ContentPath.mk "/guides/setup.v2"]? = some s ∧ s.route ∈ site.documents := by
  intro config
  have named : guides.WellNamed := by decide +kernel
  obtain ⟨site, loaded, hsource⟩ := exists_ok_of_any (Site.load guides config)
    (fun site => site.sources[ContentPath.mk "/guides/setup.v2"]?.any (·.route ≠ .root))
    (by decide +kernel)
  obtain ⟨s, hs, hroot⟩ := Option.any_eq_true _ _ |>.mp hsource
  refine ⟨named, site, s, loaded, hs, ?_⟩
  obtain ⟨content, path, hcontent, hpath, -, hroute⟩ := sources_mem_documents named loaded hs
  have hplain : (guides.dirAt? config.contentDirectory).all (fun content =>
      content.walkedFiles.all (·.all fun name => decide (IsPlain name))) = true := by
    decide +kernel
  rw [hcontent] at hplain
  simp only [Option.all_some, List.all_eq_true, decide_eq_true_eq] at hplain
  exact (hroute (hplain path hpath)).resolve_left (of_decide_eq_true hroot)

/-- Names with a quotation mark and with a backslash. -/
def oddNames : Disk where
  root := .dir "content" (.file "a\".md" (.text "A") (.file "c\\d.md" (.text "D") .nil)) .nil

/-- The two files are served, under routes that are not among the documents. -/
theorem exists_source_not_mem_documents :
    let config := Config.ofDirectories "content" "out"
    oddNames.WellNamed ∧ ∃ site, Site.load oddNames config = .ok site ∧
      ∀ r ∈ [ContentPath.mk "/a", ContentPath.mk "/c/d"],
        (∃ s, site.sources[r]? = some s ∧ s.route = r) ∧ r ∉ site.documents := by
  intro config
  obtain ⟨site, loaded, hsite⟩ := exists_ok_of_any (Site.load oddNames config)
    (fun site => [ContentPath.mk "/a", ContentPath.mk "/c/d"].all fun r =>
      site.sources[r]?.any (·.route = r) && decide (r ∉ site.documents))
    (by decide +kernel)
  refine ⟨by decide +kernel, site, loaded, fun r hr => ?_⟩
  obtain ⟨hserved, hunknown⟩ := Bool.and_eq_true_iff.mp (List.all_eq_true.mp hsite r hr)
  obtain ⟨s, hs, hroute⟩ := Option.any_eq_true _ _ |>.mp hserved
  exact ⟨⟨s, hs, of_decide_eq_true hroute⟩, of_decide_eq_true hunknown⟩

end Site

end Folio
