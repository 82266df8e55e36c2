import Folio.Proofs.LookupOrder
import Folio.Proofs.NormalPaths

/-! # The file behind a route

The table of sources and the lookup of a content path choose among the same files, each by rules of its own.
The lookup leads from the route of a source back to the file of the source unless a name on the way is
changed when a path is read, a document lies beside the directory that the file is the index of, or the
extension of the document is not written in small letters; and where the two choose differently among the
files of one directory, the file that the lookup comes to first is a link or one that an ignore pattern fits
(`Site.fileOf?_route`). -/

namespace Folio

open ContentPath (IsName IsClean)
open DiskPath (IsStep)

/-! ### Names in routes -/

theorem not_mem_of_eqIgnoringCase {a b : List Char} (h : Text.eqIgnoringCase a b = true) {c : Char}
    (hc : c.toLower ∉ b.map Char.toLower) : c ∉ a := by
  have hsame : a.map Char.toLower = b.map Char.toLower := by simpa [Text.eqIgnoringCase] using h
  intro hmem
  rw [← hsame] at hc
  exact hc (List.mem_map_of_mem hmem)

/-- The name of an index file is made of the letters of an index stem and of an extension. -/
theorem IsIndexName.not_mem {name : String} (h : IsIndexName name) {c : Char} (hdot : c ≠ '.')
    (hstems : ∀ s ∈ indexStems, c.toLower ∉ s.toList.map Char.toLower)
    (hexts : ∀ e ∈ markdownExtensions, c.toLower ∉ e.toList.map Char.toLower) : c ∉ name.toList := by
  obtain ⟨stem, hstem, hindex⟩ := h
  obtain ⟨ext, hname, e, he, hext⟩ := exists_extension_of_documentStem? hstem
  obtain ⟨s, hs, hsame⟩ := List.any_eq_true.mp hindex
  rw [hname, List.mem_append, List.mem_cons, not_or, not_or]
  exact ⟨not_mem_of_eqIgnoringCase hsame (hstems s hs), hdot, not_mem_of_eqIgnoringCase hext (hexts e he)⟩

/-- The names of index files are plain. -/
theorem IsIndexName.isPlain {name : String} (h : IsIndexName name) : IsPlain name where
  no_quote := h.not_mem (by decide) (by decide +kernel) (by decide +kernel)
  no_backslash := h.not_mem (by decide) (by decide +kernel) (by decide +kernel)

theorem isPlain_document {name ext : String} (h : IsPlain name) (hext : ext ∈ markdownExtensions) :
    IsPlain (name ++ "." ++ ext) := by
  have hplain : '"' ∉ ext.toList ∧ '\\' ∉ ext.toList := by
    revert ext
    decide
  constructor
  · simp [h.no_quote, hplain.1]
  · simp [h.no_backslash, hplain.2]

theorem mem_of_mem_dropMarkdownExtension {text : String} {c : Char}
    (h : c ∈ (dropMarkdownExtension text).toList) : c ∈ text.toList := by
  rw [dropMarkdownExtension, String.toList_ofList] at h
  rcases Text.exists_last_separator (p := ContentPath.isSlash) text.toList with
    hno | ⟨front, d, back, he, hd, hback⟩
  · rw [dropMarkdownExtensionChars_of_no_slash fun hm => by simpa [ContentPath.isSlash] using hno '/' hm] at h
    exact mem_of_mem_bareName h
  · obtain rfl : d = '/' := by simpa [ContentPath.isSlash] using hd
    rw [he] at h ⊢
    rw [dropMarkdownExtensionChars_append _ fun hm => by simpa [ContentPath.isSlash] using hback '/' hm] at h
    rcases List.mem_append.mp h with h | h
    · exact List.mem_append_left _ h
    · refine List.mem_append_right _ ?_
      rcases List.mem_cons.mp h with rfl | h
      · exact List.mem_cons_self
      · exact List.mem_cons_of_mem _ (mem_of_mem_bareName h)

namespace ContentPath

theorem mem_of_mem_cleanNames {raw name : String} {c : Char} (h : name ∈ cleanNames raw)
    (hc : c ∈ name.toList) : c ∈ raw.toList := by
  obtain ⟨s, hs, rfl⟩ := List.mem_map.mp h
  rw [String.toList_ofList] at hc
  exact mem_of_mem_stackOf (List.mem_reverse.mp hs) hc

/-- A path that is read is made of slashes and of characters of the raw path. -/
theorem mem_of_mem_text_ofString {raw : String} {c : Char} (h : c ∈ (ofString raw).text.toList) :
    c = '/' ∨ c ∈ raw.toList := by
  rw [ofString_eq_ofSegments] at h
  by_cases hnil : cleanNames raw = []
  · rw [hnil] at h
    exact .inl (by simpa [ofSegments_nil, root] using h)
  · rw [toList_text_ofSegments (fun n hn => (isClean_of_mem_cleanNames hn).isName) hnil,
      List.mem_flatMap] at h
    obtain ⟨s, hs, h⟩ := h
    obtain ⟨n, hn, rfl⟩ := List.mem_map.mp hs
    exact (List.mem_cons.mp h).imp_right (mem_of_mem_cleanNames hn)

/-- A route is made of clean names with characters of the path of the source. -/
theorem exists_segments_route (p : ContentPath) :
    ∃ segs, p.route = ofSegments segs ∧
      ∀ n ∈ segs, IsClean n.toList ∧ ∀ c ∈ n.toList, c ∈ p.text.toList := by
  have hnames : ∀ n ∈ cleanNames (dropMarkdownExtension p.text),
      IsClean n.toList ∧ ∀ c ∈ n.toList, c ∈ p.text.toList := fun n hn =>
    ⟨isClean_of_mem_cleanNames hn, fun c hc => mem_of_mem_dropMarkdownExtension (mem_of_mem_cleanNames hn hc)⟩
  rw [route, ofString_eq_ofSegments]
  generalize cleanNames (dropMarkdownExtension p.text) = names at hnames
  obtain rfl | ⟨front, last, rfl⟩ := names.eq_nil_or_concat
  · exact ⟨[], rfl, by simp⟩
  · rw [List.concat_eq_append] at hnames ⊢
    have hisname : ∀ n ∈ front ++ [last], IsName n.toList := fun n hn => (hnames n hn).1.isName
    rw [collapseIndex, fileName?_ofSegments_append hisname]
    dsimp only
    split
    · exact ⟨front, parent_ofSegments_append hisname, fun n hn => hnames n (List.mem_append_left _ hn)⟩
    · exact ⟨front ++ [last], rfl, hnames⟩

/-- The route of a file on disk is made of clean and plain names. -/
theorem exists_plain_segments_route (names : List String) :
    ∃ segs, (ofString (relativeText names)).route = ofSegments segs ∧
      ∀ n ∈ segs, IsClean n.toList ∧ IsPlain n := by
  obtain ⟨segs, hroute, hsegs⟩ := exists_segments_route (ofString (relativeText names))
  refine ⟨segs, hroute, fun n hn => ⟨(hsegs n hn).1, (hsegs n hn).1.no_quote, fun hmem => ?_⟩⟩
  rcases mem_of_mem_text_ofString ((hsegs n hn).2 _ hmem) with h | h
  · cases h
  · -- backslashes are slashes by then
    rw [relativeText, String.toList_ofList, List.mem_map] at h
    obtain ⟨c, -, hc⟩ := h
    split at hc
    · cases hc
    · rename_i hne
      exact hne (by simp [hc])

end ContentPath

/-! ### Names that are found -/

namespace Listing

variable {content : Listing} {segs names dirs : List String} {name stem : String}

/-- What is found has the names of the path, a name with an extension, or the name of an index file. -/
theorem forall_of_found? {P : String → Prop} (hsegs : ∀ s ∈ segs, P s)
    (hdocument : ∀ s, P s → ∀ ext ∈ markdownExtensions, P (s ++ "." ++ ext))
    (hindex : ∀ inside name, content.descend? segs = some inside → inside.index? = some name → P name)
    (h : content.found? segs = some names) : ∀ s ∈ names, P s := by
  unfold found? at h
  split at h
  · rename_i found hfound
    obtain ⟨last, hlast, hfound⟩ := Option.bind_eq_some_iff.mp hfound
    obtain ⟨ext, hext, rfl⟩ := exists_of_document? hfound
    rw [← Option.some.inj h]
    refine List.forall_mem_append.mpr ⟨fun s hs => hsegs s (List.dropLast_subset _ hs), ?_⟩
    rw [List.forall_mem_singleton]
    exact hdocument last (hsegs last (List.mem_of_getLast? hlast)) ext hext
  · obtain ⟨name, hname, rfl⟩ := Option.map_eq_some_iff.mp h
    obtain ⟨inside, hinside, hname⟩ := Option.bind_eq_some_iff.mp hname
    refine List.forall_mem_append.mpr ⟨hsegs, ?_⟩
    rw [List.forall_mem_singleton]
    exact hindex inside name hinside hname

/-- What is found are steps down, and it is plain if the path is. -/
theorem isStep_of_found? (named : content.WellNamed) (ordered : content.Ordered)
    (hsegs : ∀ s ∈ segs, IsStep s.toList) (h : content.found? segs = some names) :
    ∀ s ∈ names, IsStep s.toList := by
  refine forall_of_found? (P := fun s => IsStep s.toList) hsegs
    (fun s hs ext hext => hs.toIsName.isStep_document hext) (fun inside name hinside hname => ?_) h
  obtain ⟨hmem, -, -⟩ := (ordered.descend? hinside).index?_eq_some_iff.mp hname
  obtain ⟨hentry, hshown⟩ := mem_visible_iff.mp hmem
  exact isStep_of_isHidden_eq_false ((named.descend? hinside).isName_of_mem_names hentry) hshown

theorem isPlain_of_found? (ordered : content.Ordered) (hsegs : ∀ s ∈ segs, IsPlain s)
    (h : content.found? segs = some names) : ∀ s ∈ names, IsPlain s := by
  refine forall_of_found? hsegs (fun s hs ext hext => isPlain_document hs hext)
    (fun inside name hinside hname => ?_) h
  obtain ⟨-, hindex, -⟩ := (ordered.descend? hinside).index?_eq_some_iff.mp hname
  exact hindex.isPlain

/-- A document lies beside a directory and has its name. -/
def HasDocumentBeside (content : Listing) (dirs : List String) : Prop :=
  ∃ above last ext, dirs = above ++ [last] ∧ ext ∈ markdownExtensions ∧
    above ++ [last ++ "." ++ ext] ∈ content.visibleFiles []

theorem getLast?_bind_document?_eq_none_iff (named : content.WellNamed)
    (hdirs : ∀ d ∈ dirs, IsName d.toList ∧ isHidden d = false) :
    dirs.getLast?.bind (content.document? dirs.dropLast) = none ↔ ¬ content.HasDocumentBeside dirs := by
  obtain rfl | ⟨above, last, rfl⟩ := dirs.eq_nil_or_concat
  · simp [HasDocumentBeside]
  · rw [List.concat_eq_append] at hdirs ⊢
    have hlast : IsName last.toList := (hdirs last (by simp)).1
    rw [List.getLast?_concat, List.dropLast_concat, Option.bind_some,
      named.document?_eq_none_iff hlast fun d hd => (hdirs d hd).2]
    constructor
    · rintro hnone ⟨above', last', ext, he, hext, hmem⟩
      obtain ⟨rfl, he⟩ := List.append_inj' he rfl
      obtain rfl : last = last' := by simpa using he
      exact hnone ext hext hmem
    · intro hnone ext hext hmem
      exact hnone ⟨above, last, ext, rfl, hext, hmem⟩

/-- The names that the route of a visible file is made of, if the names on the way to it are plain. -/
def routeNames (dirs : List String) (stem : String) : List String :=
  if isIndexStem stem then dirs else dirs ++ [stem]

/-- A visible file is found under its route if no document beside its directory comes first, or if its
extension is written in small letters, and if no other file of the directory comes first. -/
theorem found?_routeNames_iff (named : content.WellNamed) (ordered : content.Ordered)
    (hmem : dirs ++ [name] ∈ content.visibleFiles []) (hstem : documentStem? name = some stem) :
    content.found? (routeNames dirs stem) = some (dirs ++ [name]) ↔
      (if isIndexStem stem then ¬ content.HasDocumentBeside dirs
        else ∃ ext ∈ markdownExtensions, name = stem ++ "." ++ ext) ∧
      ∀ other, dirs ++ [other] ∈ content.visibleFiles [] → ¬ ComesBefore other name := by
  have hnames := named.isName_of_mem_visibleFiles hmem
  have hdirs : ∀ d ∈ dirs, IsName d.toList ∧ isHidden d = false :=
    fun d hd => hnames d (List.mem_append_left _ hd)
  unfold routeNames
  cases hindex : isIndexStem stem with
  | false => exact found?_concat_eq_concat_iff.trans (named.document?_eq_some_iff hmem hstem hindex)
  | true =>
    obtain ⟨inside, hinside⟩ :=
      exists_descend?_of_fileAt? (named.mem_visibleFiles_iff_fileAt?.mp hmem).1
    have hvisible : ∀ {n}, (n, false) ∈ inside.visible ↔ dirs ++ [n] ∈ content.visibleFiles [] :=
      named.mem_visible_iff_mem_visibleFiles hinside fun d hd => (hdirs d hd).2
    rw [if_pos rfl, if_pos rfl, found?_eq_concat_iff, getLast?_bind_document?_eq_none_iff named hdirs,
      hinside, Option.bind_some, (ordered.descend? hinside).index?_eq_some_iff]
    simp only [hvisible]
    exact and_congr_right fun _ => ⟨fun h => h.2.2, fun h => ⟨hmem, ⟨stem, hstem, hindex⟩, h⟩⟩

end Listing

namespace ContentTree

variable {t : ContentTree} {content : Listing} {segs names : List String}

/-- A path leads to the file of some names exactly if these names are found. -/
theorem exists_fileOf?_iff (named : content.WellNamed) (ordered : content.Ordered)
    (h : t.disk.dirAt? t.root = some content) (hsegs : ∀ s ∈ segs, IsStep s.toList)
    (hnames : ∀ s ∈ names, IsStep s.toList) :
    (∃ f, t.fileOf? (.ofSegments segs) = some f ∧ f.SamePlace (t.root.joinAll names)) ↔
      content.found? segs = some names := by
  obtain ⟨hroot, -⟩ := Disk.dirAt?_eq_some_iff.mp h
  have hfile := fileOf?_ofSegments h hsegs
  cases hfound : content.found? segs with
  | none =>
    rw [hfound] at hfile
    simp [hfile]
  | some names' =>
    rw [hfound] at hfile
    obtain ⟨f, hf, hsame⟩ := hfile
    constructor
    · rintro ⟨g, hg, hsame'⟩
      obtain rfl : f = g := Option.some.inj (hf.symm.trans hg)
      have hcomps := hsame.components.symm.trans hsame'.components
      rw [(DiskPath.joinAll_of_steps hroot hnames).2.2, (DiskPath.joinAll_of_steps hroot
        (Listing.isStep_of_found? named ordered hsegs hfound)).2.2] at hcomps
      rw [List.append_cancel_left hcomps]
    · intro he
      obtain rfl : names' = names := Option.some.inj he
      exact ⟨f, hf, hsame⟩

end ContentTree

/-! ### Sources and their files -/

section Sources

variable {content : Listing} {dirs : List String} {name stem other : String}

/-- The names on the way to a visible file are clean if they are plain. -/
theorem isClean_of_mem_visibleFiles {names : List String} (named : content.WellNamed)
    (hmem : names ∈ content.visibleFiles []) (plain : ∀ n ∈ names, IsPlain n) :
    ∀ n ∈ names, IsClean n.toList := by
  intro n hn
  obtain ⟨hname, hshown⟩ := named.isName_of_mem_visibleFiles hmem n hn
  exact isClean_of_isHidden_eq_false hname (plain n hn).no_quote hshown

/-- The route of a file is made of its names if they are plain. -/
theorem route_sourceOf_eq (c : Config) (named : content.WellNamed)
    (hmem : dirs ++ [name] ∈ content.visibleFiles []) (plain : ∀ n ∈ dirs ++ [name], IsPlain n)
    (hstem : documentStem? name = some stem) :
    (c.sourceOf (dirs ++ [name])).route = .ofSegments (Listing.routeNames dirs stem) ∧
      ∀ n ∈ Listing.routeNames dirs stem, IsClean n.toList := by
  have hclean := isClean_of_mem_visibleFiles named hmem plain
  have hcleanstem : IsClean stem.toList :=
    isClean_of_documentStem? hstem (hclean name (by simp))
      (named.isName_of_mem_visibleFiles hmem name (by simp)).2
  have hdirs : ∀ d ∈ dirs, IsClean d.toList := fun d hd => hclean d (List.mem_append_left _ hd)
  rw [c.route_sourceOf, ofString_relativeText fun n hn => ⟨hclean n hn, plain n hn⟩,
    ContentPath.route_ofSegments hclean hstem hcleanstem]
  unfold Listing.routeNames
  cases isIndexStem stem with
  | true => exact ⟨rfl, hdirs⟩
  | false =>
    refine ⟨rfl, List.forall_mem_append.mpr ⟨hdirs, ?_⟩⟩
    simpa using hcleanstem

/-- Files of which one comes before the other have one route. -/
theorem ComesBefore.route_sourceOf_eq (h : ComesBefore other name) (c : Config) (named : content.WellNamed)
    (hmem : dirs ++ [name] ∈ content.visibleFiles []) (hother : dirs ++ [other] ∈ content.visibleFiles [])
    (plain : ∀ n ∈ dirs ++ [name], IsPlain n) (hdocument : (documentStem? name).isSome) :
    (c.sourceOf (dirs ++ [other])).route = (c.sourceOf (dirs ++ [name])).route := by
  obtain ⟨hdirs, hname⟩ := List.forall_mem_append.mp plain
  have hroute : ∀ {n stem}, dirs ++ [n] ∈ content.visibleFiles [] → IsPlain n →
      documentStem? n = some stem →
        (c.sourceOf (dirs ++ [n])).route = .ofSegments (Listing.routeNames dirs stem) :=
    fun hn hplain hs => (Folio.route_sourceOf_eq c named hn
      (List.forall_mem_append.mpr ⟨hdirs, by simpa using hplain⟩) hs).1
  rcases h.alike with ⟨hindex, hindex'⟩ | ⟨stem, rfl, rfl⟩
  · have hplain := hindex.isPlain
    have hplain' := hindex'.isPlain
    obtain ⟨s, hs, hi⟩ := hindex
    obtain ⟨s', hs', hi'⟩ := hindex'
    rw [hroute hother hplain hs, hroute hmem hplain' hs', Listing.routeNames, Listing.routeNames, if_pos hi,
      if_pos hi']
  · obtain ⟨s, hs⟩ := Option.isSome_iff_exists.mp hdocument
    have hplain : IsPlain (stem ++ "." ++ "mdx") := hname _ List.mem_cons_self
    have hplain' : IsPlain (stem ++ "." ++ "md") :=
      ⟨by simpa using hplain.no_quote, by simpa using hplain.no_backslash⟩
    rw [hroute hother hplain' (documentStem?_md hs), hroute hmem hplain hs]

/-- The route of a visible file leads back to the file exactly if the names on the way are plain and the file
is found under its names. -/
theorem exists_fileOf?_sourceOf_iff (c : Config) {t : ContentTree} (named : content.WellNamed)
    (ordered : content.Ordered) (h : t.disk.dirAt? t.root = some content) (hroot : t.root = c.contentDirectory)
    (hmem : dirs ++ [name] ∈ content.visibleFiles []) (hstem : documentStem? name = some stem) :
    (∃ f, t.fileOf? (c.sourceOf (dirs ++ [name])).route = some f ∧
        f.SamePlace (c.sourceOf (dirs ++ [name])).file) ↔
      (∀ n ∈ dirs ++ [name], IsPlain n) ∧
        content.found? (Listing.routeNames dirs stem) = some (dirs ++ [name]) := by
  have hsteps := named.isStep_of_mem_visibleFiles hmem
  have hfile : (c.sourceOf (dirs ++ [name])).file = t.root.joinAll (dirs ++ [name]) := by
    rw [hroot]
    rfl
  rw [hfile]
  by_cases plain : ∀ n ∈ dirs ++ [name], IsPlain n
  · obtain ⟨hroute, hclean⟩ := route_sourceOf_eq c named hmem plain hstem
    rw [hroute, ContentTree.exists_fileOf?_iff named ordered h (fun n hn => (hclean n hn).isStep) hsteps]
    exact ⟨fun h => ⟨plain, h⟩, fun h => h.2⟩
  · -- a route is made of plain names, and so is what is found under it
    obtain ⟨segs, hroute, hsegs⟩ := ContentPath.exists_plain_segments_route (dirs ++ [name])
    rw [c.route_sourceOf, hroute,
      ContentTree.exists_fileOf?_iff named ordered h (fun n hn => (hsegs n hn).1.isStep) hsteps]
    exact ⟨fun h => absurd (Listing.isPlain_of_found? ordered (fun n hn => (hsegs n hn).2) h) plain,
      fun h => absurd h.1 plain⟩

/-- A visible file that the walk for sources does not come to is a link. -/
theorem exists_linked_of_not_mem_walkedFiles {names : List String} (named : content.WellNamed)
    (hmem : names ∈ content.visibleFiles []) (hnot : names ∉ content.walkedFiles) :
    ∃ target, content.fileAt? names = some (.linked target) := by
  obtain ⟨hfile, hshown⟩ := named.mem_visibleFiles_iff_fileAt?.mp hmem
  obtain ⟨c, hc⟩ := Option.isSome_iff_exists.mp hfile
  cases c with
  | linked target => exact ⟨target, hc⟩
  | text s => exact absurd (named.mem_walkedFiles_iff.mpr ⟨⟨_, hc, rfl⟩, hshown⟩) hnot
  | undecodable => exact absurd (named.mem_walkedFiles_iff.mpr ⟨⟨_, hc, rfl⟩, hshown⟩) hnot
  | unreadable => exact absurd (named.mem_walkedFiles_iff.mpr ⟨⟨_, hc, rfl⟩, hshown⟩) hnot

/-- Where no file outranks another one for its route, an ignore pattern fits each that comes before it in a
lookup and is no link. -/
theorem exists_pattern_of_comesBefore [Engines] {c : Config} {k : Nat} (named : content.WellNamed)
    (ordered : content.Ordered) (hk : content.walkedFiles[k]? = some (dirs ++ [name]))
    (hadmits : c.Admits (dirs ++ [name]))
    (hfirst : ∀ j names, content.walkedFiles[j]? = some names → c.Admits names →
      (c.sourceOf names).route = (c.sourceOf (dirs ++ [name])).route →
        ¬ Config.Outranks ((c.sourceOf names).rank, j) ((c.sourceOf (dirs ++ [name])).rank, k))
    (plain : ∀ n ∈ dirs ++ [name], IsPlain n) (hother : dirs ++ [other] ∈ content.walkedFiles)
    (hbefore : ComesBefore other name) :
    ∃ p ∈ c.patterns, p (relativeText (dirs ++ [other])) = true := by
  by_contra hnone
  have hvisible := content.walkedFiles_sublist.subset
  have hdocument : (documentStem? name).isSome := by
    have hmarkdown := hadmits.markdown
    rwa [List.getLastD_concat] at hmarkdown
  have hsame := hbefore.route_sourceOf_eq c named (hvisible (List.mem_of_getElem? hk)) (hvisible hother) plain
    hdocument
  have hadmits' : c.Admits (dirs ++ [other]) := by
    refine ⟨?_, fun p hp => ?_, ?_⟩
    · rw [List.getLastD_concat]
      exact hbefore.documentStem?_isSome hdocument
    · rw [← Bool.not_eq_true]
      exact fun hfit => hnone ⟨p, hp, hfit⟩
    · rw [← c.route_sourceOf (dirs ++ [other]), hsame, c.route_sourceOf (dirs ++ [name])]
      exact hadmits.included
  obtain ⟨j, hj⟩ := List.getElem?_of_mem hother
  have hrank : ∀ n, (c.sourceOf (dirs ++ [n])).rank = routeRank n := by
    intro n
    rw [Config.sourceOf, List.getLastD_concat]
  apply hfirst j _ hj hadmits' hsame
  rw [hrank, hrank]
  dsimp only [Config.Outranks]
  -- of two files of the same rank the one with the smaller name stands first in the walk
  refine hbefore.order.imp_right (And.imp_right fun hlt => ?_)
  apply ordered.lt_of_getElem?_walkedFiles hj hk
  exact List.append_left_lt (List.cons_lt_cons_iff.mpr (.inl hlt))

end Sources

namespace Site

variable {disk : Disk} {config : Config} {site : Site}

/-- **The file behind a route**: looking up the route of a source gives the file of the source exactly if
the names on the way to it are plain, no document lies beside the directory that it is the index of or, where
it is no index, its extension is written in small letters, and no other file of its directory comes before
it.  One that does is a link, or an ignore pattern fits it. -/
theorem fileOf?_route [Engines] (named : disk.WellNamed) (ordered : disk.Ordered)
    (loaded : Site.load disk config = .ok site) {r : ContentPath} {s : Source}
    (hs : site.sources[r]? = some s) :
    ∃ content dirs name stem, disk.dirAt? config.contentDirectory = some content ∧
      dirs ++ [name] ∈ content.walkedFiles ∧ config.sourceOf (dirs ++ [name]) = s ∧
      documentStem? name = some stem ∧
      ((∃ f, site.tree.fileOf? s.route = some f ∧ f.SamePlace s.file) ↔
        (∀ n ∈ dirs ++ [name], IsPlain n) ∧
          (if isIndexStem stem then ¬ content.HasDocumentBeside dirs
            else ∃ ext ∈ markdownExtensions, name = stem ++ "." ++ ext) ∧
          ∀ other, dirs ++ [other] ∈ content.visibleFiles [] → ¬ ComesBefore other name) ∧
      ((∀ n ∈ dirs ++ [name], IsPlain n) → ∀ other, dirs ++ [other] ∈ content.visibleFiles [] →
        ComesBefore other name →
          (∃ p ∈ config.patterns, p (relativeText (dirs ++ [other])) = true) ∨
            ∃ target, content.fileAt? (dirs ++ [other]) = some (.linked target)) := by
  obtain ⟨content, hcontent, htree, rfl, -⟩ := of_load_eq_ok loaded
  rw [sources_eq htree hcontent] at hs
  obtain ⟨rfl, k, names, hk, hadmits, rfl, hfirst⟩ := Config.exists_first hs
  have named' := named.dirAt? hcontent
  have ordered' := ordered.dirAt? hcontent
  have hwalked := List.mem_of_getElem? hk
  have hmem := content.walkedFiles_sublist.subset hwalked
  obtain ⟨dirs, name, rfl, -⟩ := Listing.exists_slugs_of_mem_visibleFiles hmem
  have hmarkdown := hadmits.markdown
  rw [List.getLastD_concat] at hmarkdown
  obtain ⟨stem, hstem⟩ := Option.isSome_iff_exists.mp hmarkdown
  refine ⟨content, dirs, name, stem, hcontent, hwalked, rfl, hstem, ?_, fun plain other hother hbefore => ?_⟩
  · have hdir : site.tree.disk.dirAt? site.tree.root = some content := by rw [htree]; exact hcontent
    have hroot : site.tree.root = site.config.contentDirectory := by rw [htree]
    rw [exists_fileOf?_sourceOf_iff site.config named' ordered' hdir hroot hmem hstem,
      Listing.found?_routeNames_iff named' ordered' hmem hstem]
  · by_cases hlink : dirs ++ [other] ∈ content.walkedFiles
    · exact .inl (exists_pattern_of_comesBefore named' ordered' hk hadmits hfirst plain hlink hbefore)
    · exact .inr (exists_linked_of_not_mem_walkedFiles named' hother hlink)

/-- A directory with two index files and a guide. -/
def guidesWithReadme : Disk where
  root := .dir "content" (.dir "guides" (.file "_index.md" (.text "Old") (.file "readme.md" (.text "Guides")
    (.file "setup.mdx" (.text "Setup") .nil))) .nil) .nil

/-- Whether every visible file lies in a directory of the content directory, is no link, and has plain names
and, unless it is an index, an extension in small letters. -/
def isOrderly (content : Listing) : Bool :=
  (content.visibleFiles []).all fun names =>
    (names.length == 2 && (content.fileAt? names).any (·.kind = .file)) &&
      names.all (fun n => decide (IsPlain n)) && (documentStem? (names.getLastD "")).all fun stem =>
        isIndexStem stem || markdownExtensions.any fun ext => names.getLastD "" == stem ++ "." ++ ext

/-- The sources of the guides, an index and a document, are found again by their routes. -/
theorem fileOf?_route_guidesWithReadme :
    let config := Config.ofDirectories "content" "out"
    guidesWithReadme.WellNamed ∧ guidesWithReadme.Ordered ∧
    ∃ site, Site.load guidesWithReadme config = .ok site ∧
      site.sources.toList.map (fun e => (e.1, e.2.file)) =
        [(⟨"/guides"⟩, ⟨"content/guides/readme.md"⟩), (⟨"/guides/setup"⟩, ⟨"content/guides/setup.mdx"⟩)] ∧
      ∀ (r : ContentPath) (s : Source), site.sources[r]? = some s →
        ∃ f, site.tree.fileOf? s.route = some f ∧ f.SamePlace s.file := by
  intro config
  have named : guidesWithReadme.WellNamed := by decide +kernel
  have ordered : guidesWithReadme.Ordered := by decide +kernel
  obtain ⟨site, loaded, hsources⟩ := exists_ok_of_any (Site.load guidesWithReadme config)
    (fun site => site.sources.toList.map (fun e => (e.1, e.2.file)) ==
      [(⟨"/guides"⟩, ⟨"content/guides/readme.md"⟩), (⟨"/guides/setup"⟩, ⟨"content/guides/setup.mdx"⟩)])
    (by decide +kernel)
  refine ⟨named, ordered, site, loaded, eq_of_beq hsources, fun r s hs => ?_⟩
  obtain ⟨content, dirs, name, stem, hcontent, hmem, -, hstem, hiff, hfit⟩ :=
    fileOf?_route named ordered loaded hs
  have horderly : (guidesWithReadme.dirAt? config.contentDirectory).all isOrderly = true := by decide +kernel
  rw [hcontent, Option.all_some] at horderly
  have hall := List.all_eq_true.mp horderly
  have hregular : ∀ names ∈ content.visibleFiles [], names.length = 2 ∧
      (content.fileAt? names).any (·.kind = .file) = true := by
    intro names hnames
    have hfirst := (Bool.and_eq_true_iff.mp (Bool.and_eq_true_iff.mp (hall names hnames)).1).1
    exact ⟨eq_of_beq (Bool.and_eq_true_iff.mp hfirst).1, (Bool.and_eq_true_iff.mp hfirst).2⟩
  have hvisible := content.walkedFiles_sublist.subset hmem
  obtain ⟨hnames, hsmall⟩ := Bool.and_eq_true_iff.mp (hall _ hvisible)
  obtain ⟨-, hplain⟩ := Bool.and_eq_true_iff.mp hnames
  have plain : ∀ n ∈ dirs ++ [name], IsPlain n := fun n hn =>
    of_decide_eq_true (List.all_eq_true.mp hplain n hn)
  refine hiff.mpr ⟨plain, ?_, fun other hother hbefore => ?_⟩
  · rw [List.getLastD_concat, hstem, Option.all_some] at hsmall
    cases hindex : isIndexStem stem with
    | true =>
      -- a document beside a directory would lie in the content directory itself
      rintro ⟨above, last, ext, rfl, -, hbeside⟩
      have hlength := (hregular _ hvisible).1
      have hlength' := (hregular _ hbeside).1
      simp only [List.length_append, List.length_singleton] at hlength hlength'
      omega
    | false =>
      rw [hindex, Bool.false_or] at hsmall
      obtain ⟨ext, hext, he⟩ := List.any_eq_true.mp hsmall
      exact ⟨ext, hext, eq_of_beq he⟩
  · have hnone : config.patterns = [] := rfl
    rcases hfit plain other hother hbefore with ⟨p, hp, -⟩ | ⟨target, htarget⟩
    · rw [hnone] at hp
      cases hp
    · have hfile := (hregular _ hother).2
      rw [htarget] at hfile
      cases hfile

/-- A document beside a directory of its name, and one with its extension in capital letters. -/
def unevenNames : Disk where
  root := .dir "content" (.dir "a" (.file "readme.md" (.text "Readme") .nil) (.file "a.md" (.text "A")
    (.file "b.MD" (.text "B") .nil))) .nil

/-- For the two routes there are sources, but the lookup gives another file or none. -/
theorem exists_source_not_fileOf? :
    let config := Config.ofDirectories "content" "out"
    unevenNames.WellNamed ∧ unevenNames.Ordered ∧ ∃ site, Site.load unevenNames config = .ok site ∧
      (∃ s, site.sources[ContentPath.mk "/a"]? = some s ∧ s.file = ⟨"content/a/readme.md"⟩ ∧
        site.tree.fileOf? s.route = some ⟨"content/a.md"⟩) ∧
      ∃ s, site.sources[ContentPath.mk "/b"]? = some s ∧ s.file = ⟨"content/b.MD"⟩ ∧
        site.tree.fileOf? s.route = none := by
  intro config
  obtain ⟨site, loaded, hsite⟩ := exists_ok_of_any (Site.load unevenNames config)
    (fun site =>
      site.sources[ContentPath.mk "/a"]?.any (fun s => s.file = ⟨"content/a/readme.md"⟩ ∧
        site.tree.fileOf? s.route = some ⟨"content/a.md"⟩) &&
      site.sources[ContentPath.mk "/b"]?.any fun s => s.file = ⟨"content/b.MD"⟩ ∧
        site.tree.fileOf? s.route = none)
    (by decide +kernel)
  obtain ⟨ha, hb⟩ := Bool.and_eq_true_iff.mp hsite
  obtain ⟨s, hs, hfile⟩ := Option.any_eq_true _ _ |>.mp ha
  obtain ⟨s', hs', hfile'⟩ := Option.any_eq_true _ _ |>.mp hb
  exact ⟨by decide +kernel, by decide +kernel, site, loaded, ⟨s, hs, of_decide_eq_true hfile⟩,
    s', hs', of_decide_eq_true hfile'⟩

end Site

end Folio
