import Folio.Html.Allowed
import Folio.Proofs.AliasEntries
import Folio.Proofs.Cells
import Folio.Proofs.ElementClasses
import Folio.Proofs.HeadingIds
import Folio.Proofs.LinkRoutes
import Folio.Proofs.NormalPaths
import Folio.Proofs.SafeForest

/-! # Where links and images lead

A link that is not left as written leads to a path in normal form, whatever its path is made of: a
reference is always read anew (`isNormal_resolveReference`), and the short path of a route in normal form
is in normal form as well, since an alias puts the same names behind its two sides
(`AliasGraph.Made.isNormal_key`).  Such an address starts with one slash, so the sanitizer keeps it and
the page marks it as a link inside the site (`hasClass_of_isInternalUrl`).

An image is rooted under the prefix of static assets.  Its path has been read to the end before the prefix
is put in front, so no `..` in it is left to go back over the prefix (`segments_append_text`). -/

namespace Folio

open ContentPath

/-! ### Short paths -/

/-- An alias graph as it comes about: built from a manifest over a tree, or made of a table whose short
paths are in normal form. -/
inductive AliasGraph.Made : AliasGraph → Prop
  | built (manifest : RawManifest) (tree : ContentTree) (reserved : List String) :
      Made (build manifest tree reserved).1
  | expanded (table : PathMap) (h : ∀ key, key ∈ table → IsNormal key.text) : Made (ofExpanded table)

namespace ContentPath

variable {p : ContentPath} {names : List String}

theorem eq_of_text_eq {q : ContentPath} (h : p.text = q.text) : p = q := by
  cases p
  cases q
  exact congrArg ContentPath.mk h

theorem isNormal_iff_exists_names :
    IsNormal p.text ↔ ∃ names : List String, (∀ n ∈ names, IsClean n.toList) ∧ p = ofSegments names := by
  rw [isNormal_iff]
  constructor
  · rintro ⟨names, hnames, htext⟩
    exact ⟨names, hnames, eq_of_text_eq htext⟩
  · rintro ⟨names, hnames, rfl⟩
    exact ⟨names, hnames, rfl⟩

theorem written_of_isClean (h : ∀ n ∈ names, IsClean n.toList) :
    written names = (names.map String.toList).flatMap ('/' :: ·) := by
  rw [written, filter_names (List.forall_mem_map.mpr fun n hn => (h n hn).isName)]

theorem written_eq_nil_or_cons (c : List String) : written c = [] ∨ ∃ rest, written c = '/' :: rest := by
  unfold written
  generalize (c.map String.toList).filter (· ≠ []) = segments
  cases segments with
  | nil => exact .inl rfl
  | cons s segments => exact .inr ⟨s ++ segments.flatMap ('/' :: ·), rfl⟩

/-- If a path of names is in normal form with some segments behind it, these stand for clean names. -/
theorem exists_written_of_isNormal_extend {raw : String} {c : List String}
    (h : IsNormal ((ofString raw).extend c).text) :
    ∃ more : List String, (∀ n ∈ more, IsClean n.toList) ∧ written c = written more := by
  obtain ⟨names, hnames, hsame⟩ := isNormal_iff_exists_names.mp h
  rw [extend, segments_ofString, ofSegments_eq_ofSegments_iff, written_append,
    written_of_isClean hnames, written_of_isClean fun n hn => isClean_of_mem_cleanNames hn] at hsame
  obtain hnil | ⟨rest, hrest⟩ := written_eq_nil_or_cons c
  · exact ⟨[], List.forall_mem_nil _, hnil⟩
  · -- the names of the whole are those of the path and then the pieces of the rest
    have hpieces := congrArg (Text.pieces isSlash) hsame
    rw [hrest, Text.pieces_append (by decide), pieces_flatMap (List.forall_mem_map.mpr fun n hn =>
      (isClean_of_mem_cleanNames hn).isName), pieces_flatMap (List.forall_mem_map.mpr fun n hn =>
      (hnames n hn).isName), List.cons_append, List.cons.injEq] at hpieces
    have hclean : ∀ s ∈ Text.pieces isSlash rest, IsClean s := by
      intro s hs
      obtain ⟨n, hn, rfl⟩ := List.mem_map.mp (hpieces.2 ▸ List.mem_append_right _ hs)
      exact hnames n hn
    have hmore : ∀ n ∈ (Text.pieces isSlash rest).map String.ofList, IsClean n.toList :=
      List.forall_mem_map.mpr fun s hs => by
        rw [String.toList_ofList]
        exact hclean s hs
    refine ⟨_, hmore, ?_⟩
    rw [written_of_isClean hmore, List.map_map, hrest, ← flatMap_pieces]
    simp [Function.comp_def]

end ContentPath

namespace AliasGraph

variable {g : AliasGraph} {key target : ContentPath}

/-- A short path that leads to a path in normal form is in normal form. -/
theorem Made.isNormal_key (hg : g.Made) (h : g.target? key = some target) (htarget : IsNormal target.text) :
    IsNormal key.text := by
  cases hg with
  | built manifest tree reserved =>
    obtain ⟨e, he, c, -, rfl, rfl⟩ := exists_of_target?_build h
    obtain ⟨raw, -, rfl⟩ := List.mem_map.mp (mem_entries_iff.mp he).1
    obtain ⟨more, hmore, hsame⟩ := exists_written_of_isNormal_extend htarget
    have hkey : (ofString raw.1).extend c = ofSegments (cleanNames raw.1 ++ more) := by
      rw [extend, segments_ofString, ofSegments_eq_ofSegments_iff, written_append, written_append, hsame]
    rw [hkey]
    refine isNormal_text_ofSegments fun n hn => ?_
    obtain hn | hn := List.mem_append.mp hn
    · exact isClean_of_mem_cleanNames hn
    · exact hmore n hn
  | expanded table hkeys =>
    apply hkeys key
    rw [Std.TreeMap.mem_iff_isSome_getElem?]
    have hentry : table[key]? = some target := h
    rw [hentry]
    rfl

/-- The graph of raw aliases is made of paths in normal form. -/
theorem made_ofRaw (aliases : List (String × String)) : (ofRaw aliases).Made := by
  refine .expanded _ fun key hkey => ?_
  rw [Std.TreeMap.mem_ofList, List.contains_iff_mem, List.map_map] at hkey
  obtain ⟨raw, -, rfl⟩ := List.mem_map.mp hkey
  exact isNormal_ofString raw.1

end AliasGraph

/-! ### Addresses -/

namespace Markup

variable {d : ContentPath} {g : AliasGraph} {address : String} {path suffix : List Char}

/-- An address is a path, which is not empty, and a suffix from the first `?` or `#` on. -/
structure Splits (address : String) (path suffix : List Char) : Prop where
  spelled : address.toList = path ++ suffix
  path_ne_nil : path ≠ []
  path_plain : ∀ c ∈ path, startsSuffix c = false
  suffix_starts : ∀ c ∈ suffix.head?, startsSuffix c = true

theorem Splits.linkPath_eq (h : Splits address path suffix) : linkPath address.toList = path := by
  have hplain : ∀ c ∈ path, (!startsSuffix c) = true := fun c hc => by simp [h.path_plain c hc]
  rw [linkPath, h.spelled, List.takeWhile_append_of_pos hplain]
  cases hsuffix : suffix with
  | nil => simp
  | cons c cs =>
    have hstart : startsSuffix c = true := h.suffix_starts c (by simp [hsuffix])
    simp [hstart]

theorem Splits.linkSuffix_eq (h : Splits address path suffix) : linkSuffix address.toList = suffix := by
  have hsplit : linkPath address.toList ++ linkSuffix address.toList = path ++ suffix :=
    List.takeWhile_append_dropWhile.trans h.spelled
  rw [h.linkPath_eq] at hsplit
  exact List.append_cancel_left hsplit

/-- Every address with a path is split. -/
theorem splits_of_linkPath (h : linkPath address.toList ≠ []) :
    Splits address (linkPath address.toList) (linkSuffix address.toList) where
  spelled := List.takeWhile_append_dropWhile.symm
  path_ne_nil := h
  path_plain c hc := by simpa using List.mem_takeWhile_imp hc
  suffix_starts c hc := by
    have hhead := List.head?_dropWhile_not (!startsSuffix ·) address.toList
    rw [← linkSuffix, Option.mem_def.mp hc] at hhead
    simpa using hhead

theorem isNormal_resolveReference (d : ContentPath) (path : String) :
    IsNormal (resolveReference d path).text := by
  unfold resolveReference
  split
  · exact isNormal_ofString path
  · exact isNormal_join d.parent path

/-- The route that the path of a link leads to. -/
def linkRoute (d : ContentPath) (path : List Char) : ContentPath :=
  (resolveReference d (String.ofList (dropMarkdownExtensionChars path))).collapseIndex

theorem isNormal_linkRoute (d : ContentPath) (path : List Char) : IsNormal (linkRoute d path).text :=
  (isNormal_resolveReference d _).collapseIndex

/-- A link that is not left as written and has a path is its route, or the short path that exposes it, and
its suffix. -/
theorem servedLink_of_linkPath (d : ContentPath) (g : AliasGraph)
    (hs : staysAsWritten address.toList = false) (hpath : linkPath address.toList ≠ []) :
    servedLink d g address =
      ((g.key? (linkRoute d (linkPath address.toList))).getD (linkRoute d (linkPath address.toList))).text ++
        String.ofList (linkSuffix address.toList) := by
  have hne : (linkPath address.toList).isEmpty = false := by simpa using hpath
  simp only [servedLink, hs, hne]
  simp [linkRoute]

theorem isNormal_getD_key? (hg : g.Made) {route : ContentPath} (h : IsNormal route.text) :
    IsNormal ((g.key? route).getD route).text := by
  cases hkey : g.key? route with
  | none => exact h
  | some key =>
    have hexposes := (g.key?_eq_some_iff route key).mp hkey
    exact hg.isNormal_key hexposes.1 h

/-! ### Addresses inside the site -/

/-- A path in normal form starts with one slash, and so it does with a suffix behind it. -/
theorem isInternalUrl_of_isNormal {s : String} (h : IsNormal s)
    (hsuffix : ∀ c ∈ suffix.head?, startsSuffix c = true) :
    Html.isInternalUrl (s ++ String.ofList suffix) = true := by
  obtain ⟨rest, hrest⟩ := List.head?_eq_some_iff.mp h.starts
  have hone : (rest ++ suffix).head? ≠ some '/' := by
    cases rest with
    | nil =>
      intro hslash
      have hstart := hsuffix '/' hslash
      revert hstart
      decide
    | cons c cs =>
      rw [List.cons_append, List.head?_cons]
      rintro ⟨⟩
      -- behind two slashes at the start there would be an empty segment
      obtain rfl | hsegments := h.segments
      · simp at hrest
      · rw [hrest, List.drop_one, List.tail_cons, Text.pieces_cons_of_pos (by decide)] at hsegments
        exact (hsegments [] List.mem_cons_self).1 rfl
  have hchars : (s ++ String.ofList suffix).toList = '/' :: (rest ++ suffix) := by
    rw [String.toList_append, String.toList_ofList, hrest, List.cons_append]
  unfold Html.isInternalUrl
  rw [hchars]
  cases hcs : rest ++ suffix with
  | nil => decide
  | cons c cs =>
    rw [hcs, List.head?_cons, ne_eq, Option.some.injEq] at hone
    simp [List.isPrefixOf, Ne.symm hone]

/-- The sanitizer keeps an address that starts with a slash. -/
theorem isAllowedAddress_of_isInternalUrl {url : String} (h : Html.isInternalUrl url = true) :
    Html.isAllowedAddress url = true := by
  obtain ⟨hslash, -⟩ := (Bool.and_eq_true _ _).mp h
  obtain ⟨rest, hrest⟩ := List.isPrefixOf_iff_prefix.mp hslash
  have hkeep : (!Unicode.isBlank '/' && !Unicode.isControl '/') = true := by decide
  have hends : (!Html.endsProtocol '/') = false := by decide
  have hchars : url.toList = '/' :: rest := hrest.symm
  simp only [Html.isAllowedAddress, hchars, List.filter_cons, hkeep, if_true, List.dropWhile_cons, hends]
  rfl

end Markup

/-! ### Marked links -/

namespace Html

theorem hasClass_markInternalLink {e : Element} {url : String} (htag : e.tag = "a")
    (hhref : e.attr? "href" = some url) (h : isInternalUrl url = true) :
    (markInternalLink e).hasClass "internal-link" = true := by
  unfold markInternalLink
  rw [if_pos ⟨htag, by rw [hhref]; exact h⟩]
  exact e.hasClass_addClass (by decide +kernel)

namespace Tree

theorem element?_modifyElement (t : Tree) (id : NodeId) (f : Element → Element) (n : NodeId) :
    (t.modifyElement id f).element? n = if n = id then (t.element? n).map f else t.element? n := by
  have hcell := cell_modifyElement (t := t) id f n
  by_cases hn : n = id
  · subst hn
    rw [if_pos rfl] at hcell ⊢
    rw [element?, element?, hcell]
    cases (t.cell n).kind <;> rfl
  · rw [if_neg hn] at hcell ⊢
    rw [element?, element?, hcell]

/-- A change that is made once or more to the elements of a list. -/
theorem element?_foldl_modifyElement {f : Element → Element} (hf : ∀ e, f (f e) = f e)
    (ids : List NodeId) (t : Tree) (n : NodeId) :
    (ids.foldl (fun t id => t.modifyElement id f) t).element? n =
      if n ∈ ids then (t.element? n).map f else t.element? n := by
  induction ids generalizing t with
  | nil => rfl
  | cons id ids ih =>
    rw [List.foldl_cons, ih, element?_modifyElement]
    by_cases hid : n = id
    · subst hid
      have htwice : f ∘ f = f := funext hf
      simp [Option.map_map, htwice]
    · simp [hid]

/-- The elements below a node are changed if they are to be. -/
theorem element?_modifyBelow {f : Element → Element} (hf : ∀ e, f (f e) = f e) (t : Tree) (root : NodeId)
    (q : Element → Bool) (n : NodeId) :
    (t.modifyBelow root q f).element? n =
      if n ∈ t.elementsBelow root q then (t.element? n).map f else t.element? n :=
  element?_foldl_modifyElement hf _ t n

/-- A link below a node that leads inside the site is marked. -/
theorem isElementOf_marked {t : Tree} {root n : NodeId} {e : Element} {url : String}
    (hn : n ∈ t.descendants root) (he : t.element? n = some e) (htag : e.tag = "a")
    (hhref : e.attr? "href" = some url) (h : isInternalUrl url = true) :
    (t.modifyBelow root (·.tag == "a") markInternalLink).isElementOf n (·.hasClass "internal-link") =
      true := by
  have hmem : n ∈ t.elementsBelow root (·.tag == "a") := by
    rw [elementsBelow, List.mem_filter]
    exact ⟨hn, by simp [isElementOf, he, htag]⟩
  rw [isElementOf, element?_modifyBelow markInternalLink_markInternalLink, if_pos hmem, he]
  exact hasClass_markInternalLink htag hhref h

end Tree

end Html

/-! ### Images -/

namespace ContentPath

variable {names : List String}

/-- The text of a path as it is written in front of another; the root is left out. -/
def prefixText (p : ContentPath) : String := if p.isRoot then "" else p.text

theorem stackOf_prefixText (h : ∀ n ∈ names, IsClean n.toList) :
    stackOf (prefixText (ofSegments names)).toList = (names.map String.toList).reverse := by
  unfold prefixText
  split
  · rename_i hroot
    rw [isRoot_ofSegments fun n hn => (h n hn).isName] at hroot
    rw [hroot]
    rfl
  · exact stackOf_text_ofSegments h

/-- A path that is written behind another, both in normal form, leads to its names behind those of the
other: there is no `..` left in it. -/
theorem segments_append_text (base raw : String) :
    (ofString (prefixText (ofString base) ++ (ofString raw).text)).segments =
      (ofString base).segments ++ (ofString raw).segments := by
  have hstack : stackOf (prefixText (ofString base) ++ (ofString raw).text).toList =
      ((cleanNames base ++ cleanNames raw).map String.toList).reverse := by
    rw [ofString_eq_ofSegments base, ofString_eq_ofSegments raw, String.toList_append,
      stackOf_append_text _ fun n hn => isClean_of_mem_cleanNames hn,
      stackOf_prefixText fun n hn => isClean_of_mem_cleanNames hn, List.map_append, List.reverse_append]
  rw [segments_ofString, segments_ofString, segments_ofString, cleanNames, hstack, List.reverse_reverse,
    List.map_map]
  simp [Function.comp_def]

/-- So the path lies below the other one. -/
theorem startsWith_append_text (base raw : String) :
    (ofString (prefixText (ofString base) ++ (ofString raw).text)).startsWith (ofString base) = true := by
  have hsegments := segments_append_text base raw
  generalize prefixText (ofString base) ++ (ofString raw).text = whole at hsegments ⊢
  rw [segments_ofString, segments_ofString, segments_ofString] at hsegments
  rw [ofString_eq_ofSegments, ofString_eq_ofSegments base, startsWith_ofSegments_iff
    (fun n hn => (isClean_of_mem_cleanNames hn).isName) fun n hn => (isClean_of_mem_cleanNames hn).isName,
    hsegments]
  exact List.prefix_append _ _

end ContentPath

namespace Markup

theorem exists_resolveReference_eq_ofString (d : ContentPath) (path : String) :
    ∃ raw, resolveReference d path = ofString raw := by
  unfold resolveReference
  split
  · exact ⟨_, rfl⟩
  · unfold join
    split <;> exact ⟨_, rfl⟩

/-- An image is left as it is, or it has a path and becomes that path behind the prefix and its suffix. -/
theorem servedImage_cases (d : ContentPath) (assetPrefix address : String) :
    servedImage d assetPrefix address = address ∧
        (staysAsWritten address.toList = true ∨ address.toList.head? = some '/' ∨
          linkPath address.toList = []) ∨
      linkPath address.toList ≠ [] ∧
        servedImage d assetPrefix address =
          prefixText (ofString assetPrefix) ++
            (resolveReference d (String.ofList (linkPath address.toList))).text ++
              String.ofList (linkSuffix address.toList) := by
  unfold servedImage
  dsimp only
  split
  · rename_i hleft
    rw [Bool.or_eq_true, Bool.or_eq_true, beq_iff_eq, List.isEmpty_iff, or_assoc] at hleft
    exact .inl ⟨rfl, hleft⟩
  · rename_i hrewritten
    rw [Bool.not_eq_true, Bool.or_eq_false_iff, List.isEmpty_eq_false_iff] at hrewritten
    exact .inr ⟨hrewritten.2, rfl⟩

/-- **Links and images stay where they belong**: a link that is not left as written and has a path becomes
a path in normal form with its suffix behind it; so it starts with one slash, the sanitizer keeps it and
every link with this address is marked as one inside the site.  An image is left as it is for one of three
reasons, or it becomes a path that leads to its own names below the prefix of static assets, with its
suffix behind it. -/
theorem served_confined (d : ContentPath) {g : AliasGraph} (hg : g.Made) (assetPrefix address : String) :
    (∀ path suffix, Splits address path suffix → staysAsWritten address.toList = false →
      ∃ p : ContentPath, IsNormal p.text ∧ servedLink d g address = p.text ++ String.ofList suffix ∧
        "/".toList <+: (servedLink d g address).toList ∧ ¬ "//".toList <+: (servedLink d g address).toList ∧
        Html.isAllowedAddress (servedLink d g address) = true ∧
        ∀ (t : Html.Tree) (root n : Html.NodeId) (e : Html.Element), n ∈ t.descendants root →
          t.element? n = some e → e.tag = "a" → e.attr? "href" = some (servedLink d g address) →
          (t.modifyBelow root (·.tag == "a") Html.markInternalLink).isElementOf n
            (·.hasClass "internal-link") = true) ∧
    (servedImage d assetPrefix address = address ∧
        (staysAsWritten address.toList = true ∨ address.toList.head? = some '/' ∨
          linkPath address.toList = []) ∨
      ∃ path suffix, Splits address path suffix ∧
        ∃ p : String, servedImage d assetPrefix address = p ++ String.ofList suffix ∧
          (ofString p).startsWith (ofString assetPrefix) = true ∧
          (ofString p).segments = (ofString assetPrefix).segments ++
            (resolveReference d (String.ofList path)).segments) := by
  constructor
  · intro path suffix h hs
    have hnormal := isNormal_getD_key? hg (isNormal_linkRoute d path)
    have hserved := servedLink_of_linkPath d g hs (h.linkPath_eq ▸ h.path_ne_nil)
    rw [h.linkPath_eq, h.linkSuffix_eq] at hserved
    have hinternal : Html.isInternalUrl (servedLink d g address) = true := by
      rw [hserved]
      exact isInternalUrl_of_isNormal hnormal h.suffix_starts
    obtain ⟨hone, htwo⟩ := (Bool.and_eq_true _ _).mp hinternal
    refine ⟨_, hnormal, hserved, List.isPrefixOf_iff_prefix.mp hone, ?_,
      isAllowedAddress_of_isInternalUrl hinternal, ?_⟩
    · intro hslashes
      rw [List.isPrefixOf_iff_prefix.mpr hslashes] at htwo
      cases htwo
    · intro t root n e hn he htag hhref
      exact Html.Tree.isElementOf_marked hn he htag hhref hinternal
  · obtain hleft | ⟨hpath, himage⟩ := servedImage_cases d assetPrefix address
    · exact .inl hleft
    · obtain ⟨raw, hraw⟩ :=
        exists_resolveReference_eq_ofString d (String.ofList (linkPath address.toList))
      refine .inr ⟨_, _, splits_of_linkPath hpath, _, himage, ?_, ?_⟩
      · rw [hraw]
        exact startsWith_append_text assetPrefix raw
      · rw [hraw]
        exact segments_append_text assetPrefix raw

/-- An address with more steps back than its document has directories, a quotation mark in one of them;
its readme stands for a directory with a short path. -/
theorem served_confined_quotedSteps :
    let address := "../../..//x/\"../c/ReadMe.md?v=2#top"
    let g := AliasGraph.ofRaw [("/s", "/c")]
    g.Made ∧ Splits address "../../..//x/\"../c/ReadMe.md".toList "?v=2#top".toList ∧
      staysAsWritten address.toList = false ∧
      servedLink ⟨"/a/b/doc.md"⟩ g address = "/s?v=2#top" ∧
      Html.isAllowedAddress "/s?v=2#top" = true ∧
      servedImage ⟨"/a/b/doc.md"⟩ "/static//img/" address = "/static/img/c/ReadMe.md?v=2#top" ∧
      ∃ p : String, "/static/img/c/ReadMe.md?v=2#top" = p ++ "?v=2#top" ∧
        (ofString p).startsWith (ofString "/static//img/") = true := by
  intro address g
  have hplain : "../../..//x/\"../c/ReadMe.md".toList.all (fun c => !startsSuffix c) = true := by decide
  have hsplits : Splits address "../../..//x/\"../c/ReadMe.md".toList "?v=2#top".toList :=
    ⟨by decide, by decide, by simpa only [List.all_eq_true, Bool.not_eq_true'] using hplain,
      by rintro _ ⟨⟩; rfl⟩
  have hs : staysAsWritten address.toList = false := by decide +kernel
  have hg : g.Made := AliasGraph.made_ofRaw _
  have hlink : servedLink ⟨"/a/b/doc.md"⟩ g address = "/s?v=2#top" := by decide +kernel
  have himage : servedImage ⟨"/a/b/doc.md"⟩ "/static//img/" address = "/static/img/c/ReadMe.md?v=2#top" := by
    decide +kernel
  have hchanged : "/static/img/c/ReadMe.md?v=2#top" ≠ address := by decide
  obtain ⟨hlinks, himages⟩ := served_confined ⟨"/a/b/doc.md"⟩ hg "/static//img/" address
  obtain ⟨-, -, -, -, -, hallowed, -⟩ := hlinks _ _ hsplits hs
  rw [hlink] at hallowed
  rw [himage] at himages
  obtain ⟨hsame, -⟩ | ⟨path, suffix, hsplits', p, hp, hbelow, -⟩ := himages
  · exact absurd hsame hchanged
  · have hsuffix : suffix = "?v=2#top".toList := hsplits'.linkSuffix_eq.symm.trans hsplits.linkSuffix_eq
    rw [hsuffix, String.ofList_toList] at hp
    exact ⟨hg, hsplits, hs, hlink, hallowed, himage, p, hp, hbelow⟩

end Markup

end Folio
