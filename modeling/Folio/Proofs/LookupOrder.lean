import Folio.Proofs.FileLookup
import Folio.Proofs.ShortPaths
import Folio.Proofs.WalkOrder

/-! # Which file a lookup finds

Of the index files of a directory a lookup finds the first by rank and then by name
(`Listing.index?_eq_some_iff`), as the table of sources does.  Of the documents of one name it finds the one
with the first extension that is written in small letters (`Listing.document?_eq_some_iff`), and these it
finds before the index of a directory of that name (`Listing.found?_eq_index_iff`). -/

namespace Folio

open ContentPath (IsName)

/-! ### Names of documents -/

variable {name other stem : String}

/-- What follows the stem of a document is a markdown extension, up to the case of letters. -/
theorem exists_extension_of_documentStem? (h : documentStem? name = some stem) :
    ∃ ext, name.toList = stem.toList ++ '.' :: ext ∧
      ∃ e ∈ markdownExtensions, Text.eqIgnoringCase ext e.toList = true := by
  obtain ⟨cs, hcs, rfl⟩ := Option.map_eq_some_iff.mp h
  unfold markdownStemChars? at hcs
  split at hcs
  · cases hcs
  · rename_i front ext hsplit
    split at hcs
    · rename_i hknown
      obtain rfl : front = cs := Option.some.inj hcs
      refine ⟨ext, ?_, List.any_eq_true.mp hknown.2⟩
      rw [String.toList_ofList, eq_of_splitAtLast hsplit]
    · cases hcs

theorem documentStem?_document {ext : String} (hstem : stem ≠ "") (hext : ext ∈ markdownExtensions) :
    documentStem? (stem ++ "." ++ ext) = some stem := by
  have hknown : '.' ∉ ext.toList ∧
      markdownExtensions.any (fun e => Text.eqIgnoringCase ext.toList e.toList) = true := by
    revert ext
    decide
  have hlist : (stem ++ "." ++ ext).toList = stem.toList ++ '.' :: ext.toList := by simp
  have hne : stem.toList ≠ [] := fun e => hstem (String.toList_eq_nil_iff.mp e)
  rw [documentStem?, markdownStemChars?, hlist, splitAtLast_append _ hknown.1]
  dsimp only
  rw [if_pos ⟨hne, hknown.2⟩]
  simp

/-- A markdown file whose stem makes it the index of its directory. -/
def IsIndexName (name : String) : Prop := ∃ stem, documentStem? name = some stem ∧ isIndexStem stem = true

theorem isIndexName_iff :
    IsIndexName name ↔ isIndexFile "readme" name = true ∨ isIndexFile "_index" name = true := by
  unfold IsIndexName isIndexFile
  cases documentStem? name with
  | none => simp
  | some stem => simp [isIndexStem, indexStems]

/-- A readme stands before any other index file. -/
theorem routeRank_of_isIndexName (h : IsIndexName name) :
    routeRank name = if isIndexFile "readme" name then 0 else 1 := by
  obtain ⟨stem, hstem, hindex⟩ := h
  unfold routeRank isIndexFile
  rw [hstem]
  cases hreadme : isStem stem "readme" with
  | true => simp [indexStems, List.findIdx?_cons, hreadme]
  | false =>
    have hother : isStem stem "_index" = true := by simpa [isIndexStem, indexStems, hreadme] using hindex
    simp [indexStems, List.findIdx?_cons, hreadme, hother]

/-- `ComesBefore name other`: of two files of one directory that have one route, a lookup comes to `name`
first.  They are index files, or a document of one stem with the first and with the second extension, and
`name` has the lower rank or, if the ranks are the same, is the smaller name. -/
structure ComesBefore (name other : String) : Prop where
  order : routeRank name < routeRank other ∨ routeRank name = routeRank other ∧ name < other
  alike : IsIndexName name ∧ IsIndexName other ∨
    ∃ stem, name = stem ++ "." ++ "md" ∧ other = stem ++ "." ++ "mdx"

theorem documentStem?_of_mdx (h : documentStem? (stem ++ "." ++ "mdx") = some other) : other = stem := by
  by_cases hstem : stem = ""
  · subst hstem
    have hnone : documentStem? ("" ++ "." ++ "mdx") = none := by decide +kernel
    rw [hnone] at h
    cases h
  · exact Option.some.inj (h.symm.trans (documentStem?_document hstem (by decide)))

/-- A document with the first extension has the stem of the one with the second. -/
theorem documentStem?_md (h : documentStem? (stem ++ "." ++ "mdx") = some other) :
    documentStem? (stem ++ "." ++ "md") = some other := by
  obtain rfl := documentStem?_of_mdx h
  have hstem : other ≠ "" := fun e => (eq_of_documentStem? h).1 (by rw [e]; rfl)
  exact documentStem?_document hstem (by decide)

theorem routeRank_congr (h : documentStem? name = documentStem? other) (hsome : (documentStem? name).isSome) :
    routeRank name = routeRank other := by
  obtain ⟨stem, hstem⟩ := Option.isSome_iff_exists.mp hsome
  unfold routeRank
  rw [← h, hstem]
  rfl

/-- A document with the first extension comes before the one with the second. -/
theorem comesBefore_mdx (h : (documentStem? (stem ++ "." ++ "mdx")).isSome) :
    ComesBefore (stem ++ "." ++ "md") (stem ++ "." ++ "mdx") := by
  obtain ⟨s, hs⟩ := Option.isSome_iff_exists.mp h
  refine ⟨.inr ⟨routeRank_congr ((documentStem?_md hs).trans hs.symm) ?_, ?_⟩, .inr ⟨stem, rfl, rfl⟩⟩
  · rw [documentStem?_md hs]
    rfl
  · have hlt : "md".toList < "mdx".toList := by decide
    have hlists : (stem ++ ".").toList ++ "md".toList < (stem ++ ".").toList ++ "mdx".toList :=
      List.append_left_lt hlt
    rwa [← String.toList_append, ← String.toList_append, ← String.lt_iff] at hlists

theorem ComesBefore.documentStem?_isSome (h : ComesBefore name other)
    (hother : (documentStem? other).isSome) : (documentStem? name).isSome := by
  rcases h.alike with ⟨⟨stem, hstem, -⟩, -⟩ | ⟨stem, rfl, rfl⟩
  · rw [hstem]
    rfl
  · obtain ⟨s, hs⟩ := Option.isSome_iff_exists.mp hother
    rw [documentStem?_md hs]
    rfl

theorem ComesBefore.isIndexName (h : ComesBefore name other) (hother : IsIndexName other) :
    IsIndexName name := by
  rcases h.alike with ⟨hname, -⟩ | ⟨stem, rfl, rfl⟩
  · exact hname
  · obtain ⟨s, hs, hindex⟩ := hother
    exact ⟨s, documentStem?_md hs, hindex⟩

namespace Listing

variable {l content inside : Listing} {dirs : List String}

/-! ### Index files -/

/-- Among the visible files that are an index under a stem, the one of the smallest name is found. -/
theorem Ordered.of_find?_index (hl : l.Ordered) {s : String} {e : String × Bool}
    (h : (l.visible.find? fun e => !e.2 && isIndexFile s e.1) = some e) :
    (e.1, false) ∈ l.visible ∧ isIndexFile s e.1 = true ∧
      ∀ other, (other, false) ∈ l.visible → isIndexFile s other = true → e.1 ≤ other := by
  have htest := List.find?_some h
  obtain ⟨hfile, hindex⟩ : e.2 = false ∧ isIndexFile s e.1 = true := by simpa using htest
  have hascending : l.visible.Pairwise fun a b => a.1 ≤ b.1 :=
    hl.visible_pairwise.imp fun hab => String.not_lt.mp (String.lt_asymm hab)
  refine ⟨?_, hindex, fun other hother hs => ?_⟩
  · rw [← hfile]
    exact List.mem_of_find?_eq_some h
  · exact rel_of_find?_eq_some (R := fun a b => a.1 ≤ b.1) (fun _ => String.le_refl _) hascending h hother
      (by simpa using hs)

theorem find?_index_eq_none {s : String}
    (h : (l.visible.find? fun e => !e.2 && isIndexFile s e.1) = none) (hother : (other, false) ∈ l.visible) :
    isIndexFile s other = false := by
  have := List.find?_eq_none.mp h _ hother
  simpa using this

theorem index?_eq (l : Listing) :
    l.index? =
      ((l.visible.find? fun e => !e.2 && isIndexFile "readme" e.1).or
        (l.visible.find? fun e => !e.2 && isIndexFile "_index" e.1)).map Prod.fst := by
  unfold index? indexStems
  simp only [List.findSome?_cons, List.findSome?_nil]
  cases l.visible.find? fun e => !e.2 && isIndexFile "readme" e.1 <;>
    cases l.visible.find? fun e => !e.2 && isIndexFile "_index" e.1 <;> rfl

/-- What is found is an index file, and the others have a higher rank or the same and no smaller name. -/
theorem Ordered.of_index? (hl : l.Ordered) (h : l.index? = some name) :
    (name, false) ∈ l.visible ∧ IsIndexName name ∧
      ∀ other, (other, false) ∈ l.visible → IsIndexName other →
        routeRank name < routeRank other ∨ routeRank name = routeRank other ∧ name ≤ other := by
  rw [index?_eq, Option.map_eq_some_iff] at h
  obtain ⟨e, he, rfl⟩ := h
  rcases Option.or_eq_some_iff.mp he with he | ⟨hnone, he⟩
  · obtain ⟨hmem, hreadme, hleast⟩ := hl.of_find?_index he
    have hname : IsIndexName e.1 := isIndexName_iff.mpr (.inl hreadme)
    refine ⟨hmem, hname, fun other hother hindex => ?_⟩
    rw [routeRank_of_isIndexName hname, routeRank_of_isIndexName hindex, if_pos hreadme]
    split
    · rename_i hr
      exact .inr ⟨rfl, hleast other hother hr⟩
    · exact .inl Nat.zero_lt_one
  · -- no readme is there, so all index files have one rank
    obtain ⟨hmem, hi, hleast⟩ := hl.of_find?_index he
    have hname : IsIndexName e.1 := isIndexName_iff.mpr (.inr hi)
    refine ⟨hmem, hname, fun other hother hindex => ?_⟩
    have hr := find?_index_eq_none hnone hother
    have hi' := (isIndexName_iff.mp hindex).resolve_left (by simp [hr])
    rw [routeRank_of_isIndexName hname, routeRank_of_isIndexName hindex, find?_index_eq_none hnone hmem, hr]
    exact .inr ⟨rfl, hleast other hother hi'⟩

theorem index?_ne_none (hmem : (name, false) ∈ l.visible) (hindex : IsIndexName name) : l.index? ≠ none := by
  intro hnone
  rw [index?_eq, Option.map_eq_none_iff, Option.or_eq_none_iff] at hnone
  rcases isIndexName_iff.mp hindex with h | h
  · simp [find?_index_eq_none hnone.1 hmem] at h
  · simp [find?_index_eq_none hnone.2 hmem] at h

/-- The index file of a directory is the one that no other comes before. -/
theorem Ordered.index?_eq_some_iff (hl : l.Ordered) :
    l.index? = some name ↔ (name, false) ∈ l.visible ∧ IsIndexName name ∧
      ∀ other, (other, false) ∈ l.visible → ¬ ComesBefore other name := by
  constructor
  · intro h
    obtain ⟨hmem, hindex, hleast⟩ := hl.of_index? h
    refine ⟨hmem, hindex, fun other hother hbefore => ?_⟩
    rcases hleast other hother (hbefore.isIndexName hindex) with hrank | ⟨hrank, hle⟩
    · have := hbefore.order
      omega
    · rcases hbefore.order with hlt | ⟨-, hlt⟩
      · omega
      · exact String.not_lt.mpr hle hlt
  · rintro ⟨hmem, hindex, hfirst⟩
    obtain ⟨found, hfound⟩ := Option.ne_none_iff_exists'.mp (index?_ne_none hmem hindex)
    obtain ⟨hmem', hindex', hleast⟩ := hl.of_index? hfound
    have hnot := hfirst found hmem'
    rcases hleast name hmem hindex with hlt | ⟨heq, hle⟩
    · exact absurd ⟨.inl hlt, .inl ⟨hindex', hindex⟩⟩ hnot
    · have hge : name ≤ found := by
        refine String.not_lt.mp fun hlt => hnot ⟨.inr ⟨heq, hlt⟩, .inl ⟨hindex', hindex⟩⟩
      rw [hfound, String.le_antisymm hle hge]

/-! ### Documents -/

variable {segs : List String}

/-- A name with an extension is hidden if the name is. -/
theorem isHidden_document (h : IsName stem.toList) (ext : String) :
    isHidden (stem ++ "." ++ ext) = isHidden stem := by
  obtain ⟨c, cs, hc⟩ := List.exists_cons_of_ne_nil h.ne_nil
  simp [isHidden, hc]

/-- Documents of a name that is not hidden are those that the walk comes to. -/
theorem WellNamed.isSome_fileAt?_document (hl : l.WellNamed) (hname : IsName stem.toList)
    (hhidden : ∀ d ∈ dirs ++ [stem], isHidden d = false) (ext : String) :
    (l.fileAt? (dirs ++ [stem ++ "." ++ ext])).isSome ↔
      dirs ++ [stem ++ "." ++ ext] ∈ l.visibleFiles [] := by
  obtain ⟨hdirs, hstem⟩ := List.forall_mem_append.mp hhidden
  have hall : ∀ d ∈ dirs ++ [stem ++ "." ++ ext], isHidden d = false := by
    refine List.forall_mem_append.mpr ⟨hdirs, ?_⟩
    rw [List.forall_mem_singleton, isHidden_document hname, hstem stem List.mem_cons_self]
  rw [hl.mem_visibleFiles_iff_fileAt?]
  exact ⟨fun h => ⟨h, hall⟩, fun h => h.1⟩

theorem WellNamed.document?_eq_none_iff (hl : l.WellNamed) (hname : IsName stem.toList)
    (hhidden : ∀ d ∈ dirs ++ [stem], isHidden d = false) :
    l.document? dirs stem = none ↔
      ∀ ext ∈ markdownExtensions, dirs ++ [stem ++ "." ++ ext] ∉ l.visibleFiles [] := by
  simp only [← hl.isSome_fileAt?_document hname hhidden]
  simp [document?]

/-- A document is found under its stem if its extension is written in small letters and there is none with
an earlier extension. -/
theorem WellNamed.document?_eq_some_iff (hl : l.WellNamed) (hname : dirs ++ [name] ∈ l.visibleFiles [])
    (hstem : documentStem? name = some stem) (hplain : isIndexStem stem = false) :
    l.document? dirs stem = some name ↔ (∃ ext ∈ markdownExtensions, name = stem ++ "." ++ ext) ∧
      ∀ other, dirs ++ [other] ∈ l.visibleFiles [] → ¬ ComesBefore other name := by
  have hnot : ¬ IsIndexName name := by
    rintro ⟨s, hs, hindex⟩
    obtain rfl := Option.some.inj (hs.symm.trans hstem)
    simp [hplain] at hindex
  have hvisible := hl.isName_of_mem_visibleFiles hname
  obtain ⟨hisname, hshown⟩ := hvisible name (by simp)
  have hhidden : ∀ d ∈ dirs ++ [stem], isHidden d = false := by
    refine List.forall_mem_append.mpr ⟨fun d hd => (hvisible d (by simp [hd])).2, ?_⟩
    simpa using (isHidden_of_documentStem? hstem).trans hshown
  have hfile := hl.isSome_fileAt?_document (isName_of_documentStem? hisname hstem) hhidden
  have hfirst : dirs ++ [stem ++ "." ++ "md"] ∈ l.visibleFiles [] →
      l.document? dirs stem = some (stem ++ "." ++ "md") :=
    fun h => List.find?_cons_of_pos ((hfile "md").mpr h)
  constructor
  · intro h
    obtain ⟨ext, hext, rfl⟩ := exists_of_document? h
    refine ⟨⟨ext, hext, rfl⟩, fun other hother hbefore => ?_⟩
    rcases hbefore.alike with ⟨-, hindex⟩ | ⟨s, rfl, hs⟩
    · exact hnot hindex
    · rw [hs] at hstem h
      obtain rfl := documentStem?_of_mdx hstem
      rw [hfirst hother] at h
      exact absurd (String.append_right_inj _ |>.mp (Option.some.inj h)) (by decide)
  · rintro ⟨⟨ext, hext, rfl⟩, hnone⟩
    have hcases : ext = "md" ∨ ext = "mdx" := by simpa [markdownExtensions] using hext
    rcases hcases with rfl | rfl
    · exact hfirst hname
    · have hfree : (l.fileAt? (dirs ++ [stem ++ "." ++ "md"])).isSome = false := by
        rw [← Bool.not_eq_true, hfile]
        exact fun h => hnone _ h (comesBefore_mdx (by rw [hstem]; rfl))
      simp [document?, markdownExtensions, hfree, (hfile "mdx").mpr hname]

/-! ### What is found -/

/-- The index of a directory is found unless there is a document of the name of the directory beside it. -/
theorem found?_eq_concat_iff :
    l.found? segs = some (segs ++ [name]) ↔
      segs.getLast?.bind (l.document? segs.dropLast) = none ∧ (l.descend? segs).bind index? = some name := by
  unfold found?
  cases hdocument : segs.getLast?.bind (l.document? segs.dropLast) with
  | none =>
    dsimp only
    cases (l.descend? segs).bind index? <;> simp
  | some found =>
    have hne : segs ≠ [] := by
      rintro rfl
      cases hdocument
    have hlength : segs.dropLast ++ [found] ≠ segs ++ [name] := by
      intro h
      have hlen := congrArg List.length h
      have hpos := List.length_pos_iff.mpr hne
      simp only [List.length_append, List.length_dropLast, List.length_singleton] at hlen
      omega
    simpa using hlength

/-- A document is found unless one of an earlier extension is. -/
theorem found?_concat_eq_concat_iff :
    l.found? (dirs ++ [stem]) = some (dirs ++ [name]) ↔ l.document? dirs stem = some name := by
  unfold found?
  rw [List.getLast?_concat, List.dropLast_concat, Option.bind_some]
  cases l.document? dirs stem with
  | none =>
    dsimp only
    cases (l.descend? (dirs ++ [stem])).bind index? <;> simp
  | some found => simp

end Listing

end Folio
