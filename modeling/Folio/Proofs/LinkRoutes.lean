import Folio.Markup.Link
import Folio.Proofs.DocumentNames
import Folio.Proofs.ShortPaths

/-! # Links and routes

A link in a document is served under the route of the source file that it names.  The extension of a
link is dropped as it is written and the rest is then resolved, while a route resolves the path first and
drops the extension after that.  Both come to the same, since the extension belongs to the last segment
and all in front of it may be read in normal form (`ofChars_bareName`). -/

namespace Folio

/-! ### References -/

namespace Markup

open ContentPath

/-- A reference that begins with a slash is read from the root, any other behind the directory of the
document. -/
theorem resolveReference_ofList (d : ContentPath) (cs : List Char) :
    resolveReference d (String.ofList cs) =
      if cs.head? = some '/' then ofChars cs else ofChars (d.parent.text.toList ++ '/' :: cs) := by
  rw [resolveReference, String.toList_ofList]
  split
  · rfl
  · rename_i h
    have htext : (d.parent.text ++ "/" ++ String.ofList cs).toList = d.parent.text.toList ++ '/' :: cs := by
      simp
    rw [join, String.toList_ofList, if_neg h, ofString_eq, htext]

/-- The last segment of a reference can be changed without changing what is in front of it. -/
theorem exists_resolveReference_eq (d : ContentPath) {cs name : List Char} (hn : '/' ∉ name)
    (h : cs = name ∨ ∃ front, cs = front ++ '/' :: name) :
    ∃ x, resolveReference d (String.ofList cs) = ofChars (x ++ '/' :: name) ∧
      resolveReference d (String.ofList (dropMarkdownExtensionChars cs)) =
        ofChars (x ++ '/' :: bareName name) := by
  have relative : ∀ {n : List Char}, '/' ∉ n → n.head? ≠ some '/' :=
    fun hn h => hn (List.mem_of_mem_head? h)
  rw [resolveReference_ofList, resolveReference_ofList]
  rcases h with rfl | ⟨front, rfl⟩
  · have hb : '/' ∉ bareName cs := fun h => hn (mem_of_mem_bareName h)
    refine ⟨d.parent.text.toList, if_neg (relative hn), ?_⟩
    rw [dropMarkdownExtensionChars_of_no_slash hn, if_neg (relative hb)]
  · rw [dropMarkdownExtensionChars_append front hn]
    cases front with
    | nil => exact ⟨[], by simp⟩
    | cons c front =>
        by_cases hc : c = '/'
        · exact ⟨c :: front, by simp [hc]⟩
        · exact ⟨d.parent.text.toList ++ '/' :: c :: front, by simp [hc]⟩

/-! ### Links -/

theorem linkPath_eq {cs : List Char} (h : ∀ c ∈ cs, startsSuffix c = false) : linkPath cs = cs := by
  rw [linkPath, List.takeWhile_eq_self_iff]
  exact fun c hc => by simp [h c hc]

theorem linkSuffix_eq {cs : List Char} (h : ∀ c ∈ cs, startsSuffix c = false) :
    linkSuffix cs = [] := by
  rw [linkSuffix, List.dropWhile_eq_nil_iff]
  exact fun c hc => by simp [h c hc]

/-- A link without query and fragment is served as its route, or as the short path that exposes it. -/
theorem servedLink_eq (d : ContentPath) (g : AliasGraph) {link : String}
    (hs : staysAsWritten link.toList = false) (hc : ∀ c ∈ link.toList, startsSuffix c = false) :
    let stripped := String.ofList (dropMarkdownExtensionChars link.toList)
    let route := (resolveReference d stripped).collapseIndex
    servedLink d g link = ((g.key? route).getD route).text := by
  have hne : link.toList.isEmpty = false := by
    rw [staysAsWritten] at hs
    simp only [Bool.or_eq_false_iff] at hs
    exact hs.1.1.1
  simp only [servedLink, linkPath_eq hc, linkSuffix_eq hc, hs, hne]
  simp

/-- A link that is not left as written, has no query, fragment or quotation mark and ends in a segment
with a name is served under the route of the source it names: under the smallest short path of that
route if a short path leads there, else under the route itself. -/
theorem servedLink_route (d : ContentPath) (g : AliasGraph) (link : String) (name : List Char)
    (hs : staysAsWritten link.toList = false)
    (hc : ∀ c ∈ link.toList, c ≠ '?' ∧ c ≠ '#' ∧ c ≠ '"')
    (hl : (Text.pieces isSlash link.toList).getLast? = some name)
    (hn : name ≠ [] ∧ name ≠ ['.'] ∧ name ≠ ['.', '.']) :
    let source := if link.toList.head? = some '/' then ContentPath.ofString link
      else d.parent.join link
    (∀ key, g.Exposes source.route key → servedLink d g link = key.text) ∧
    (¬ g.Reaches source.route → servedLink d g link = source.route.text) := by
  intro source
  have hsuffix : ∀ c ∈ link.toList, startsSuffix c = false := by
    intro c h
    simp [startsSuffix, (hc c h).1, (hc c h).2.1]
  obtain ⟨hslash, hform⟩ := Text.eq_of_getLast?_pieces hl
  have hform : link.toList = name ∨ ∃ front, link.toList = front ++ '/' :: name := by
    refine hform.imp_right ?_
    rintro ⟨front, c, hc, h⟩
    obtain rfl : c = '/' := by simpa [isSlash] using hc
    exact ⟨front, h⟩
  have hclean : IsClean name := by
    refine ⟨hn.1, hn.2.1, hn.2.2, fun h => absurd (hslash '/' h) (by decide), fun h => ?_⟩
    have hm : '"' ∈ link.toList := by
      rcases hform with e | ⟨front, e⟩
      · exact e ▸ h
      · exact e ▸ List.mem_append_right _ (List.mem_cons_of_mem _ h)
    exact (hc '"' hm).2.2 rfl
  obtain ⟨x, hx, hxb⟩ := exists_resolveReference_eq d hclean.no_slash hform
  have hsource : source = ofChars (x ++ '/' :: name) := by
    rw [String.ofList_toList] at hx
    exact hx
  have hroute : (resolveReference d (String.ofList (dropMarkdownExtensionChars link.toList))).collapseIndex
      = source.route := by
    rw [hxb, ofChars_bareName x hclean, ← hsource, route]
  have he := servedLink_eq d g hs hsuffix
  simp only [hroute] at he
  refine ⟨fun key h => ?_, fun h => ?_⟩
  · rw [he, (g.key?_eq_some_iff source.route key).mpr h, Option.getD_some]
  · rw [he, (g.key?_eq_none_iff source.route).mpr h, Option.getD_none]

/-- A readme in the directory above, whose directory has a short path. -/
theorem servedLink_route_readme :
    let link := "..//./x/../c/ReadMe.MDX"
    staysAsWritten link.toList = false ∧
    (∀ c ∈ link.toList, c ≠ '?' ∧ c ≠ '#' ∧ c ≠ '"') ∧
    (Text.pieces isSlash link.toList).getLast? = some "ReadMe.MDX".toList ∧
    servedLink ⟨"/a/b/doc.md"⟩ (.ofRaw [("/s", "/a/c")]) link = "/s" := by
  have h1 : staysAsWritten "..//./x/../c/ReadMe.MDX".toList = false := by decide +kernel
  have hplain : "..//./x/../c/ReadMe.MDX".toList.all (fun c => c != '?' && c != '#' && c != '"') = true := by
    decide +kernel
  have h2 : ∀ c ∈ "..//./x/../c/ReadMe.MDX".toList, c ≠ '?' ∧ c ≠ '#' ∧ c ≠ '"' := by
    simpa only [List.all_eq_true, Bool.and_eq_true, bne_iff_ne, and_assoc] using hplain
  have h3 : (Text.pieces isSlash "..//./x/../c/ReadMe.MDX".toList).getLast? =
      some "ReadMe.MDX".toList := by decide +kernel
  refine ⟨h1, h2, h3, ?_⟩
  refine (servedLink_route ⟨"/a/b/doc.md"⟩ _ _ _ h1 h2 h3 (by decide +kernel)).1 ⟨"/s"⟩ ?_
  rw [← AliasGraph.key?_eq_some_iff]
  decide +kernel

end Markup

end Folio
