import Folio.Proofs.MaskedPaths
import Folio.Proofs.ServedAddresses

/-! # Links with masked currency

The source is read with its currency masked, so a link is served with placeholders in it, and the finished
page turns them back.  The placeholder runs through the whole way of a link unseen (`Masks.linkRoute`) but
for two tests: its letters can make a scheme of a text in front of a colon, and a route with a placeholder
in it is no target of an alias.  And a quotation mark that is removed can leave a placeholder behind in a
link that has none, which the page then turns into a dollar sign.

Those are all ways in which masking shows: otherwise, and only then, the restored link is the link as it
would be served without masking (`restoreDollars_servedLink_maskDollars`). -/

namespace Folio

namespace Markup

open ContentPath

/-- Masks the dollar signs of amounts. -/
def maskDollars (s : String) : String := String.ofList (maskCurrency s.toList)

/-- No short path and no target of a graph holds the placeholder. -/
def LacksPlaceholder (g : AliasGraph) : Prop :=
  ∀ e ∈ g.expanded.toList, ¬ HasPlaceholder e.1.text ∧ ¬ HasPlaceholder e.2.text

instance (g : AliasGraph) : Decidable (LacksPlaceholder g) :=
  inferInstanceAs (Decidable (∀ e ∈ g.expanded.toList, _))

variable {a b : List Char} {c : Char} {d : ContentPath} {g : AliasGraph} {link : String}

/-! ### What masking does not change -/

/-- A text without marks starts both texts or neither. -/
theorem Masks.prefix_iff {t : List Char} (ht : ∀ c ∈ t, c ∉ marks) (h : Masks a b) : t <+: a ↔ t <+: b := by
  induction h generalizing t with
  | nil => exact Iff.rfl
  | char c _ ih =>
    cases t with
    | nil => simp
    | cons d t =>
      rw [List.cons_prefix_cons, List.cons_prefix_cons, ih fun e he => ht e (List.mem_cons_of_mem d he)]
  | amount _ _ =>
    cases t with
    | nil => simp
    | cons d t =>
      have hmark := ht d List.mem_cons_self
      constructor
      · intro hstart
        obtain ⟨rfl, -⟩ := List.cons_prefix_cons.mp hstart
        exact absurd (by decide) hmark
      · intro hstart
        obtain ⟨rfl, -⟩ : d = 'V' ∧ t <+: _ := List.cons_prefix_cons.mp hstart
        exact absurd (by decide) hmark

theorem Masks.head?_eq_iff (hc : c ∉ marks) (h : Masks a b) : a.head? = some c ↔ b.head? = some c := by
  have hstart : ∀ cs : List Char, cs.head? = some c ↔ [c] <+: cs := by
    intro cs
    cases cs with
    | nil => simp
    | cons d cs => simp [eq_comm]
  rw [hstart, hstart]
  exact h.prefix_iff (by simpa using hc)

/-- Masking keeps a scheme: there is no dollar sign in front of its colon. -/
theorem Masks.hasScheme (h : Masks a b) (ha : hasScheme a = true) : hasScheme b = true := by
  cases a with
  | nil => cases ha
  | cons c rest =>
    obtain ⟨hc, hcolon⟩ := (Bool.and_eq_true _ _).mp ha
    obtain ⟨tail, htail⟩ := List.head?_eq_some_iff.mp (beq_iff_eq.mp hcolon)
    have hsplit := List.takeWhile_append_dropWhile (p := isSchemeChar) (l := rest)
    rw [htail] at hsplit
    rw [← hsplit, ← List.cons_append] at h
    obtain ⟨front, back, rfl, hfront, -⟩ := h.split (by decide)
    -- the scheme is written without dollar signs, so it is the same in both texts
    obtain rfl | ⟨hdollar, -⟩ := hfront.eq_or
    · rw [List.cons_append, Markup.hasScheme, hc, List.dropWhile_append_of_pos fun d hd =>
        List.mem_takeWhile_imp hd]
      rfl
    · obtain rfl | hmem := List.mem_cons.mp hdollar
      · exact absurd hc (by decide)
      · exact absurd (List.mem_takeWhile_imp hmem) (by decide)

theorem Masks.staysAsWritten_eq (h : Masks a b) (hscheme : Markup.hasScheme b = true → Markup.hasScheme a = true) :
    staysAsWritten a = staysAsWritten b := by
  have hempty : a.isEmpty = b.isEmpty := by
    rw [Bool.eq_iff_iff, List.isEmpty_iff, List.isEmpty_iff]
    exact h.eq_iff (by decide)
  have hfragment : (a.head? == some '#') = (b.head? == some '#') := by
    rw [Bool.eq_iff_iff, beq_iff_eq, beq_iff_eq]
    exact h.head?_eq_iff (by decide)
  have hhost : "//".toList.isPrefixOf a = "//".toList.isPrefixOf b := by
    rw [Bool.eq_iff_iff, List.isPrefixOf_iff_prefix, List.isPrefixOf_iff_prefix]
    have hslash : '/' ∉ marks := by decide
    exact h.prefix_iff (by simpa using hslash)
  have hsame : Markup.hasScheme a = Markup.hasScheme b :=
    Bool.eq_iff_iff.mpr ⟨h.hasScheme, hscheme⟩
  rw [staysAsWritten, staysAsWritten, hempty, hfragment, hhost, hsame]

theorem Masks.linkPath (h : Masks a b) : Masks (linkPath a) (linkPath b) := h.takeWhile (by decide)

theorem Masks.linkSuffix (h : Masks a b) : Masks (linkSuffix a) (linkSuffix b) := h.dropWhile (by decide)

/-- Masking the currency of a link masks that of its route. -/
theorem Masks.linkRoute (d : ContentPath) (h : Masks a b) :
    Masks (linkRoute d a).text.toList (linkRoute d b).text.toList := by
  have hbare := h.dropMarkdownExtension
  have hhead := hbare.head?_eq_iff (c := '/') (by decide)
  rw [Markup.linkRoute, Markup.linkRoute, resolveReference_ofList, resolveReference_ofList]
  by_cases hslash : (dropMarkdownExtensionChars a).head? = some '/'
  · rw [if_pos hslash, if_pos (hhead.mp hslash)]
    exact hbare.collapseIndex
  · rw [if_neg hslash, if_neg (mt hhead.mpr hslash)]
    exact ((Masks.refl _).append (.char '/' hbare)).collapseIndex

/-! ### Served links -/

theorem servedLink_of_stays (d : ContentPath) (g : AliasGraph)
    (h : staysAsWritten link.toList = true ∨ linkPath link.toList = []) :
    servedLink d g link = link := by
  have hcond : (staysAsWritten link.toList || (linkPath link.toList).isEmpty) = true := by
    simpa using h
  simp only [servedLink, hcond, if_true]

theorem LacksPlaceholder.of_target? (hg : LacksPlaceholder g) {key target : ContentPath}
    (h : g.target? key = some target) : ¬ HasPlaceholder key.text ∧ ¬ HasPlaceholder target.text :=
  hg (key, target) ((mem_toList_iff _ _).mpr h)

/-- A route with a placeholder in it is no target. -/
theorem LacksPlaceholder.key?_eq_none (hg : LacksPlaceholder g) {route route' : ContentPath}
    (h : Masks route.text.toList route'.text.toList) (hne : route' ≠ route) : g.key? route' = none := by
  obtain hsame | ⟨-, hplaceholder⟩ := h.eq_or
  · exact absurd (eq_of_text_eq (String.toList_inj.mp hsame.symm)) hne
  · rw [AliasGraph.key?_eq_none_iff]
    rintro ⟨key, hkey⟩
    exact (hg.of_target? hkey).2 hplaceholder

/-- Masking does not change which short path a link is served under: its route is exposed under none but
itself, or is the same with its currency masked. -/
def AliasUnchanged (d : ContentPath) (g : AliasGraph) (path path' : List Char) : Prop :=
  ∀ key, g.key? (linkRoute d path) = some key → key = linkRoute d path ∨ linkRoute d path' = linkRoute d path

/-- What a link is served under is masked with its route, if masking does not change the short path. -/
theorem masks_getD_key? (hg : LacksPlaceholder g) (h : Masks a b) (halias : AliasUnchanged d g a b) :
    Masks ((g.key? (linkRoute d a)).getD (linkRoute d a)).text.toList
      ((g.key? (linkRoute d b)).getD (linkRoute d b)).text.toList := by
  have hroute := h.linkRoute d
  by_cases hsame : linkRoute d b = linkRoute d a
  · rw [hsame]
    exact Masks.refl _
  · have hself : (g.key? (linkRoute d a)).getD (linkRoute d a) = linkRoute d a := by
      cases hkey : g.key? (linkRoute d a) with
      | none => exact Option.getD_none
      | some key =>
        rw [Option.getD_some]
        exact (halias key hkey).resolve_right hsame
    rw [hself, hg.key?_eq_none hroute hsame, Option.getD_none]
    exact hroute

theorem toList_maskDollars (s : String) : (maskDollars s).toList = maskCurrency s.toList :=
  String.toList_ofList

/-- Where masking shows in none of the tests, it masks the currency of the served link. -/
theorem masks_servedLink (hg : LacksPlaceholder g)
    (hscheme : hasScheme (maskCurrency link.toList) = true → hasScheme link.toList = true)
    (halias : staysAsWritten link.toList = false → linkPath link.toList ≠ [] →
      AliasUnchanged d g (linkPath link.toList) (linkPath (maskCurrency link.toList))) :
    Masks (servedLink d g link).toList (servedLink d g (maskDollars link)).toList := by
  have hmask := masks_maskCurrency link.toList
  have hstays := hmask.staysAsWritten_eq hscheme
  have hpath : linkPath link.toList = [] ↔ linkPath (maskCurrency link.toList) = [] :=
    hmask.linkPath.eq_iff (by decide)
  by_cases h : staysAsWritten link.toList = true ∨ linkPath link.toList = []
  · have h' : staysAsWritten (maskDollars link).toList = true ∨ linkPath (maskDollars link).toList = [] := by
      rw [toList_maskDollars]
      exact h.imp (hstays ▸ ·) hpath.mp
    rw [servedLink_of_stays d g h, servedLink_of_stays d g h', toList_maskDollars]
    exact hmask
  · obtain ⟨hs, hne⟩ := not_or.mp h
    rw [Bool.not_eq_true] at hs
    have hs' : staysAsWritten (maskDollars link).toList = false := by
      rw [toList_maskDollars, ← hstays, hs]
    have hne' : linkPath (maskDollars link).toList ≠ [] := by
      rw [toList_maskDollars]
      exact mt hpath.mpr hne
    rw [servedLink_of_linkPath d g hs hne, servedLink_of_linkPath d g hs' hne', toList_maskDollars,
      String.toList_append, String.toList_append, String.toList_ofList, String.toList_ofList]
    exact (masks_getD_key? hg hmask.linkPath (halias hs hne)).append hmask.linkSuffix

/-! ### Where masking shows -/

theorem restoreDollars_eq_of_masks {s t : String} (h : Masks s.toList t.toList)
    (hplain : ¬ HasPlaceholder s) : restoreDollars t = s := by
  rw [restoreDollars, h.restoreCurrency_eq hplain, String.ofList_toList]

theorem restoreDollars_maskDollars (h : ¬ HasPlaceholder link) : restoreDollars (maskDollars link) = link := by
  apply restoreDollars_eq_of_masks _ h
  rw [toList_maskDollars]
  exact masks_maskCurrency link.toList

theorem isAlpha_of_hasScheme (h : hasScheme (c :: a) = true) : c.isAlpha = true :=
  ((Bool.and_eq_true _ _).mp h).1

/-- A link with a scheme once it is masked is left as written or has a path, as it has a letter or a
dollar sign first. -/
theorem Masks.rewritten_of_hasScheme (h : Masks a b) (hb : Markup.hasScheme b = true)
    (ha : Markup.hasScheme a = false) : staysAsWritten a = false ∧ Markup.linkPath a ≠ [] := by
  cases h with
  | nil => cases hb
  | @char c a b h =>
    have hc := isAlpha_of_hasScheme hb
    have hhash : c ≠ '#' := by rintro rfl; exact absurd hc (by decide)
    have hslash : c ≠ '/' := by rintro rfl; exact absurd hc (by decide)
    have hquery : c ≠ '?' := by rintro rfl; exact absurd hc (by decide)
    constructor
    · simp [staysAsWritten, ha, hhash, Ne.symm hslash, List.isPrefixOf]
    · simp [Markup.linkPath, startsSuffix, hhash, hquery]
  | amount h =>
    constructor
    · simp [staysAsWritten, ha, List.isPrefixOf]
    · simp [Markup.linkPath, startsSuffix]

/-- If masking makes a scheme, it shows: the link is left as it is masked, but without masking it would
lead to a path. -/
theorem servedLink_ne_of_hasScheme (hmade : g.Made) (hlink : ¬ HasPlaceholder link)
    (hmasked : hasScheme (maskCurrency link.toList) = true) (hplain : hasScheme link.toList = false) :
    restoreDollars (servedLink d g (maskDollars link)) ≠ servedLink d g link := by
  have hmask := masks_maskCurrency link.toList
  have hstays : staysAsWritten (maskDollars link).toList = true := by
    rw [toList_maskDollars, staysAsWritten, hmasked, Bool.or_true]
  obtain ⟨hs, hpath⟩ := hmask.rewritten_of_hasScheme hmasked hplain
  have hinternal : Html.isInternalUrl (servedLink d g link) = true := by
    rw [servedLink_of_linkPath d g hs hpath]
    exact isInternalUrl_of_isNormal (isNormal_getD_key? hmade (isNormal_linkRoute d _))
      (splits_of_linkPath hpath).suffix_starts
  rw [servedLink_of_stays d g (.inl hstays), restoreDollars_maskDollars hlink]
  intro hsame
  rw [← hsame] at hinternal
  obtain ⟨rest, hrest⟩ := List.isPrefixOf_iff_prefix.mp ((Bool.and_eq_true _ _).mp hinternal).1
  have hhead : (maskCurrency link.toList).head? = some '/' :=
    (hmask.head?_eq_iff (by decide)).mp (by rw [← hrest]; rfl)
  obtain ⟨tail, htail⟩ := List.head?_eq_some_iff.mp hhead
  rw [htail] at hmasked
  exact absurd (isAlpha_of_hasScheme hmasked) (by decide)

/-- A suffix starts with no letter of the placeholder, so it completes none. -/
theorem not_hasPlaceholder_append_suffix {s : String} {suffix : List Char} (hs : ¬ HasPlaceholder s)
    (hsuffix : ¬ currencyPlaceholder.toList <:+: suffix)
    (hstart : ∀ c ∈ suffix.head?, startsSuffix c = true) :
    ¬ HasPlaceholder (s ++ String.ofList suffix) := by
  intro h
  rw [HasPlaceholder, String.toList_append, String.toList_ofList] at h
  cases suffix with
  | nil =>
    rw [List.append_nil] at h
    exact hs h
  | cons c cs =>
    have hc : c ∉ currencyPlaceholder.toList := by
      intro hmem
      have hplain := forall_placeholder (p := (!startsSuffix ·)) (by decide) c hmem
      rw [hstart c rfl] at hplain
      cases hplain
    obtain h | h := Text.infix_append_cons hc h
    · exact hs h
    · exact hsuffix (List.infix_cons h)

/-- If masking changes the route of a link that has a short path of another name, it shows: no alias leads
to the masked route. -/
theorem servedLink_ne_of_key? (hg : LacksPlaceholder g) (hs : staysAsWritten link.toList = false)
    (hpath : linkPath link.toList ≠ [])
    (hscheme : hasScheme (maskCurrency link.toList) = true → hasScheme link.toList = true)
    (hplain : ¬ HasPlaceholder (servedLink d g link)) {key : ContentPath}
    (hkey : g.key? (linkRoute d (linkPath link.toList)) = some key)
    (hne : key ≠ linkRoute d (linkPath link.toList))
    (hroute : linkRoute d (linkPath (maskCurrency link.toList)) ≠ linkRoute d (linkPath link.toList)) :
    restoreDollars (servedLink d g (maskDollars link)) ≠ servedLink d g link := by
  have hmask := masks_maskCurrency link.toList
  have hroutes := hmask.linkPath.linkRoute d
  have hs' : staysAsWritten (maskDollars link).toList = false := by
    rw [toList_maskDollars, ← hmask.staysAsWritten_eq hscheme, hs]
  have hpath' : linkPath (maskDollars link).toList ≠ [] := by
    rw [toList_maskDollars]
    exact mt (hmask.linkPath.eq_iff (by decide)).mpr hpath
  have hserved := servedLink_of_linkPath d g hs hpath
  have hserved' := servedLink_of_linkPath d g hs' hpath'
  rw [hkey, Option.getD_some] at hserved
  rw [toList_maskDollars, hg.key?_eq_none hroutes hroute, Option.getD_none] at hserved'
  have htarget := (hg.of_target? ((g.key?_eq_some_iff _ _).mp hkey).1).2
  have hsuffix : ¬ currencyPlaceholder.toList <:+: linkSuffix link.toList := by
    intro h
    refine hplain ?_
    rw [hserved, HasPlaceholder, String.toList_append, String.toList_ofList]
    exact h.trans (List.suffix_append _ _).isInfix
  have hfree := not_hasPlaceholder_append_suffix htarget hsuffix (splits_of_linkPath hpath).suffix_starts
  have hboth : Masks
      ((linkRoute d (linkPath link.toList)).text ++ String.ofList (linkSuffix link.toList)).toList
      ((linkRoute d (linkPath (maskCurrency link.toList))).text ++
        String.ofList (linkSuffix (maskCurrency link.toList))).toList := by
    rw [String.toList_append, String.toList_append, String.toList_ofList, String.toList_ofList]
    exact hroutes.append hmask.linkSuffix
  rw [hserved', restoreDollars_eq_of_masks hboth hfree, hserved]
  intro hsame
  have hchars := congrArg String.toList hsame
  rw [String.toList_append, String.toList_append] at hchars
  exact hne (eq_of_text_eq (String.toList_inj.mp (List.append_cancel_right hchars)).symm)

end Markup

/-! ### Placeholders that come about -/

/-- A text without the first character of another stands behind it, if it stands in that. -/
theorem Text.infix_of_infix_cons {p cs : List Char} {c : Char} (hc : c ∉ p) (h : p <:+: c :: cs) :
    p <:+: cs := by
  obtain hstart | hlater := List.infix_cons_iff.mp h
  · obtain rfl | ⟨rest, rfl, -⟩ := List.prefix_cons_iff.mp hstart
    · exact List.nil_infix
    · exact absurd List.mem_cons_self hc
  · exact hlater

namespace ContentPath

variable {s cs raw : List Char} {segments : List (List Char)} {p : List Char}

theorem infix_of_mem_pieces (h : s ∈ Text.pieces isSlash cs) : s <:+: cs := by
  obtain ⟨front, back, hsplit⟩ := List.append_of_mem h
  have hall := flatMap_pieces cs
  rw [hsplit, List.flatMap_append, List.flatMap_cons] at hall
  have hinside : '/' :: s <:+: '/' :: cs := by
    rw [← hall]
    exact ⟨_, _, by rw [List.append_assoc]⟩
  obtain hstart | hlater := List.infix_cons_iff.mp hinside
  · exact (List.cons_prefix_cons.mp hstart).2.isInfix
  · exact (List.suffix_cons _ _).isInfix.trans hlater

/-- The segments of a path stand in its text, if no quotation mark is removed from it. -/
theorem infix_of_mem_stackOf (hquote : '"' ∉ raw) (h : s ∈ stackOf raw) : s <:+: raw := by
  have hsame : raw.filter (· ≠ '"') = raw :=
    List.filter_eq_self.mpr fun c hc => decide_eq_true fun e => hquote (e ▸ hc)
  unfold stackOf at h
  rw [hsame] at h
  obtain h | h := mem_of_mem_foldl_pushSegment h
  · cases h
  · exact infix_of_mem_pieces h

/-- A text without slashes in a written path stands in one of its segments. -/
theorem exists_of_infix_flatMap (hne : p ≠ []) (hslash : '/' ∉ p)
    (h : p <:+: segments.flatMap ('/' :: ·)) : ∃ s ∈ segments, p <:+: s := by
  induction segments with
  | nil => exact absurd (List.infix_nil.mp h) hne
  | cons s segments ih =>
    rw [List.flatMap_cons, List.cons_append] at h
    have hinside := Text.infix_of_infix_cons hslash h
    cases segments with
    | nil =>
      rw [List.flatMap_nil, List.append_nil] at hinside
      exact ⟨s, List.mem_cons_self, hinside⟩
    | cons t segments =>
      rw [List.flatMap_cons, List.cons_append] at hinside ih
      obtain hfirst | hlater := Text.infix_append_cons hslash hinside
      · exact ⟨s, List.mem_cons_self, hfirst⟩
      · obtain ⟨u, hu, hin⟩ := ih (List.infix_cons hlater)
        exact ⟨u, List.mem_cons_of_mem s hu, hin⟩

theorem exists_of_infix_render (hne : p ≠ []) (hslash : '/' ∉ p) (h : p <:+: render segments) :
    ∃ s ∈ segments, p <:+: s := by
  unfold render at h
  split at h
  · exact absurd (List.infix_nil.mp (Text.infix_of_infix_cons hslash h)) hne
  · obtain ⟨s, hs, h⟩ := exists_of_infix_flatMap hne hslash h
    exact ⟨s, List.mem_of_mem_filter hs, h⟩

/-- The directory of a path is the start of its text, or the root. -/
theorem parent_text_eq_or (d : ContentPath) : d.parent.text.toList <+: d.text.toList ∨ d.parent = root := by
  unfold parent
  split
  · exact .inr rfl
  · left
    rw [String.toList_ofList, ← List.reverse_suffix, List.reverse_reverse]
    exact (List.drop_suffix _ _).trans (List.dropWhile_suffix _)

end ContentPath

theorem bareName_prefix (name : List Char) : bareName name <+: name := by
  unfold bareName
  cases hstem : markdownStemChars? name with
  | none => exact List.prefix_rfl
  | some stem =>
    obtain ⟨-, ext, rfl⟩ := eq_of_markdownStemChars? hstem
    exact List.prefix_append stem _

/-- Dropping the extension leaves the start of a path. -/
theorem dropMarkdownExtensionChars_prefix (cs : List Char) : dropMarkdownExtensionChars cs <+: cs := by
  obtain hnone | ⟨front, c, name, rfl, hc, hname⟩ := Text.exists_last_separator (p := ContentPath.isSlash) cs
  · rw [dropMarkdownExtensionChars_of_no_slash fun hmem => absurd (hnone '/' hmem) (by decide)]
    exact bareName_prefix cs
  · obtain rfl : c = '/' := by simpa [ContentPath.isSlash] using hc
    rw [dropMarkdownExtensionChars_append front fun hmem => absurd (hname '/' hmem) (by decide)]
    rw [List.prefix_append_right_inj, List.cons_prefix_cons]
    exact ⟨rfl, bareName_prefix name⟩

namespace Markup

open ContentPath

variable {d : ContentPath} {g : AliasGraph} {link : String} {path raw : List Char}

theorem mem_of_mem_withoutIndex {s : List Char} {S : List (List Char)} (h : s ∈ withoutIndex S) : s ∈ S := by
  unfold withoutIndex at h
  split at h
  · exact h
  · split at h
    · exact List.mem_cons_of_mem _ h
    · exact h

theorem not_hasPlaceholder_collapseIndex (hquote : '"' ∉ raw) (h : ¬ currencyPlaceholder.toList <:+: raw) :
    ¬ HasPlaceholder (ofChars raw).collapseIndex.text := by
  intro hpath
  rw [HasPlaceholder, collapseIndex_ofChars] at hpath
  obtain ⟨s, hs, hinside⟩ := exists_of_infix_render (by decide) (by decide) hpath
  have hmem := mem_of_mem_withoutIndex (List.mem_reverse.mp hs)
  exact h (hinside.trans (infix_of_mem_stackOf hquote hmem))

/-- The route of a link holds no placeholder if neither the document nor the link does and no quotation
mark is removed. -/
theorem not_hasPlaceholder_linkRoute (hd : ¬ HasPlaceholder d.text) (hdquote : '"' ∉ d.text.toList)
    (hpath : ¬ currencyPlaceholder.toList <:+: path) (hquote : '"' ∉ path) :
    ¬ HasPlaceholder (linkRoute d path).text := by
  have hbare := dropMarkdownExtensionChars_prefix path
  have hbarequote : '"' ∉ dropMarkdownExtensionChars path := fun hmem => hquote (hbare.subset hmem)
  have hbareplain : ¬ currencyPlaceholder.toList <:+: dropMarkdownExtensionChars path := fun h =>
    hpath (h.trans hbare.isInfix)
  have hparent : ¬ HasPlaceholder d.parent.text ∧ '"' ∉ d.parent.text.toList := by
    obtain hstart | hroot := parent_text_eq_or d
    · exact ⟨fun h => hd (h.trans hstart.isInfix), fun hmem => hdquote (hstart.subset hmem)⟩
    · rw [hroot]
      decide
  rw [linkRoute, resolveReference_ofList]
  split
  · exact not_hasPlaceholder_collapseIndex hbarequote hbareplain
  · apply not_hasPlaceholder_collapseIndex
    · rw [List.mem_append, List.mem_cons]
      rintro (hmem | hmem | hmem)
      · exact hparent.2 hmem
      · cases hmem
      · exact hbarequote hmem
    · intro h
      obtain h | h := Text.infix_append_cons (by decide) h
      · exact hparent.1 h
      · exact hbareplain h

/-- Without quotation marks, serving a link makes no placeholder. -/
theorem not_hasPlaceholder_servedLink (hg : LacksPlaceholder g) (hlink : ¬ HasPlaceholder link)
    (hd : ¬ HasPlaceholder d.text) (hquote : '"' ∉ link.toList) (hdquote : '"' ∉ d.text.toList) :
    ¬ HasPlaceholder (servedLink d g link) := by
  by_cases h : staysAsWritten link.toList = true ∨ linkPath link.toList = []
  · rw [servedLink_of_stays d g h]
    exact hlink
  · obtain ⟨hs, hpath⟩ := not_or.mp h
    rw [Bool.not_eq_true] at hs
    have hsplits := splits_of_linkPath hpath
    have hroute : ¬ HasPlaceholder (linkRoute d (linkPath link.toList)).text := by
      apply not_hasPlaceholder_linkRoute hd hdquote
      · exact fun h => hlink (h.trans (List.takeWhile_prefix _).isInfix)
      · exact fun hmem => hquote ((List.takeWhile_prefix _).subset hmem)
    rw [servedLink_of_linkPath d g hs hpath]
    apply not_hasPlaceholder_append_suffix
    · cases hkey : g.key? (linkRoute d (linkPath link.toList)) with
      | none =>
        rw [Option.getD_none]
        exact hroute
      | some key =>
        rw [Option.getD_some]
        exact (hg.of_target? ((g.key?_eq_some_iff _ _).mp hkey).1).1
    · exact fun h => hlink (h.trans (List.dropWhile_suffix _).isInfix)
    · exact hsplits.suffix_starts

/-! ### Masking and serving -/

/-- **When masking does not show in a link**: for a link, a document and an alias graph without
placeholders, the link that is served with its currency masked and then restored is the link that would be
served without masking, exactly if masking makes no scheme, does not take the short path away from the
route of the link, and the link as it would be served holds no placeholder.  This last can only be where a
quotation mark is removed. -/
theorem restoreDollars_servedLink_maskDollars (hmade : g.Made) (hg : LacksPlaceholder g)
    (hlink : ¬ HasPlaceholder link) (hd : ¬ HasPlaceholder d.text) :
    (restoreDollars (servedLink d g (maskDollars link)) = servedLink d g link ↔
      (hasScheme (maskCurrency link.toList) = true → hasScheme link.toList = true) ∧
      (staysAsWritten link.toList = false → linkPath link.toList ≠ [] →
        AliasUnchanged d g (linkPath link.toList) (linkPath (maskCurrency link.toList))) ∧
      ¬ HasPlaceholder (servedLink d g link)) ∧
    ('"' ∉ link.toList → '"' ∉ d.text.toList → ¬ HasPlaceholder (servedLink d g link)) := by
  refine ⟨⟨fun h => ?_, ?_⟩, not_hasPlaceholder_servedLink hg hlink hd⟩
  · have hplain : ¬ HasPlaceholder (servedLink d g link) := h ▸ not_hasPlaceholder_restoreDollars _
    have hscheme : hasScheme (maskCurrency link.toList) = true → hasScheme link.toList = true := by
      intro hmasked
      by_contra hnone
      exact servedLink_ne_of_hasScheme hmade hlink hmasked (Bool.not_eq_true _ ▸ hnone) h
    refine ⟨hscheme, fun hs hpath key hkey => ?_, hplain⟩
    by_contra hchanged
    obtain ⟨hne, hroute⟩ := not_or.mp hchanged
    exact servedLink_ne_of_key? hg hs hpath hscheme hplain hkey hne hroute h
  · rintro ⟨hscheme, halias, hplain⟩
    exact restoreDollars_eq_of_masks (masks_servedLink hg hscheme halias) hplain

/-- A link with an amount in its path, one in its query and a readme at its end. -/
theorem restoreDollars_servedLink_maskDollars_plans :
    let link := "../$5-plans/readme.md?max=$6#top"
    let g := AliasGraph.ofRaw [("/s", "/shop")]
    g.Made ∧ LacksPlaceholder g ∧ ¬ HasPlaceholder link ∧ ¬ HasPlaceholder "/shop/sub/a.md" ∧
      HasPlaceholder (servedLink ⟨"/shop/sub/a.md"⟩ g (maskDollars link)) ∧
      restoreDollars (servedLink ⟨"/shop/sub/a.md"⟩ g (maskDollars link)) = "/shop/$5-plans?max=$6#top" ∧
      servedLink ⟨"/shop/sub/a.md"⟩ g link = "/shop/$5-plans?max=$6#top" := by
  intro link g
  have hmade : g.Made := AliasGraph.made_ofRaw _
  have hg : LacksPlaceholder g := by decide +kernel
  have hlink : ¬ HasPlaceholder link := by decide +kernel
  have hd : ¬ HasPlaceholder "/shop/sub/a.md" := by decide +kernel
  have hserved : servedLink ⟨"/shop/sub/a.md"⟩ g link = "/shop/$5-plans?max=$6#top" := by decide +kernel
  have hmain := restoreDollars_servedLink_maskDollars (d := ⟨"/shop/sub/a.md"⟩) hmade hg hlink hd
  have hplain := hmain.2 (by decide) (by decide)
  have hscheme : ¬ hasScheme (maskCurrency link.toList) = true := by decide +kernel
  have hnone : g.key? (linkRoute ⟨"/shop/sub/a.md"⟩ (linkPath link.toList)) = none := by decide +kernel
  have halias : AliasUnchanged ⟨"/shop/sub/a.md"⟩ g (linkPath link.toList)
      (linkPath (maskCurrency link.toList)) := by
    intro key hkey
    rw [hnone] at hkey
    cases hkey
  have hsame := hmain.1.mpr ⟨fun h => absurd h hscheme, fun _ _ => halias, hplain⟩
  exact ⟨hmade, hg, hlink, hd, by decide +kernel, hsame.trans hserved, hserved⟩

/-- No alias leads to the masked route of a document with an amount in its name, so the link is served
under the route and not under the short path. -/
theorem exists_short_path_lost :
    ∃ (d : ContentPath) (g : AliasGraph) (link : String), g.Made ∧ LacksPlaceholder g ∧
      ¬ HasPlaceholder link ∧ ¬ HasPlaceholder d.text ∧ servedLink d g link = "/price" ∧
      restoreDollars (servedLink d g (maskDollars link)) = "/cost-$5" := by
  refine ⟨⟨"/a.md"⟩, .ofRaw [("/price", "/cost-$5")], "/cost-$5.md", AliasGraph.made_ofRaw _, ?_⟩
  decide +kernel

/-- The letters of the placeholder make a scheme. -/
example : servedLink ⟨"/a.md"⟩ .empty "$5:b" = "/$5:b" ∧
    restoreDollars (servedLink ⟨"/a.md"⟩ .empty (maskDollars "$5:b")) = "$5:b" := by decide +kernel

/-- A quotation mark hides a placeholder, which the page turns into a dollar sign. -/
example : servedLink ⟨"/a.md"⟩ .empty "VPCURRENCY\"DOLLAR" = "/VPCURRENCYDOLLAR" ∧
    restoreDollars (servedLink ⟨"/a.md"⟩ .empty (maskDollars "VPCURRENCY\"DOLLAR")) = "/$" := by
  decide +kernel

end Markup

end Folio
