import Mathlib.Data.List.Forall2
import Folio.Proofs.LinkRoutes
import Folio.Proofs.PathSegments
import Folio.Proofs.PreparedSource

/-! # Paths with masked currency

`Masks plain masked` relates a text to one in which the placeholder stands for some of its dollar signs.
Neither the dollar sign nor a letter of the placeholder is a slash, a dot, a quotation mark or the start of
a query, and no name that is looked for has a dollar sign or a `v`.  So cutting a path at slashes, dropping
an extension, reading segments and collapsing an index do the same to both texts, and what comes out is
related again (`Masks.linkRoute`). -/

namespace Folio

namespace Markup

/-! ### The relation -/

/-- The second text is the first one with the placeholder for some of its dollar signs. -/
inductive Masks : List Char → List Char → Prop
  | nil : Masks [] []
  | char (c : Char) {a b : List Char} (h : Masks a b) : Masks (c :: a) (c :: b)
  | amount {a b : List Char} (h : Masks a b) : Masks ('$' :: a) (currencyPlaceholder.toList ++ b)

/-- The dollar sign and the letters of the placeholder. -/
def marks : List Char := '$' :: currencyPlaceholder.toList

variable {a b a' b' : List Char} {c : Char} {p : Char → Bool}

theorem Masks.refl (cs : List Char) : Masks cs cs := by
  induction cs with
  | nil => exact .nil
  | cons c cs ih => exact .char c ih

theorem masks_written (X : List Sign) : Masks (written ['$'] X) (written currencyPlaceholder.toList X) := by
  induction X with
  | nil => exact .nil
  | cons s X ih =>
    cases s with
    | char c => exact .char c ih
    | amount => exact .amount ih

/-- Masking the currency of a text gives a text that is related to it. -/
theorem masks_maskCurrency (cs : List Char) : Masks cs (maskCurrency cs) := by
  have h := masks_written (signs cs)
  rwa [(written_signs cs).1, (written_signs cs).2] at h

theorem Masks.exists_signs (h : Masks a b) :
    ∃ X, a = written ['$'] X ∧ b = written currencyPlaceholder.toList X := by
  induction h with
  | nil => exact ⟨[], rfl, rfl⟩
  | char c _ ih =>
    obtain ⟨X, rfl, rfl⟩ := ih
    exact ⟨.char c :: X, rfl, rfl⟩
  | amount _ ih =>
    obtain ⟨X, rfl, rfl⟩ := ih
    exact ⟨.amount :: X, rfl, rfl⟩

/-- Restoring the second text gives the first, if that holds no placeholder. -/
theorem Masks.restoreCurrency_eq (h : Masks a b) (hplain : ¬ currencyPlaceholder.toList <:+: a) :
    restoreCurrency b = a := by
  obtain ⟨X, rfl, rfl⟩ := h.exists_signs
  exact restoreCurrency_written hplain

theorem Masks.append (h : Masks a b) (h' : Masks a' b') : Masks (a ++ a') (b ++ b') := by
  induction h with
  | nil => exact h'
  | char c _ ih => exact .char c ih
  | amount _ ih =>
    rw [List.cons_append, List.append_assoc]
    exact .amount ih

/-- Texts that differ are one with a dollar sign and one with the placeholder. -/
theorem Masks.eq_or (h : Masks a b) : a = b ∨ '$' ∈ a ∧ currencyPlaceholder.toList <:+: b := by
  induction h with
  | nil => exact .inl rfl
  | char c _ ih =>
    obtain rfl | ⟨hdollar, hplaceholder⟩ := ih
    · exact .inl rfl
    · exact .inr ⟨List.mem_cons_of_mem c hdollar, List.infix_cons hplaceholder⟩
  | amount _ _ => exact .inr ⟨List.mem_cons_self, (List.prefix_append _ _).isInfix⟩

/-- What a text is only without dollar signs and the letter `V`, both are or neither is. -/
theorem Masks.iff_of {P : List Char → Prop} (hP : ∀ t, P t → '$' ∉ t ∧ 'V' ∉ t) (h : Masks a b) :
    P a ↔ P b := by
  obtain rfl | ⟨hdollar, hplaceholder⟩ := h.eq_or
  · exact Iff.rfl
  · have hletter : 'V' ∈ b := hplaceholder.subset (by decide)
    exact ⟨fun ha => absurd hdollar (hP a ha).1, fun hb => absurd hletter (hP b hb).2⟩

theorem Masks.eq_iff {t : List Char} (ht : '$' ∉ t ∧ 'V' ∉ t) (h : Masks a b) : a = t ↔ b = t := by
  refine h.iff_of (P := (· = t)) ?_
  rintro _ rfl
  exact ht

/-- A name without dollar signs and the letter `v`, case aside, is both texts or neither. -/
theorem Masks.eqIgnoringCase_eq (h : Masks a b) (name : List Char)
    (hname : '$' ∉ name.map Char.toLower ∧ 'v' ∉ name.map Char.toLower) :
    Text.eqIgnoringCase a name = Text.eqIgnoringCase b name := by
  rw [Bool.eq_iff_iff]
  refine h.iff_of (P := fun t => Text.eqIgnoringCase t name = true) fun t ht => ?_
  have hsame : t.map Char.toLower = name.map Char.toLower := by simpa [Text.eqIgnoringCase] using ht
  rw [← hsame] at hname
  exact ⟨fun hmem => hname.1 (List.mem_map.mpr ⟨'$', hmem, rfl⟩),
    fun hmem => hname.2 (List.mem_map.mpr ⟨'V', hmem, rfl⟩)⟩

/-! ### Cutting -/

/-- Where one text has a character that is no mark, the other has it between the same parts. -/
theorem Masks.split (hc : c ≠ '$') (h : Masks (a ++ c :: a') b) :
    ∃ front back, b = front ++ c :: back ∧ Masks a front ∧ Masks a' back := by
  induction a generalizing b with
  | nil =>
    cases h with
    | char _ h => exact ⟨[], _, rfl, .nil, h⟩
    | amount _ => exact absurd rfl hc
  | cons d a ih =>
    cases h with
    | char _ h =>
      obtain ⟨front, back, rfl, hfront, hback⟩ := ih h
      exact ⟨d :: front, back, rfl, .char d hfront, hback⟩
    | amount h =>
      obtain ⟨front, back, rfl, hfront, hback⟩ := ih h
      exact ⟨currencyPlaceholder.toList ++ front, back, (List.append_assoc _ _ _).symm, .amount hfront, hback⟩

theorem Masks.mem_iff (hc : c ∉ marks) (h : Masks a b) : c ∈ a ↔ c ∈ b := by
  induction h with
  | nil => exact Iff.rfl
  | char d _ ih => rw [List.mem_cons, List.mem_cons, ih]
  | amount _ ih =>
    obtain ⟨hdollar, hplaceholder⟩ : c ≠ '$' ∧ c ∉ currencyPlaceholder.toList := by
      rwa [marks, List.mem_cons, not_or] at hc
    rw [List.mem_cons, List.mem_append, ih, or_iff_right hdollar, or_iff_right hplaceholder]

theorem forall_placeholder (hp : marks.all p = true) : ∀ c ∈ currencyPlaceholder.toList, p c = true :=
  fun c hc => List.all_eq_true.mp hp c (List.mem_cons_of_mem _ hc)

theorem dollar_of_all_marks (hp : marks.all p = true) : p '$' = true :=
  List.all_eq_true.mp hp '$' List.mem_cons_self

theorem Masks.takeWhile (hp : marks.all p = true) (h : Masks a b) :
    Masks (a.takeWhile p) (b.takeWhile p) := by
  induction h with
  | nil => exact .nil
  | char c _ ih =>
    rw [List.takeWhile_cons, List.takeWhile_cons]
    split
    · exact .char c ih
    · exact .nil
  | amount _ ih =>
    rw [List.takeWhile_cons_of_pos (dollar_of_all_marks hp),
      List.takeWhile_append_of_pos (forall_placeholder hp)]
    exact .amount ih

theorem Masks.dropWhile (hp : marks.all p = true) (h : Masks a b) :
    Masks (a.dropWhile p) (b.dropWhile p) := by
  induction h with
  | nil => exact .nil
  | char c h ih =>
    rw [List.dropWhile_cons, List.dropWhile_cons]
    split
    · exact ih
    · exact .char c h
  | amount _ ih =>
    rw [List.dropWhile_cons_of_pos (dollar_of_all_marks hp),
      List.dropWhile_append_of_pos (forall_placeholder hp)]
    exact ih

theorem Masks.filter (hp : marks.all p = true) (h : Masks a b) : Masks (a.filter p) (b.filter p) := by
  induction h with
  | nil => exact .nil
  | char c _ ih =>
    rw [List.filter_cons, List.filter_cons]
    split
    · exact .char c ih
    · exact ih
  | amount _ ih =>
    rw [List.filter_cons_of_pos (dollar_of_all_marks hp), List.filter_append,
      List.filter_eq_self.mpr (forall_placeholder hp)]
    exact .amount ih

end Markup

/-- A text without separators goes into the first piece. -/
theorem Text.pieces_append_of_forall_not {p : Char → Bool} {cs piece : List Char}
    {rest : List (List Char)} (h : pieces p cs = piece :: rest) :
    ∀ w : List Char, (∀ c ∈ w, p c = false) → pieces p (w ++ cs) = (w ++ piece) :: rest
  | [], _ => h
  | c :: w, hw => by
      have hlater := pieces_append_of_forall_not h w fun d hd => hw d (List.mem_cons_of_mem c hd)
      exact pieces_cons_of_neg (hw c List.mem_cons_self) hlater

namespace Markup

open ContentPath

variable {a b : List Char} {S T : List (List Char)}

/-! ### Reading -/

theorem Masks.pieces (h : Masks a b) :
    List.Forall₂ Masks (Text.pieces isSlash a) (Text.pieces isSlash b) := by
  induction h with
  | nil => exact .cons .nil .nil
  | @char c a b _ ih =>
    cases hc : isSlash c with
    | true =>
      rw [Text.pieces_cons_of_pos hc, Text.pieces_cons_of_pos hc]
      exact .cons .nil ih
    | false =>
      obtain ⟨s, rest, ha⟩ := List.exists_cons_of_ne_nil (Text.pieces_ne_nil (p := isSlash) a)
      obtain ⟨s', rest', hb⟩ := List.exists_cons_of_ne_nil (Text.pieces_ne_nil (p := isSlash) b)
      rw [Text.pieces_cons_of_neg hc ha, Text.pieces_cons_of_neg hc hb]
      rw [ha, hb] at ih
      obtain ⟨hs, hrest⟩ := List.forall₂_cons.mp ih
      exact .cons (.char c hs) hrest
  | @amount a b _ ih =>
    obtain ⟨s, rest, ha⟩ := List.exists_cons_of_ne_nil (Text.pieces_ne_nil (p := isSlash) a)
    obtain ⟨s', rest', hb⟩ := List.exists_cons_of_ne_nil (Text.pieces_ne_nil (p := isSlash) b)
    have hslash : ∀ c ∈ currencyPlaceholder.toList, (!isSlash c) = true := forall_placeholder (by decide)
    rw [Text.pieces_cons_of_neg (by decide) ha,
      Text.pieces_append_of_forall_not hb currencyPlaceholder.toList fun c hc => by simpa using hslash c hc]
    rw [ha, hb] at ih
    obtain ⟨hs, hrest⟩ := List.forall₂_cons.mp ih
    exact .cons (.amount hs) hrest

/-- A segment is skipped, goes back or is taken in both texts. -/
theorem forall₂_pushSegment (hstack : List.Forall₂ Masks S T) (h : Masks a b) :
    List.Forall₂ Masks (pushSegment S a) (pushSegment T b) := by
  have hskip : (a = [] ∨ a = ['.']) ↔ (b = [] ∨ b = ['.']) :=
    or_congr (h.eq_iff (by decide)) (h.eq_iff (by decide))
  have hback : a = ['.', '.'] ↔ b = ['.', '.'] := h.eq_iff (by decide)
  unfold pushSegment
  by_cases ha : a = [] ∨ a = ['.']
  · rw [if_pos ha, if_pos (hskip.mp ha)]
    exact hstack
  · rw [if_neg ha, if_neg (mt hskip.mpr ha)]
    by_cases hdots : a = ['.', '.']
    · rw [if_pos hdots, if_pos (hback.mp hdots)]
      cases hstack with
      | nil => exact .nil
      | cons _ hrest => exact hrest
    · rw [if_neg hdots, if_neg (mt hback.mpr hdots)]
      exact .cons h hstack

theorem forall₂_foldl_pushSegment {segments segments' : List (List Char)}
    (h : List.Forall₂ Masks segments segments') (hstack : List.Forall₂ Masks S T) :
    List.Forall₂ Masks (segments.foldl pushSegment S) (segments'.foldl pushSegment T) := by
  induction h generalizing S T with
  | nil => exact hstack
  | cons hs _ ih => exact ih (forall₂_pushSegment hstack hs)

theorem Masks.stackOf (h : Masks a b) : List.Forall₂ Masks (stackOf a) (stackOf b) :=
  forall₂_foldl_pushSegment (h.filter (by decide)).pieces .nil

theorem Masks.flatMap (h : List.Forall₂ Masks S T) :
    Masks (S.flatMap ('/' :: ·)) (T.flatMap ('/' :: ·)) := by
  induction h with
  | nil => exact .nil
  | cons hs _ ih => exact (Masks.char '/' hs).append ih

theorem Masks.render (h : List.Forall₂ Masks S T) : Masks (ContentPath.render S) (ContentPath.render T) := by
  have hkept : List.Forall₂ Masks (S.filter (· ≠ [])) (T.filter (· ≠ [])) := by
    induction h with
    | nil => exact .nil
    | @cons s t S T hs _ ih =>
      have hempty : s = [] ↔ t = [] := hs.eq_iff (by decide)
      by_cases hs' : s = []
      · rw [List.filter_cons_of_neg (by simpa using hs'), List.filter_cons_of_neg (by simpa using hempty.mp hs')]
        exact ih
      · rw [List.filter_cons_of_pos (by simpa using hs'),
          List.filter_cons_of_pos (by simpa using mt hempty.mpr hs')]
        exact .cons hs ih
  unfold ContentPath.render
  generalize S.filter (· ≠ []) = S' at hkept
  generalize T.filter (· ≠ []) = T' at hkept
  cases hkept with
  | nil => exact Masks.refl _
  | cons hs hrest => exact Masks.flatMap (.cons hs hrest)

/-! ### Extensions -/

theorem markdownStemChars?_append (stem : List Char) {ext : List Char} (h : '.' ∉ ext) :
    markdownStemChars? (stem ++ '.' :: ext) =
      if stem ≠ [] ∧ markdownExtensions.any (fun e => Text.eqIgnoringCase ext e.toList) then some stem
      else none := by
  rw [markdownStemChars?, splitAtLast_append stem h]

theorem Masks.bareName (h : Masks a b) : Masks (bareName a) (bareName b) := by
  obtain hnone | ⟨stem, c, ext, rfl, hc, hext⟩ := Text.exists_last_separator (p := (· == '.')) a
  · have hdot : '.' ∉ a := fun hmem => absurd (hnone '.' hmem) (by decide)
    have hdot' : '.' ∉ b := mt (h.mem_iff (by decide)).mpr hdot
    rw [Folio.bareName, Folio.bareName, markdownStemChars?, markdownStemChars?,
      splitAtLast_of_not_mem hdot, splitAtLast_of_not_mem hdot']
    exact h
  · obtain rfl : c = '.' := by simpa using hc
    obtain ⟨stem', ext', rfl, hstem, hexts⟩ := h.split (by decide)
    have hdot : '.' ∉ ext := fun hmem => absurd (hext '.' hmem) (by decide)
    have hdot' : '.' ∉ ext' := mt (hexts.mem_iff (by decide)).mpr hdot
    have hempty : stem ≠ [] ↔ stem' ≠ [] := not_congr (hstem.eq_iff (by decide))
    have hknown : markdownExtensions.any (fun e => Text.eqIgnoringCase ext e.toList) =
        markdownExtensions.any (fun e => Text.eqIgnoringCase ext' e.toList) := by
      simp only [markdownExtensions, List.any_cons, List.any_nil,
        hexts.eqIgnoringCase_eq "md".toList (by decide),
        hexts.eqIgnoringCase_eq "mdx".toList (by decide)]
    rw [Folio.bareName, Folio.bareName, markdownStemChars?_append stem hdot,
      markdownStemChars?_append stem' hdot', hknown]
    simp only [hempty]
    split
    · exact hstem
    · exact h

theorem Masks.dropMarkdownExtension (h : Masks a b) :
    Masks (dropMarkdownExtensionChars a) (dropMarkdownExtensionChars b) := by
  obtain hnone | ⟨front, c, name, rfl, hc, hname⟩ := Text.exists_last_separator (p := isSlash) a
  · have hslash : '/' ∉ a := fun hmem => absurd (hnone '/' hmem) (by decide)
    rw [dropMarkdownExtensionChars_of_no_slash hslash,
      dropMarkdownExtensionChars_of_no_slash (mt (h.mem_iff (by decide)).mpr hslash)]
    exact h.bareName
  · obtain rfl : c = '/' := by simpa [isSlash] using hc
    obtain ⟨front', name', rfl, hfront, hnames⟩ := h.split (by decide)
    have hslash : '/' ∉ name := fun hmem => absurd (hname '/' hmem) (by decide)
    rw [dropMarkdownExtensionChars_append front hslash,
      dropMarkdownExtensionChars_append front' (mt (hnames.mem_iff (by decide)).mpr hslash)]
    exact hfront.append (.char '/' hnames.bareName)

/-! ### Routes -/

/-- The segments of a path, the last of them first, without the name of an index. -/
def withoutIndex : List (List Char) → List (List Char)
  | [] => []
  | s :: rest => if indexStems.any (fun stem => Text.eqIgnoringCase s stem.toList) then rest else s :: rest

theorem Masks.withoutIndex (h : List.Forall₂ Masks S T) :
    List.Forall₂ Masks (withoutIndex S) (withoutIndex T) := by
  cases h with
  | nil => exact .nil
  | @cons s t S T hs hrest =>
    have hindex : indexStems.any (fun stem => Text.eqIgnoringCase s stem.toList) =
        indexStems.any (fun stem => Text.eqIgnoringCase t stem.toList) := by
      simp only [indexStems, List.any_cons, List.any_nil,
        hs.eqIgnoringCase_eq "readme".toList (by decide),
        hs.eqIgnoringCase_eq "_index".toList (by decide)]
    rw [Markup.withoutIndex, Markup.withoutIndex, hindex]
    split
    · exact hrest
    · exact .cons hs hrest

theorem toList_text_ofSegments_ofList (segments : List (List Char)) :
    (ofSegments (segments.map String.ofList)).text.toList = ContentPath.render segments := by
  rw [ofSegments, String.toList_ofList, List.map_map]
  simp [Function.comp_def]

theorem isIndexStem_ofList (s : List Char) :
    isIndexStem (String.ofList s) = indexStems.any (fun stem => Text.eqIgnoringCase s stem.toList) := by
  have hstem : isStem (String.ofList s) = fun stem => Text.eqIgnoringCase s stem.toList := by
    funext stem
    rw [isStem, String.toList_ofList]
  rw [isIndexStem, hstem]

/-- Collapsing the index of a path takes the name of an index off its segments. -/
theorem collapseIndex_ofChars (raw : List Char) :
    (ofChars raw).collapseIndex.text.toList =
      ContentPath.render (Markup.withoutIndex (ContentPath.stackOf raw)).reverse := by
  have hpath : ofChars raw = ofSegments ((ContentPath.stackOf raw).reverse.map String.ofList) := by
    rw [ofChars, ofString_eq_ofSegments, cleanNames, String.toList_ofList]
  have hclean := isClean_of_mem_stackOf raw
  rw [hpath]
  cases hstack : ContentPath.stackOf raw with
  | nil => decide +kernel
  | cons s rest =>
    rw [hstack] at hclean
    have hnames : ∀ n ∈ rest.reverse.map String.ofList ++ [String.ofList s], IsName n.toList := by
      intro n hn
      rw [← List.map_singleton, ← List.map_append, ← List.reverse_cons] at hn
      obtain ⟨t, ht, rfl⟩ := List.mem_map.mp hn
      rw [String.toList_ofList]
      exact (hclean t (List.mem_reverse.mp ht)).isName
    rw [List.reverse_cons, List.map_append, List.map_singleton, ContentPath.collapseIndex,
      fileName?_ofSegments_append hnames]
    dsimp only
    rw [isIndexStem_ofList, Markup.withoutIndex]
    split
    · rw [parent_ofSegments_append hnames, toList_text_ofSegments_ofList]
    · rw [← List.map_singleton, ← List.map_append, ← List.reverse_cons, toList_text_ofSegments_ofList]

/-- Masking the currency of a reference masks that of the path it leads to. -/
theorem Masks.collapseIndex (h : Masks a b) :
    Masks (ofChars a).collapseIndex.text.toList (ofChars b).collapseIndex.text.toList := by
  rw [collapseIndex_ofChars, collapseIndex_ofChars]
  exact Masks.render (List.forall₂_reverse_iff.mpr (Masks.withoutIndex h.stackOf))

end Markup

end Folio
