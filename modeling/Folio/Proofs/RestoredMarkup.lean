import Folio.Proofs.Replacement
import Folio.Proofs.SerializedTree
import Mathlib.Data.Bool.AllAny

/-! # Currency in serialized HTML

Restoring the dollar signs of serialized HTML is restoring those of its texts and values and of nothing else
(`Tree.restoreDollars_html`): no placeholder runs out of a text or a value, since what stands around it is no
letter of the placeholder; the escapes keep these letters and write no others; and no name that the lists
allow holds a placeholder.  Two texts side by side could make one up, so there must be none. -/

namespace Folio.Html

open Folio.Markup

/-! ### Texts and values changed -/

/-- An attribute with its value changed. -/
def Attr.mapValue (f : String → String) (a : Attr) : Attr := { a with value := f a.value }

/-- An element with the values of its attributes changed. -/
def Element.mapValues (f : String → String) (e : Element) : Element :=
  { e with attrs := e.attrs.map (Attr.mapValue f) }

/-- A node with its text or the values of its attributes changed. -/
def NodeKind.mapTexts (f : String → String) : NodeKind → NodeKind
  | .text s => .text (f s)
  | .element e => .element (e.mapValues f)
  | kind => kind

/-- A forest with every text and the value of every attribute changed. -/
def Forest.mapTexts (f : String → String) : Forest → Forest
  | .nil => .nil
  | .text s next => .text (f s) (next.mapTexts f)
  | .comment s next => .comment s (next.mapTexts f)
  | .doctype next => .doctype (next.mapTexts f)
  | .element e children next => .element (e.mapValues f) (children.mapTexts f) (next.mapTexts f)

/-- A tree with every text and the value of every attribute changed, and nothing else. -/
def Tree.mapTexts (f : String → String) (t : Tree) : Tree :=
  ⟨t.cells.map fun c => { c with kind := c.kind.mapTexts f }⟩

/-! ### Tags -/

theorem restoreCurrency_append_cons {c : Char} (hc : c ∉ currencyPlaceholder.toList) (as bs : List Char) :
    restoreCurrency (as ++ c :: bs) = restoreCurrency as ++ c :: restoreCurrency bs :=
  Text.replaceAll_append_cons (by decide) hc as bs

theorem restoreCurrency_cons {c : Char} (hc : c ∉ currencyPlaceholder.toList) (cs : List Char) :
    restoreCurrency (c :: cs) = c :: restoreCurrency cs :=
  restoreCurrency_append_cons hc [] cs

theorem restoreCurrency_of_not_hasPlaceholder {s : String} (h : ¬ HasPlaceholder s) :
    restoreCurrency s.toList = s.toList := Text.replaceAll_eq_self h

theorem spares_escapeTextChar : Text.Spares escapeTextChar currencyPlaceholder.toList ['$'] where
  pattern := List.all_iff_forall_prop.mp (by decide)
  replacement := List.all_iff_forall_prop.mp (by decide)
  ne_nil c := by
    unfold escapeTextChar
    repeat' split
    all_goals simp
  other c hc := by
    unfold escapeTextChar
    repeat' split
    · exact List.all_iff_forall_prop.mp (by decide)
    · exact List.all_iff_forall_prop.mp (by decide)
    · exact List.all_iff_forall_prop.mp (by decide)
    · exact List.all_iff_forall_prop.mp (by decide)
    · simpa using hc

theorem spares_escapeAttrChar : Text.Spares escapeAttrChar currencyPlaceholder.toList ['$'] where
  pattern := List.all_iff_forall_prop.mp (by decide)
  replacement := List.all_iff_forall_prop.mp (by decide)
  ne_nil c := by
    unfold escapeAttrChar
    repeat' split
    all_goals simp
  other c hc := by
    unfold escapeAttrChar
    repeat' split
    · exact List.all_iff_forall_prop.mp (by decide)
    · exact List.all_iff_forall_prop.mp (by decide)
    · exact List.all_iff_forall_prop.mp (by decide)
    · simpa using hc

theorem restoreCurrency_attrChars {a : Attr} (ha : ¬ HasPlaceholder a.name) (cs : List Char) :
    restoreCurrency (attrChars a ++ cs) = attrChars (a.mapValue restoreDollars) ++ restoreCurrency cs := by
  have hvalue : restoreCurrency (a.value.toList.flatMap escapeAttrChar) =
      (restoreDollars a.value).toList.flatMap escapeAttrChar := by
    rw [restoreDollars, String.toList_ofList]
    exact spares_escapeAttrChar.replaceAll_flatMap (by decide) _
  rw [attrChars_append, attrChars_append, restoreCurrency_cons (by decide),
    restoreCurrency_append_cons (by decide), restoreCurrency_of_not_hasPlaceholder ha,
    restoreCurrency_cons (by decide), restoreCurrency_append_cons (by decide), hvalue]
  rfl

theorem restoreCurrency_attrs {attrs : List Attr} (h : ∀ a ∈ attrs, ¬ HasPlaceholder a.name)
    (cs : List Char) :
    restoreCurrency (attrs.flatMap attrChars ++ cs) =
      (attrs.map (Attr.mapValue restoreDollars)).flatMap attrChars ++ restoreCurrency cs := by
  induction attrs with
  | nil => rfl
  | cons a attrs ih =>
    obtain ⟨ha, hattrs⟩ := List.forall_mem_cons.mp h
    rw [List.flatMap_cons, List.append_assoc, restoreCurrency_attrChars ha, ih hattrs, List.map_cons,
      List.flatMap_cons, List.append_assoc]

theorem restoreCurrency_startTagChars {e : Element} (htag : ¬ HasPlaceholder e.tag)
    (hattrs : ∀ a ∈ e.attrs, ¬ HasPlaceholder a.name) (cs : List Char) :
    restoreCurrency (startTagChars e ++ cs) =
      startTagChars (e.mapValues restoreDollars) ++ restoreCurrency cs := by
  -- a blank or an angle bracket ends the name of the tag
  have hends : ∀ c ∈ (e.attrs.flatMap attrChars ++ '>' :: cs).head?, c ∉ currencyPlaceholder.toList := by
    obtain ⟨d, ds, hcons, hd⟩ := exists_cons_attrs e.attrs cs
    have hname : ∀ c ∈ currencyPlaceholder.toList, isNameChar c = true := List.all_eq_true.mp (by decide)
    rintro c hc hmem
    rw [hcons, List.head?_cons, Option.mem_some_iff] at hc
    rw [hc, hname c hmem] at hd
    cases hd
  rw [startTagChars_append, startTagChars_append, restoreCurrency_cons (by decide), restoreCurrency,
    Text.replaceAll_append_of_head? (by decide) _ hends, ← restoreCurrency, ← restoreCurrency,
    restoreCurrency_of_not_hasPlaceholder htag, restoreCurrency_attrs hattrs, restoreCurrency_cons (by decide)]
  rfl

theorem restoreCurrency_endTagChars {e : Element} (htag : ¬ HasPlaceholder e.tag) (cs : List Char) :
    restoreCurrency (endTagChars e ++ cs) =
      endTagChars (e.mapValues restoreDollars) ++ restoreCurrency cs := by
  rw [endTagChars_append, endTagChars_append, restoreCurrency_cons (by decide),
    restoreCurrency_cons (by decide), restoreCurrency_append_cons (by decide),
    restoreCurrency_of_not_hasPlaceholder htag]
  rfl

/-! ### Forests -/

/-- Names without the first letter of the placeholder are told by looking at their characters. -/
theorem not_hasPlaceholder_of_all {names : List String}
    (h : names.all (fun name => !name.toList.contains 'V') = true) :
    ∀ name ∈ names, ¬ HasPlaceholder name := by
  intro name hname hplaceholder
  have hletter : 'V' ∈ name.toList := hplaceholder.subset (by decide)
  have hnone := List.all_eq_true.mp h name hname
  simp [hletter] at hnone

theorem not_hasPlaceholder_of_isListedTag {space : Space} {tag : String} (h : isListedTag space tag = true) :
    ¬ HasPlaceholder tag := not_hasPlaceholder_of_all (by decide +kernel) tag (mem_of_isListedTag h)

theorem not_hasPlaceholder_of_allowsAttribute {space : Space} {tag name : String}
    (h : allowsAttribute space tag name = true) : ¬ HasPlaceholder name := by
  rcases mem_of_allowsAttribute h with h | h
  · exact not_hasPlaceholder_of_all (by decide +kernel) name h
  · unfold attributesOfTag at h
    split at h
    all_goals exact not_hasPlaceholder_of_all (by decide +kernel) name h

namespace Forest

/-- Texts and listed elements only, and no text stands next to another. -/
def IsListed : Forest → Prop
  | nil => True
  | text _ next => next.startsWithText = false ∧ next.IsListed
  | comment _ _ => False
  | doctype _ => False
  | element e children next => e.IsListed ∧ children.IsListed ∧ next.IsListed

variable {f : Forest} {cs : List Char}

/-- What is written behind a text goes on with no letter of the placeholder. -/
theorem IsListed.head?_htmlChars (hf : f.IsListed) (hfirst : f.startsWithText = false) (raw : Bool)
    (hcs : ∀ c ∈ cs.head?, c ∉ currencyPlaceholder.toList) :
    ∀ c ∈ (f.htmlChars raw ++ cs).head?, c ∉ currencyPlaceholder.toList := by
  cases f with
  | nil => exact hcs
  | text s next => cases hfirst
  | comment s next => exact hf.elim
  | doctype next => exact hf.elim
  | element e children next =>
    intro c hc
    have hbracket : c = '<' := by simpa [htmlChars_element, startTagChars, eq_comm] using hc
    rw [hbracket]
    decide

/-- A text that is written, escaped or not, is restored as the text is. -/
theorem restoreCurrency_text (raw : Bool) (s : String) :
    restoreCurrency (if raw then s.toList else s.toList.flatMap escapeTextChar) =
      if raw then (restoreDollars s).toList else (restoreDollars s).toList.flatMap escapeTextChar := by
  rw [restoreDollars, String.toList_ofList]
  cases raw with
  | true => rfl
  | false => exact spares_escapeTextChar.replaceAll_flatMap (by decide) _

/-- What is written for a listed forest is restored node by node, in front of anything that starts with no
letter of the placeholder. -/
theorem IsListed.restoreCurrency_htmlChars (hf : f.IsListed) (raw : Bool)
    (hcs : ∀ c ∈ cs.head?, c ∉ currencyPlaceholder.toList) :
    restoreCurrency (f.htmlChars raw ++ cs) =
      (f.mapTexts restoreDollars).htmlChars raw ++ restoreCurrency cs := by
  induction f generalizing raw cs with
  | nil => rfl
  | text s next ih =>
    obtain ⟨hfirst, hnext⟩ := hf
    have hends := hnext.head?_htmlChars hfirst raw hcs
    rw [htmlChars_text, mapTexts, htmlChars_text, List.append_assoc, restoreCurrency,
      Text.replaceAll_append_of_head? (by decide) _ hends, ← restoreCurrency, ← restoreCurrency,
      restoreCurrency_text, ih hnext raw hcs, List.append_assoc]
  | comment s next => exact hf.elim
  | doctype next => exact hf.elim
  | element e children next ihchildren ihnext =>
    obtain ⟨he, hchildren, hnext⟩ := hf
    have htag := not_hasPlaceholder_of_isListedTag he.1
    have hattrs : ∀ a ∈ e.attrs, ¬ HasPlaceholder a.name := fun a ha =>
      not_hasPlaceholder_of_allowsAttribute (he.2 a ha)
    have htag' : (e.mapValues restoreDollars).tag = e.tag := rfl
    rw [htmlChars_element, mapTexts, htmlChars_element, htag', List.append_assoc, List.append_assoc,
      restoreCurrency_startTagChars htag hattrs, List.append_assoc, List.append_assoc]
    congr 1
    by_cases hvoid : voidElements.contains e.tag = true
    · rw [if_pos hvoid, if_pos hvoid]
      exact ihnext hnext raw hcs
    · have hcloses : ∀ c ∈ (endTagChars e ++ (next.htmlChars raw ++ cs)).head?,
          c ∉ currencyPlaceholder.toList := by
        intro c hc
        have hbracket : c = '<' := by simpa [endTagChars, eq_comm] using hc
        rw [hbracket]
        decide
      rw [if_neg hvoid, if_neg hvoid, List.append_assoc, ihchildren hchildren _ hcloses,
        restoreCurrency_endTagChars htag, ihnext hnext raw hcs, List.append_assoc]

/-- A listed forest is restored node by node. -/
theorem IsListed.restoreDollars_forest (hf : f.IsListed) (raw : Bool) :
    restoreDollars (f.html raw) = (f.mapTexts restoreDollars).html raw := by
  have hrestored : restoreCurrency (f.htmlChars raw ++ []) =
      (f.mapTexts restoreDollars).htmlChars raw ++ restoreCurrency [] :=
    hf.restoreCurrency_htmlChars raw (by simp)
  rw [List.append_nil] at hrestored
  rw [restoreDollars, html, String.toList_ofList, hrestored]
  simp [html, restoreCurrency, Text.replaceAll, Text.replaceFrom]

theorem mapTexts_append (change : String → String) (f g : Forest) :
    (f ++ g).mapTexts change = f.mapTexts change ++ g.mapTexts change := by
  induction f with
  | nil => rfl
  | text s next ih => exact congrArg _ ih
  | comment s next ih => exact congrArg _ ih
  | doctype next ih => exact congrArg _ ih
  | element e children next _ ih => exact congrArg _ ih

end Forest

/-! ### Trees -/

/-- A text or a listed element. -/
def NodeKind.IsListed : NodeKind → Prop
  | .text _ => True
  | .element e => e.IsListed
  | .document | .comment _ | .doctype => False

namespace Tree

/-- Below a node there are only texts and listed elements, and no text stands next to another. -/
structure ListedBelow (t : Tree) (root : NodeId) : Prop where
  kind : ∀ n, t.IsBelow root n → (t.cell n).kind.IsListed
  apart : ∀ p, p = root ∨ t.IsBelow root p →
    (t.children p).IsChain fun a b => ¬((t.text? a).isSome ∧ (t.text? b).isSome)

variable {t : Tree} {root : NodeId}

theorem PlainBelow.listedBelow (h : t.PlainBelow root) : t.ListedBelow root where
  kind n hn := by
    have hplain := h.kind n hn
    cases hkind : (t.cell n).kind with
    | text s => trivial
    | element e =>
      rw [hkind] at hplain
      exact hplain
    | document | comment s | doctype => exact (hkind ▸ hplain).elim
  apart := h.apart

/-- The forest of the last children of a node is listed, if the forests of their children are. -/
theorem ListedBelow.forestBelow_succ (h : t.ListedBelow root) {depth : Nat}
    (ih : ∀ id, t.IsBelow root id → (t.forestBelow depth (t.children id)).IsListed) :
    ∀ {ids : List NodeId}, (∀ id ∈ ids, t.IsBelow root id) →
      ids.IsChain (fun a b => ¬((t.text? a).isSome ∧ (t.text? b).isSome)) →
      (t.forestBelow (depth + 1) ids).IsListed
  | [], _, _ => trivial
  | id :: ids, hbelow, hchain => by
    obtain ⟨hid, hids⟩ := List.forall_mem_cons.mp hbelow
    have hnext := h.forestBelow_succ ih hids hchain.tail
    have hkind := h.kind id hid
    rw [forestBelow, List.foldr_cons]
    cases hcell : (t.cell id).kind with
    | text s =>
      have hfirst : (t.forestBelow (depth + 1) ids).startsWithText = false := by
        refine startsWithText_forestBelow fun next hnext => ?_
        obtain ⟨rest, rfl⟩ := List.head?_eq_some_iff.mp hnext
        have hapart := (List.isChain_cons_cons.mp hchain).1
        have hkind' := h.kind next (hids next List.mem_cons_self)
        cases hcell' : (t.cell next).kind with
        | element e =>
          rw [hcell'] at hkind'
          exact ⟨hkind', by simp [text?, hcell']⟩
        | text s' => exact absurd ⟨by simp [text?, hcell], by simp [text?, hcell']⟩ hapart
        | document | comment s' | doctype => exact (hcell' ▸ hkind').elim
      exact ⟨hfirst, hnext⟩
    | element e =>
      rw [hcell] at hkind
      exact ⟨hkind, ih id hid, hnext⟩
    | document | comment s | doctype => exact (hcell ▸ hkind).elim

theorem ListedBelow.forest_isListed (h : t.ListedBelow root) : (t.forest root).IsListed :=
  forest_of_below trivial fun _ p hp ih => h.forestBelow_succ ih (fun _ => IsBelow.of_child hp) (h.apart p hp)

/-! ### Changing texts and values commutes with walking -/

variable (f : String → String) (t)

theorem cell_mapTexts (id : NodeId) :
    (t.mapTexts f).cell id = { t.cell id with kind := (t.cell id).kind.mapTexts f } := by
  by_cases hid : id < t.cells.size
  · simp [cell, mapTexts, Array.getD, hid]
  · simp [cell, mapTexts, Array.getD, hid, default, NodeKind.mapTexts]

theorem tag?_mapTexts (id : NodeId) : (t.mapTexts f).tag? id = t.tag? id := by
  rw [tag?, tag?, element?, element?, cell_mapTexts]
  cases (t.cell id).kind <;> rfl

theorem nodeForest_mapTexts (kind : NodeKind) (inner next : Forest) :
    nodeForest (kind.mapTexts f) (inner.mapTexts f) (next.mapTexts f) =
      (nodeForest kind inner next).mapTexts f := by
  cases kind with
  | document => exact (Forest.mapTexts_append f inner next).symm
  | element e | text s | comment s | doctype => rfl

theorem forestBelow_mapTexts (depth : Nat) (ids : List NodeId) :
    (t.mapTexts f).forestBelow depth ids = (t.forestBelow depth ids).mapTexts f := by
  induction depth generalizing ids with
  | zero => rfl
  | succ depth ihdepth =>
    rw [forestBelow, forestBelow]
    induction ids with
    | nil => rfl
    | cons id ids ih =>
      rw [List.foldr_cons, List.foldr_cons, ih, children, cell_mapTexts, ihdepth, nodeForest_mapTexts]
      rfl

theorem forest_mapTexts (id : NodeId) : (t.mapTexts f).forest id = (t.forest id).mapTexts f := by
  rw [forest, children, cell_mapTexts, forestBelow_mapTexts, mapTexts, Array.size_map]
  rfl

variable {t}

/-- **Restoring currency cannot damage markup**: where only texts and listed elements stand below a node and no
text stands next to another, restoring the dollar signs of its HTML gives the HTML of the tree in which those
of every text and of every attribute value are restored, and nothing else is changed. -/
theorem restoreDollars_html (h : t.ListedBelow root) :
    restoreDollars (t.html root) = (t.mapTexts restoreDollars).html root := by
  rw [html, h.forest_isListed.restoreDollars_forest, html, tag?_mapTexts, forest_mapTexts]

/-- A body with a paragraph: the value and the last text hold the placeholder between escapes, and two texts
hold the halves of it around the tag of another. -/
def pricedPage : Tree :=
  let put (t : Tree) (n : NodeId × NodeKind) : Tree := (t.create n.2).append n.1 t.cells.size
  [(0, .element (.ofHtml "body")), (1, .element (.ofHtml "p" [("title", "\"VPCURRENCYDOLLAR5\"")])),
    (2, .text "VPCURRENCY"), (2, .element (.ofHtml "b")), (4, .text "DOLLAR6"),
    (2, .text "&VPCURRENCYDOLLAR7<")].foldl put empty

/-- Only the whole ones are restored. -/
theorem restoreDollars_html_pricedPage :
    pricedPage.ListedBelow 1 ∧
      restoreDollars (pricedPage.html 1) = (pricedPage.mapTexts restoreDollars).html 1 ∧
      restoreDollars (pricedPage.html 1) =
        "<p title=\"&quot;$5&quot;\">VPCURRENCY<b>DOLLAR6</b>&amp;$7&lt;</p>" := by
  have hplain : pricedPage.PlainBelow 1 := by
    refine PlainBelow.of_closed [2, 3, 4, 5, 6] ?_ ?_ ?_ ?_ ?_
    all_goals decide +kernel
  exact ⟨hplain.listedBelow, restoreDollars_html hplain.listedBelow, by decide +kernel⟩

end Tree

end Folio.Html
