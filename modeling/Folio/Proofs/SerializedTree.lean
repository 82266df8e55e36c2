import Folio.Html.Tree
import Folio.Proofs.Lexemes
import Mathlib.Data.List.Chain

/-! # Serialized HTML is read back

Reading the HTML of a forest of texts and listed elements gives the start tags with their attributes, the
texts and the end tags in the order in which a walk meets them (`Forest.IsPlain.lex_forest`), and so it is
for the nodes below a node of a tree (`Tree.lex_html`).  Directly inside a style or a script text is
written as it is, so a node with one of these tags is left out: there a text may be read as a tag
(`Tree.exists_raw_text_read_as_tag`). -/

namespace Folio.Html

/-! ### Forests -/

/-- An element that the lists allow, with attributes that they allow on it. -/
def Element.IsListed (e : Element) : Prop :=
  isListedTag e.space e.tag = true ∧ ∀ a ∈ e.attrs, allowsAttribute e.space e.tag a.name = true

instance (e : Element) : Decidable e.IsListed :=
  inferInstanceAs (Decidable (_ ∧ ∀ a ∈ e.attrs, _))

/-- The start tag of a listed element is read back. -/
theorem Element.IsListed.lexedTag?_startTagChars {e : Element} (h : e.IsListed) (cs : List Char) :
    lexedTag? (startTagChars e ++ cs) = some (.start e.tag e.attrs, cs) := by
  have hattrs : ∀ a ∈ e.attrs, IsWord a.name := fun a ha => isWord_of_allowsAttribute (h.2 a ha)
  exact Html.lexedTag?_startTagChars (isWord_of_isListedTag h.1).1 hattrs cs

namespace Forest

/-- What a walk in document order meets: the start tag of every element with its attributes, every text,
and the end tag of every element that is not void. -/
def lexemes : Forest → List Lexeme
  | nil => []
  | text s next => .text s :: next.lexemes
  | comment _ next => next.lexemes
  | doctype next => next.lexemes
  | element e children next =>
    .start e.tag e.attrs ::
      (children.lexemes ++ (if voidElements.contains e.tag then [] else [.close e.tag]) ++ next.lexemes)

/-- Whether the first node is a text. -/
def startsWithText : Forest → Bool
  | text _ _ => true
  | _ => false

/-- Texts and listed elements only: no text is empty or stands next to another, and nothing is in a void
element. -/
def IsPlain : Forest → Prop
  | nil => True
  | text s next => s ≠ "" ∧ next.startsWithText = false ∧ next.IsPlain
  | comment _ _ => False
  | doctype _ => False
  | element e children next =>
    e.IsListed ∧ (voidElements.contains e.tag = true → children = nil) ∧ children.IsPlain ∧ next.IsPlain

-- stated here because the equations that Lean derives evaluate the texts of comments and document types
theorem htmlChars_text (raw : Bool) (s : String) (next : Forest) :
    (text s next).htmlChars raw =
      (if raw then s.toList else s.toList.flatMap escapeTextChar) ++ next.htmlChars raw := rfl

theorem htmlChars_element (raw : Bool) (e : Element) (children next : Forest) :
    (element e children next).htmlChars raw =
      startTagChars e ++
        (if voidElements.contains e.tag then []
         else children.htmlChars (isRawText e.tag) ++ endTagChars e) ++ next.htmlChars raw := rfl

variable {f : Forest} {cs : List Char}

/-- A text in front of a plain forest that does not start with another ends there. -/
theorem IsPlain.endsText (hf : f.IsPlain) (hfirst : f.startsWithText = false) (hcs : EndsText cs) :
    EndsText (f.htmlChars false ++ cs) := by
  cases f with
  | nil => exact hcs
  | text s next => cases hfirst
  | comment s next => exact hf.elim
  | doctype next => exact hf.elim
  | element e children next =>
    refine .inr ?_
    simp only [htmlChars_element, List.append_assoc, hf.1.lexedTag?_startTagChars, Option.isSome_some]

/-- What is written for a plain forest is read as its lexemes, whatever tag comes after it. -/
theorem IsPlain.lexFrom_htmlChars (hf : f.IsPlain) (hcs : EndsText cs) :
    lexFrom [] (f.htmlChars false ++ cs) = f.lexemes ++ lexFrom [] cs := by
  induction f generalizing cs with
  | nil => rfl
  | text s next ih =>
    obtain ⟨hs, hnext, hplain⟩ := hf
    have hends := hplain.endsText hnext hcs
    rw [htmlChars_text, List.append_assoc, if_neg Bool.false_ne_true, lexFrom_escapedText hs hends,
      ih hplain hcs, lexemes, List.cons_append]
  | comment s next => exact hf.elim
  | doctype next => exact hf.elim
  | element e children next ihchildren ihnext =>
    obtain ⟨he, hvoid, hchildren, hnext⟩ := hf
    obtain ⟨hword, hraw⟩ := isWord_of_isListedTag he.1
    simp only [htmlChars_element, lexemes, hraw, List.append_assoc, lexFrom_of_lexedTag? (he.lexedTag?_startTagChars _)]
    split
    · rename_i hempty
      rw [hvoid hempty, List.nil_append, ihnext hnext hcs]
      simp [textRun, lexemes]
    · have hend := lexedTag?_endTagChars hword (next.htmlChars false ++ cs)
      have hcloses : EndsText (endTagChars e ++ (next.htmlChars false ++ cs)) := .inr (by simp [hend])
      rw [List.append_assoc, ihchildren hchildren hcloses, lexFrom_of_lexedTag? hend, ihnext hnext hcs]
      simp [textRun]

/-- A plain forest is read back from its HTML. -/
theorem IsPlain.lex_forest (hf : f.IsPlain) : lex f.html = f.lexemes := by
  have hread : lexFrom [] (f.htmlChars false ++ []) = f.lexemes ++ lexFrom [] [] :=
    hf.lexFrom_htmlChars (.inl rfl)
  rw [List.append_nil] at hread
  rw [lex, html, String.toList_ofList, hread]
  simp [lexFrom, lexedTag?, textRun]

end Forest

/-! ### Trees -/

/-- A text that is not empty or a listed element. -/
def NodeKind.IsPlain : NodeKind → Prop
  | .text s => s ≠ ""
  | .element e => e.IsListed
  | .document | .comment _ | .doctype => False

instance : (kind : NodeKind) → Decidable kind.IsPlain
  | .text s => inferInstanceAs (Decidable (s ≠ ""))
  | .element e => inferInstanceAs (Decidable e.IsListed)
  | .document | .comment _ | .doctype => inferInstanceAs (Decidable False)

namespace Tree

/-- Below a node there are only texts and listed elements; no text is empty or stands next to another,
and void elements have no children. -/
structure PlainBelow (t : Tree) (root : NodeId) : Prop where
  kind : ∀ n, t.IsBelow root n → (t.cell n).kind.IsPlain
  apart : ∀ p, p = root ∨ t.IsBelow root p →
    (t.children p).IsChain fun a b => ¬((t.text? a).isSome ∧ (t.text? b).isSome)
  void : ∀ n tag, t.IsBelow root n → t.tag? n = some tag → voidElements.contains tag = true →
    t.children n = []

variable {t : Tree} {root : NodeId}

/-- A child of the node or of one below it is below it. -/
theorem IsBelow.of_child {p c : NodeId} (hp : p = root ∨ t.IsBelow root p) (hc : c ∈ t.children p) :
    t.IsBelow root c := by
  rcases hp with rfl | hp
  · exact .child hc
  · exact .step hp hc

/-- What holds of the forest of all children of a node, here and below, if it holds of the forests of their
children, holds of the forest below the node. -/
theorem forest_of_below {P : Forest → Prop} (hnil : P .nil)
    (hchildren : ∀ depth p, p = root ∨ t.IsBelow root p →
      (∀ id, t.IsBelow root id → P (t.forestBelow depth (t.children id))) →
      P (t.forestBelow (depth + 1) (t.children p))) : P (t.forest root) := by
  have hbelow : ∀ depth p, p = root ∨ t.IsBelow root p → P (t.forestBelow depth (t.children p)) := by
    intro depth
    induction depth with
    | zero => exact fun _ _ => hnil
    | succ depth ih => exact fun p hp => hchildren depth p hp fun id hid => ih id (.inr hid)
  exact hbelow _ root (.inl rfl)

/-- The forest of some nodes starts with a text only if the first of them is one. -/
theorem startsWithText_forestBelow {depth : Nat} {ids : List NodeId}
    (hkind : ∀ id ∈ ids.head?, (t.cell id).kind.IsPlain ∧ ¬(t.text? id).isSome) :
    (t.forestBelow depth ids).startsWithText = false := by
  cases depth with
  | zero => rfl
  | succ depth =>
    cases ids with
    | nil => rfl
    | cons id ids =>
      obtain ⟨hid, hnot⟩ := hkind id rfl
      rw [forestBelow, List.foldr_cons]
      cases hcell : (t.cell id).kind with
      | element e => rfl
      | text s => simp [text?, hcell] at hnot
      | document | comment s | doctype => exact (hcell ▸ hid).elim

namespace PlainBelow

/-- The forest of the last children of a node is plain, if the forests of their children are. -/
theorem forestBelow_succ (h : t.PlainBelow root) {depth : Nat}
    (ih : ∀ id, t.IsBelow root id → (t.forestBelow depth (t.children id)).IsPlain) :
    ∀ {ids : List NodeId}, (∀ id ∈ ids, t.IsBelow root id) →
      ids.IsChain (fun a b => ¬((t.text? a).isSome ∧ (t.text? b).isSome)) →
      (t.forestBelow (depth + 1) ids).IsPlain
  | [], _, _ => trivial
  | id :: ids, hbelow, hchain => by
    obtain ⟨hid, hids⟩ := List.forall_mem_cons.mp hbelow
    have hnext := h.forestBelow_succ ih hids hchain.tail
    have hkind := h.kind id hid
    rw [forestBelow, List.foldr_cons]
    cases hcell : (t.cell id).kind with
    | text s =>
      rw [hcell] at hkind
      have hfirst : (t.forestBelow (depth + 1) ids).startsWithText = false := by
        refine startsWithText_forestBelow fun next hnext => ?_
        obtain ⟨rest, rfl⟩ := List.head?_eq_some_iff.mp hnext
        have hapart := (List.isChain_cons_cons.mp hchain).1
        refine ⟨h.kind next (hids next List.mem_cons_self), fun htext => hapart ⟨?_, htext⟩⟩
        simp [text?, hcell]
      exact ⟨hkind, hfirst, hnext⟩
    | element e =>
      rw [hcell] at hkind
      refine ⟨hkind, fun hvoid => ?_, ih id hid, hnext⟩
      rw [h.void id e.tag hid (by simp [tag?, element?, hcell]) hvoid]
      cases depth <;> rfl
    | document | comment s | doctype => exact (hcell ▸ hkind).elim

/-- The forest below a node is plain if what is below it is. -/
theorem forest_isPlain (h : t.PlainBelow root) : (t.forest root).IsPlain :=
  forest_of_below trivial fun _ p hp ih => h.forestBelow_succ ih (fun _ => IsBelow.of_child hp) (h.apart p hp)

end PlainBelow

/-- **Nothing breaks out of serialized HTML**: where only texts and listed elements stand below a node,
and the node is not a script or a style, its HTML is read as the start tags with their attributes, the
texts and the end tags that a walk in document order meets, whatever the texts and the values are. -/
theorem lex_html (h : t.PlainBelow root) (hroot : ∀ tag, t.tag? root = some tag → isRawText tag = false) :
    lex (t.html root) = (t.forest root).lexemes := by
  have hraw : ((t.tag? root).map isRawText).getD false = false := by
    cases htag : t.tag? root with
    | none => rfl
    | some tag => exact hroot tag htag
  rw [html, hraw, h.forest_isPlain.lex_forest]

/-- What is below a node is among nodes that hold its children and their own. -/
theorem IsBelow.mem_of_closed {ids : List NodeId} {n : NodeId} (h : t.IsBelow root n)
    (hroot : ∀ c ∈ t.children root, c ∈ ids) (hids : ∀ p ∈ ids, ∀ c ∈ t.children p, c ∈ ids) : n ∈ ids := by
  induction h with
  | child hc => exact hroot _ hc
  | step _ hc ih => exact hids _ ih _ hc

/-- To see that a node has only plain nodes below it, it is enough to look at some that hold them. -/
theorem PlainBelow.of_closed (ids : List NodeId) (hroot : ∀ c ∈ t.children root, c ∈ ids)
    (hids : ∀ p ∈ ids, ∀ c ∈ t.children p, c ∈ ids) (hkind : ∀ n ∈ ids, (t.cell n).kind.IsPlain)
    (hapart : ∀ p ∈ root :: ids,
      (t.children p).IsChain fun a b => ¬((t.text? a).isSome ∧ (t.text? b).isSome))
    (hvoid : ∀ n ∈ ids, (t.tag? n).any voidElements.contains = true → t.children n = []) :
    t.PlainBelow root where
  kind n hn := hkind n (hn.mem_of_closed hroot hids)
  apart p hp := by
    refine hapart p ?_
    rcases hp with rfl | hp
    · exact List.mem_cons_self
    · exact List.mem_cons_of_mem root (hp.mem_of_closed hroot hids)
  void n tag hn htag h := hvoid n (hn.mem_of_closed hroot hids) (by rw [htag]; exact h)

/-- A body with a paragraph that holds a text and an image; the values and the text look like markup. -/
def quotedPage : Tree :=
  let put (t : Tree) (n : NodeId × NodeKind) : Tree := (t.create n.2).append n.1 t.cells.size
  [(0, .element (.ofHtml "body")), (1, .element (.ofHtml "p" [("title", "\"> & <i>")])),
    (2, .text "</p>&amp;\u00a0"), (2, .element (.ofHtml "img" [("alt", "&quot;")]))].foldl put empty

/-- Nothing of it is taken for markup. -/
theorem lex_html_quotedPage :
    quotedPage.PlainBelow 1 ∧ (∀ tag, quotedPage.tag? 1 = some tag → isRawText tag = false) ∧
      lex (quotedPage.html 1) = (quotedPage.forest 1).lexemes ∧
      (quotedPage.forest 1).lexemes =
        [.start "p" [⟨"title", "\"> & <i>"⟩], .text "</p>&amp;\u00a0",
          .start "img" [⟨"alt", "&quot;"⟩], .close "p"] := by
  have hplain : quotedPage.PlainBelow 1 := by
    refine PlainBelow.of_closed [2, 3, 4] ?_ ?_ ?_ ?_ ?_
    all_goals decide +kernel
  have hroot : ∀ tag, quotedPage.tag? 1 = some tag → isRawText tag = false := by
    intro tag htag
    have hbody : quotedPage.tag? 1 = some "body" := by decide +kernel
    cases hbody.symm.trans htag
    decide
  exact ⟨hplain, hroot, lex_html hplain hroot, by decide +kernel⟩

/-- A style with a text in it. -/
def styleSheet : Tree :=
  ((empty.create (.element (.ofHtml "style"))).create (.text "<b>")).append 1 2

/-- Directly inside a style or a script, text is written as it is, so it may be read as a tag. -/
theorem exists_raw_text_read_as_tag :
    ∃ (t : Tree) (root : NodeId), t.PlainBelow root ∧
      lex (t.html root) = [.start "b" []] ∧ (t.forest root).lexemes = [.text "<b>"] := by
  refine ⟨styleSheet, 1, PlainBelow.of_closed [2] ?_ ?_ ?_ ?_ ?_, ?_, ?_⟩
  all_goals decide +kernel

end Tree

end Folio.Html
