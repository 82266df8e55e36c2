import Mathlib.Logic.Function.Iterate
import Folio.Proofs.KeptNodes
import Folio.Proofs.SafeForest

/-! # A clean tree stays as it is

What is safe passes the sanitizer unchanged: a safe attribute is kept and its value is not touched
(`Attr.IsSafe.keeps`, `Attr.IsSafe.guardName_eq`), hence a safe element is clean, and in a grove whose
forest is safe nothing is dropped, unwrapped or counted.  A grove that replaces itself leaves every cell
of the tree as it was (`Replaces.eq_of_same`).  The first cleaning leaves a safe forest below the root
(`Forest.sanitize_isSafe`), so every further one finds nothing to do (`WellFormed.sanitize_sanitize`). -/

namespace Folio.Html

/-! ### Safe attributes and elements -/

/-- A safe attribute stays. -/
theorem Attr.IsSafe.keeps {e : Element} {a : Attr} (h : a.IsSafe e.space e.tag) :
    keepsAttr e a = true := by
  have haddress : (!urlAttrs.contains a.name || isAllowedAddress a.value) = true := by
    by_cases hurl : a.name ∈ urlAttrs
    · simp [h.address hurl]
    · simp [hurl]
  unfold keepsAttr
  rw [h.allowed, haddress]
  rfl

/-- The value of a safe attribute is not guarded again. -/
theorem Attr.IsSafe.guardName_eq {space : Space} {tag : String} {a : Attr} (h : a.IsSafe space tag) :
    guardName a = a := by
  unfold guardName
  by_cases hname : a.name = "name"
  · have hstart : clobberPrefix.toList.isPrefixOf a.value.toList = true :=
      List.isPrefixOf_iff_prefix.mpr (h.guarded hname)
    simp [hstart]
  · simp [hname]

namespace Element

variable {e : Element}

theorem IsSafe.allows (h : e.IsSafe) : allowsElement e = true := by
  have hinput : (e.tag ≠ "input" || isCheckbox e) = true := by
    by_cases htag : e.tag = "input"
    · simp [h.checkbox htag]
    · simp [htag]
  unfold allowsElement
  rw [h.listed, hinput]
  rfl

/-- No attribute of a safe element is counted. -/
theorem IsSafe.filter_not_keeps (h : e.IsSafe) : e.attrs.filter (!keepsAttr e ·) = [] := by
  apply List.filter_eq_nil_iff.mpr
  intro a ha
  simp [(h.attrs a ha).keeps]

/-- A safe element is clean. -/
theorem IsSafe.cleanElement_eq (h : e.IsSafe) : cleanElement e = e := by
  have hkept : e.attrs.filter (keepsAttr e) = e.attrs :=
    List.filter_eq_self.mpr fun a ha => (h.attrs a ha).keeps
  have hguarded : e.attrs.map guardName = e.attrs.map id :=
    List.map_congr_left fun a ha => (h.attrs a ha).guardName_eq
  unfold cleanElement
  rw [hkept, hguarded, List.map_id]

end Element

/-! ### Safe forests -/

/-- Of a safe forest nothing is removed. -/
theorem Forest.IsSafe.removed_eq : ∀ {f : Forest}, f.IsSafe → f.removed = {}
  | .nil, _ => rfl
  | .text _ next, h => by
    have hnext : next.IsSafe := h
    exact hnext.removed_eq
  | .element e children next, ⟨he, hchildren, hnext⟩ => by
    unfold Forest.removed
    rw [if_pos he.allows, he.filter_not_keeps, hchildren.removed_eq, hnext.removed_eq]
    rfl

namespace Tree

variable {t : Tree} {p r : NodeId} {g : Grove}

/-- A grove whose forest is safe is clean. -/
theorem Holds.sanitize_eq : ∀ {p : NodeId} {g : Grove}, t.Holds p g → g.forest.IsSafe →
    g.sanitize = g
  | _, .nil, _, _ => rfl
  | p, .node id kind below next, ⟨_, hkind, hbelow, hnext⟩, hsafe => by
    cases kind with
    | document => exact absurd rfl hkind.1
    | comment s => exact hsafe.elim
    | doctype => exact hsafe.elim
    | text s =>
        have hrest : next.sanitize = next := hnext.sanitize_eq hsafe
        simp only [Grove.sanitize, hrest]
    | element e =>
        obtain ⟨he, hsafebelow, hsafenext⟩ := hsafe
        have hinner : below.sanitize = below := hbelow.sanitize_eq hsafebelow
        have hrest : next.sanitize = next := hnext.sanitize_eq hsafenext
        simp only [Grove.sanitize, he.allows, he.cleanElement_eq, hinner, hrest, if_true]

/-! ### Cleaning again -/

/-- Cleaning finds nothing to do below a node where the forest is safe. -/
theorem Stands.sanitize_of_isSafe (h : t.Stands r [] g []) (hsafe : g.forest.IsSafe) :
    t.sanitize r = ⟨t, {}⟩ := by
  obtain ⟨hreplaces, hremoved⟩ := h.sanitize
  rw [h.holds.sanitize_eq hsafe] at hreplaces
  have htree : (t.sanitize r).tree = t := hreplaces.eq_of_same h (size_sanitize t r)
  have hcount : (t.sanitize r).removed = {} := hremoved.trans hsafe.removed_eq
  calc t.sanitize r = ⟨(t.sanitize r).tree, (t.sanitize r).removed⟩ := rfl
    _ = ⟨t, {}⟩ := by rw [htree, hcount]

/-- Below the root of a clean tree stands a grove whose forest is safe. -/
theorem WellFormed.stands_sanitize (ht : t.WellFormed) (root : NodeId) :
    ∃ g, (t.sanitize root).tree.Stands root [] g [] ∧ g.forest.IsSafe := by
  obtain ⟨g, hg⟩ := ht.stands root
  refine ⟨g.sanitize, hg.sanitize.1.stands, ?_⟩
  rw [hg.holds.forest_sanitize]
  exact Forest.sanitize_isSafe g.forest

/-- The second cleaning changes nothing and counts nothing. -/
theorem WellFormed.sanitize_sanitize (ht : t.WellFormed) (root : NodeId) :
    (t.sanitize root).tree.sanitize root = ⟨(t.sanitize root).tree, {}⟩ := by
  obtain ⟨g, hg, hsafe⟩ := ht.stands_sanitize root
  exact hg.sanitize_of_isSafe hsafe

/-- The tree after some cleanings of what is below a node. -/
def sanitizeTimes (t : Tree) (root : NodeId) (times : Nat) : Tree :=
  (fun t => (t.sanitize root).tree)^[times] t

theorem WellFormed.sanitizeTimes_succ (ht : t.WellFormed) (root : NodeId) (times : Nat) :
    t.sanitizeTimes root (times + 1) = (t.sanitize root).tree := by
  have hfixed : ((t.sanitize root).tree.sanitize root).tree = (t.sanitize root).tree := by
    rw [ht.sanitize_sanitize root]
  unfold sanitizeTimes
  rw [Function.iterate_succ_apply]
  exact Function.iterate_fixed hfixed times

/-! ### Names -/

/-- A value that starts with the clobber prefix: it is the old one if that does, and else the old one
behind the prefix. -/
def GuardedOnce (old new : String) : Prop :=
  if clobberPrefix.toList <+: old.toList then new = old else new = clobberPrefix ++ old

theorem guardedOnce_guardName {a : Attr} (h : a.name = "name") :
    GuardedOnce a.value (guardName a).value := by
  unfold GuardedOnce guardName
  by_cases hstart : clobberPrefix.toList <+: a.value.toList
  · simp [hstart, List.isPrefixOf_iff_prefix.mpr hstart]
  · have hnot : clobberPrefix.toList.isPrefixOf a.value.toList = false :=
      Bool.eq_false_iff.mpr fun h => hstart (List.isPrefixOf_iff_prefix.mp h)
    simp [hstart, hnot, h]

/-- Each `name` of a clean element is one that the element had, guarded once. -/
theorem exists_of_mem_cleanElement {e : Element} {a : Attr} (ha : a ∈ (cleanElement e).attrs)
    (hname : a.name = "name") : ∃ b ∈ e.attrs, b.name = "name" ∧ GuardedOnce b.value a.value := by
  obtain ⟨b, hb, rfl⟩ := List.mem_map.mp ha
  rw [guardName_name] at hname
  exact ⟨b, (List.mem_filter.mp hb).1, hname, guardedOnce_guardName hname⟩

/-- **Cleaning is idempotent**: directly after a cleaning, another one leaves the whole tree as it is and
counts nothing.  So however often a tree is cleaned, it is the tree that the first cleaning leaves, and
below the root the value of a `name` is one that the same element had at first, behind the clobber prefix
if it did not start with it. -/
theorem sanitize_idempotent (ht : t.WellFormed) (root : NodeId) :
    (t.sanitize root).tree.sanitize root = ⟨(t.sanitize root).tree, {}⟩ ∧
    ∀ times, t.sanitizeTimes root (times + 1) = (t.sanitize root).tree ∧
      ∀ n ∈ (t.sanitizeTimes root (times + 1)).descendants root, ∀ e,
        (t.sanitizeTimes root (times + 1)).element? n = some e →
          ∀ a ∈ e.attrs, a.name = "name" →
            ∃ first, t.element? n = some first ∧
              ∃ b ∈ first.attrs, b.name = "name" ∧ GuardedOnce b.value a.value := by
  refine ⟨ht.sanitize_sanitize root, fun times => ?_⟩
  have hsame := ht.sanitizeTimes_succ root times
  refine ⟨hsame, ?_⟩
  rw [hsame]
  intro n hn e he a ha hname
  rw [(sanitize_sifted ht root).element?_eq hn] at he
  obtain ⟨first, hfirst, rfl⟩ := Option.map_eq_some_iff.mp he
  exact ⟨first, hfirst, exists_of_mem_cleanElement ha hname⟩

/-- A body with a font around a check box with a name and a handler, and a hidden remark. -/
def boxPage : Tree :=
  let put (t : Tree) (n : NodeId × NodeKind) : Tree := (t.create n.2).append n.1 t.cells.size
  [(0, .element (.ofHtml "body")), (1, .element (.ofHtml "font")),
    (2, .element (.ofHtml "input" [("type", "CheckBox"), ("name", "done"), ("onclick", "x()")])),
    (2, .comment "later")].foldl put empty

theorem boxPage_wellFormed : boxPage.WellFormed := by
  have hbody := empty_wellFormed.append_create 0 (.element (.ofHtml "body"))
    (by decide) (by decide) (by decide)
  have hfont := hbody.append_create 1 (.element (.ofHtml "font")) (by decide) (by decide) (by decide)
  have hbox := hfont.append_create 2
    (.element (.ofHtml "input" [("type", "CheckBox"), ("name", "done"), ("onclick", "x()")]))
    (by decide) (by decide) (by decide)
  exact hbox.append_create 2 (.comment "later") (by decide) (by decide) (by decide)

/-- The first cleaning unwraps the font and drops the handler, and of three cleanings only the first puts
the prefix before the name. -/
theorem sanitize_idempotent_boxPage :
    boxPage.WellFormed ∧ (boxPage.sanitize 1).removed = ⟨0, 1, 1⟩ ∧
      ((boxPage.sanitize 1).tree.sanitize 1).removed = ⟨0, 0, 0⟩ ∧
      (boxPage.sanitizeTimes 1 3).element? 3 =
        some (.ofHtml "input" [("type", "CheckBox"), ("name", "user-content-done")]) := by
  obtain ⟨hagain, htimes⟩ := sanitize_idempotent boxPage_wellFormed 1
  refine ⟨boxPage_wellFormed, by decide +kernel, ?_, ?_⟩
  · rw [hagain]
  · rw [(htimes 2).1]
    decide +kernel

end Tree

end Folio.Html
