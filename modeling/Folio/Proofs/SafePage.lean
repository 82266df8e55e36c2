import Folio.Proofs.PassLinks
import Folio.Proofs.SafeForest
import Folio.Proofs.SanitizeTree
import Folio.Proofs.StructureTree

/-! # A finished page is safe

Finishing runs four passes over one tree.  Rendering math and marking code leave a well-formed tree, so a
grove stands below the root; cleaning leaves there what is left of the grove, whose forest is safe; and
adding the structure keeps it safe.  So of a finished page, only texts and safe elements can be reached
from the root. -/

namespace Folio.Html

/-- A node that a page may hold: a text or a safe element. -/
inductive NodeKind.IsSafe : NodeKind → Prop
  | text (s : String) : IsSafe (.text s)
  | element {e : Element} (h : e.IsSafe) : IsSafe (.element e)

namespace Tree

variable {t : Tree} {r : NodeId} {g : Grove}

/-- The nodes of a grove whose forest is safe are safe. -/
theorem Holds.isSafe_kind {n : NodeId} : ∀ {p : NodeId} {g : Grove}, t.Holds p g → g.forest.IsSafe →
    n ∈ g.ids → (t.cell n).kind.IsSafe
  | _, .node id kind below next, ⟨hcell, hkind, hbelow, hnext⟩, hsafe, hn => by
    cases kind with
    | document => exact absurd rfl hkind.1
    | comment s => exact hsafe.elim
    | doctype => exact hsafe.elim
    | text s =>
        obtain rfl := hkind.2.resolve_left (by simp [NodeKind.holds])
        rcases List.mem_cons.mp hn with rfl | hn
        · rw [hcell]
          exact .text s
        · exact hnext.isSafe_kind hsafe hn
    | element e =>
        obtain ⟨he, hsafebelow, hsafenext⟩ := hsafe
        rcases List.mem_cons.mp hn with rfl | hn
        · rw [hcell]
          exact .element he
        · rcases List.mem_append.mp hn with hn | hn
          · exact hbelow.isSafe_kind hsafebelow hn
          · exact hnext.isSafe_kind hsafenext hn

/-- Below the root of a finished page stands a grove whose forest is safe. -/
theorem WellFormed.stands_finish (ht : t.WellFormed) (root : NodeId)
    (registry : Outline.SlugRegistry) :
    ∃ g, (t.finish root registry).Stands root [] g [] ∧ g.forest.IsSafe := by
  have hmarked := (ht.grown_setMath root).wellFormed.grown_markInlineCode root
  obtain ⟨g, hg⟩ := hmarked.wellFormed.stands root
  have hcleaned := hg.sanitize.1
  obtain ⟨g', hg', hforest⟩ := hcleaned.stands.withStructure registry
  unfold finish
  refine ⟨g', hg'.stands, ?_⟩
  rw [hforest, hg.holds.forest_sanitize]
  exact Forest.withStructure_isSafe registry _ (Forest.sanitize_isSafe g.forest)

/-- **Safety of finished pages**: whatever a well-formed tree holds, however deep, once it is finished
only texts and safe elements can be reached from the root. -/
theorem finish_isSafe (ht : t.WellFormed) (root : NodeId) (registry : Outline.SlugRegistry)
    {n : NodeId} (hn : (t.finish root registry).IsBelow root n) :
    ((t.finish root registry).cell n).kind.IsSafe := by
  obtain ⟨g, hg, hsafe⟩ := ht.stands_finish root registry
  have hmem : n ∈ g.ids := hg.mem_ids_of_isBelow hn
  exact hg.holds.isSafe_kind hsafe hmem

/-- A body with a font around a comment and a bold element that has a handler. -/
def fontPage : Tree :=
  let put (t : Tree) (n : NodeId × NodeKind) : Tree := (t.create n.2).append n.1 t.cells.size
  [(0, .element (.ofHtml "body")), (1, .element (.ofHtml "font")), (2, .comment "secret"),
    (2, .element (.ofHtml "b" [("onclick", "x()")]))].foldl put empty

theorem fontPage_wellFormed : fontPage.WellFormed := by
  have hbody := empty_wellFormed.append_create 0 (.element (.ofHtml "body"))
    (by decide) (by decide) (by decide)
  have hfont := hbody.append_create 1 (.element (.ofHtml "font"))
    (by decide) (by decide) (by decide)
  have hcomment := hfont.append_create 2 (.comment "secret")
    (by decide) (by decide) (by decide)
  exact hcomment.append_create 2 (.element (.ofHtml "b" [("onclick", "x()")]))
    (by decide) (by decide) (by decide)

/-- The bold element takes the place of the font, without its handler. -/
theorem finish_isSafe_fontPage :
    fontPage.WellFormed ∧ (fontPage.finish 1 .empty).IsBelow 1 4 ∧
      ((fontPage.finish 1 .empty).cell 4).kind.IsSafe ∧
      ((fontPage.finish 1 .empty).cell 4).kind = .element (.ofHtml "b") := by
  have hbelow : (fontPage.finish 1 .empty).IsBelow 1 4 := .child (by decide +kernel)
  exact ⟨fontPage_wellFormed, hbelow, finish_isSafe fontPage_wellFormed 1 .empty hbelow,
    by decide +kernel⟩

end Tree

end Folio.Html
