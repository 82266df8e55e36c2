import Folio.Html.Pass
import Folio.Proofs.FreshIds

/-! # Recorded slugs

A registry holds for a text what would be computed for it anyway (`SlugRegistry.IsCache`): recording starts
from nothing and keeps that.  So the base of a text does not depend on what has been recorded
(`SlugRegistry.IsCache.base_eq`), and ids over two registries are the same step by step: when an id is
issued (`GivenIds.issue_onRegistry`), along a run of calls, in the outline and in the pages
(`recorded_transparent`). -/

namespace Folio

namespace Outline

/-! ### Registries -/

namespace SlugRegistry

/-- The registry that has seen some texts. -/
def seen (texts : List String) : SlugRegistry := texts.foldl record empty

/-- Every slug in a registry is the one that is computed for a text that has not been seen. -/
def IsCache (r : SlugRegistry) : Prop :=
  ∀ key slug, r.slugs[key]? = some slug → slug = headingSlug key

variable {r r' : SlugRegistry}

theorem isCache_empty : empty.IsCache := by
  intro key slug h
  simp [empty] at h

theorem IsCache.record (h : r.IsCache) (text : String) : (r.record text).IsCache := by
  intro key slug hslug
  unfold SlugRegistry.record at hslug
  simp only [Std.TreeMap.getElem?_insertIfNew] at hslug
  split at hslug
  · rename_i hnew
    obtain rfl : spacedText text = key := Std.LawfulEqOrd.compare_eq_iff_eq.mp hnew.1
    exact (Option.some.inj hslug).symm
  · exact h key slug hslug

theorem isCache_seen (texts : List String) : (seen texts).IsCache := by
  unfold seen
  have hfold : ∀ {r : SlugRegistry}, r.IsCache → (texts.foldl SlugRegistry.record r).IsCache := by
    induction texts with
    | nil => exact id
    | cons text texts ih => exact fun h => ih (h.record text)
  exact hfold isCache_empty

/-- What a registry gives for a text is the slug of the text, seen or not. -/
theorem IsCache.getD_eq (h : r.IsCache) (key : String) :
    r.slugs.getD key (headingSlug key) = headingSlug key := by
  rw [Std.TreeMap.getD_eq_getD_getElem?]
  cases hslug : r.slugs[key]? with
  | none => rfl
  | some slug => exact h key slug hslug

/-- The base of a text comes from its words alone. -/
theorem IsCache.base_eq (h : r.IsCache) (text : String) :
    r.base text =
      if headingSlug (spacedText text) = "" then emptySlug else headingSlug (spacedText text) := by
  unfold base
  dsimp only
  rw [h.getD_eq]

theorem IsCache.base_congr (h : r.IsCache) (h' : r'.IsCache) {text text' : String}
    (hwords : Text.words text.toList = Text.words text'.toList) : r.base text = r'.base text' := by
  have hspaced : spacedText text = spacedText text' := by rw [spacedText, hwords, spacedText]
  rw [h.base_eq, h'.base_eq, hspaced]

end SlugRegistry

/-! ### Ids over another registry -/

namespace GivenIds

/-- The same ids over another registry. -/
def onRegistry (ids : GivenIds) (r : SlugRegistry) : GivenIds := { ids with registry := r }

variable {ids : GivenIds} {r : SlugRegistry}

theorem foldl_hold_onRegistry (given : List String) (ids : GivenIds) :
    given.foldl hold (ids.onRegistry r) = (given.foldl hold ids).onRegistry r := by
  induction given generalizing ids with
  | nil => rfl
  | cons id given ih => exact ih (ids.hold id)

theorem registry_foldl_hold (given : List String) (ids : GivenIds) :
    (given.foldl hold ids).registry = ids.registry := by
  induction given generalizing ids with
  | nil => rfl
  | cons id given ih => exact ih (ids.hold id)

theorem registry_call (ids : GivenIds) (c : IdCall) : (ids.call c).registry = ids.registry := by
  cases c <;> rfl

theorem issue_onRegistry (h : r.IsCache) (hids : ids.registry.IsCache) (text : String) :
    (ids.onRegistry r).issue text = ((ids.issue text).1, (ids.issue text).2.onRegistry r) := by
  have hbase : r.base (spacedText text) = ids.registry.base (spacedText text) := h.base_congr hids rfl
  unfold issue onRegistry
  simp only [hbase]

theorem takes_onRegistry (h : r.IsCache) (hids : ids.registry.IsCache) (c : IdCall) :
    (ids.onRegistry r).takes c = ids.takes c := by
  cases c with
  | hold id => rfl
  | issue text =>
      show ((ids.onRegistry r).issue text).1 = (ids.issue text).1
      rw [issue_onRegistry h hids]

theorem call_onRegistry (h : r.IsCache) (hids : ids.registry.IsCache) (c : IdCall) :
    (ids.onRegistry r).call c = (ids.call c).onRegistry r := by
  cases c with
  | hold id => rfl
  | issue text =>
      show ((ids.onRegistry r).issue text).2 = (ids.issue text).2.onRegistry r
      rw [issue_onRegistry h hids]

/-- A run takes the same ids over another registry. -/
theorem taken_onRegistry (h : r.IsCache) (calls : List IdCall) :
    ∀ {ids : GivenIds}, ids.registry.IsCache → (ids.onRegistry r).taken calls = ids.taken calls := by
  induction calls with
  | nil => exact fun _ => rfl
  | cons c calls ih =>
      intro ids hids
      rw [taken, taken, takes_onRegistry h hids, call_onRegistry h hids, ih (by rwa [registry_call])]

end GivenIds

theorem issueFrom_onRegistry {r : SlugRegistry} (h : r.IsCache) (headings : List Heading) :
    ∀ {ids : GivenIds}, ids.registry.IsCache →
      issueFrom (ids.onRegistry r) headings = issueFrom ids headings := by
  induction headings with
  | nil => exact fun _ => rfl
  | cons x rest ih =>
      intro ids hids
      rw [issueFrom, issueFrom]
      cases x.explicitId with
      | some id => exact congrArg (id :: ·) (ih hids)
      | none =>
          rw [GivenIds.issue_onRegistry h hids]
          exact congrArg (_ :: ·) (ih hids)

theorem issueIds_eq_of_isCache {r r' : SlugRegistry} (h : r.IsCache) (h' : r'.IsCache)
    (headings : List Heading) : issueIds headings r = issueIds headings r' := by
  unfold issueIds
  have hover : GivenIds.start r = (GivenIds.start r').onRegistry r := rfl
  rw [hover, GivenIds.foldl_hold_onRegistry, issueFrom_onRegistry h]
  rwa [GivenIds.registry_foldl_hold]

end Outline

/-! ### Headings of a page -/

namespace Html.Tree

open Outline

variable {r : SlugRegistry}

theorem headingId_onRegistry (h : r.IsCache) (t : Tree) {ids : GivenIds} (hids : ids.registry.IsCache)
    (heading : NodeId) :
    t.headingId (ids.onRegistry r) heading =
      ((t.headingId ids heading).1, (t.headingId ids heading).2.onRegistry r) := by
  unfold headingId
  cases (t.element? heading).bind ownId? with
  | some id => rfl
  | none => exact GivenIds.issue_onRegistry h hids _

theorem registry_headingId (t : Tree) (ids : GivenIds) (heading : NodeId) :
    (t.headingId ids heading).2.registry = ids.registry := by
  unfold headingId
  cases (t.element? heading).bind ownId? <;> rfl

theorem foldl_anchorHeading_onRegistry (h : r.IsCache) (headings : List NodeId) :
    ∀ (t : Tree) {ids : GivenIds}, ids.registry.IsCache →
      (headings.foldl anchorHeading (t, ids.onRegistry r)).1 = (headings.foldl anchorHeading (t, ids)).1 := by
  induction headings with
  | nil => exact fun _ _ _ => rfl
  | cons heading headings ih =>
      intro t ids hids
      rw [List.foldl_cons, List.foldl_cons, anchorHeading, anchorHeading, headingId_onRegistry h t hids]
      exact ih _ (by rwa [registry_headingId])

/-- The headings of a page get the same ids over another registry. -/
theorem identifyHeadings_eq_of_isCache {r' : SlugRegistry} (h : r.IsCache) (h' : r'.IsCache) (t : Tree)
    (root : NodeId) : t.identifyHeadings root r = t.identifyHeadings root r' := by
  unfold identifyHeadings
  dsimp only
  have hover : GivenIds.start r = (GivenIds.start r').onRegistry r := rfl
  rw [hover, GivenIds.foldl_hold_onRegistry]
  apply foldl_anchorHeading_onRegistry h
  rwa [GivenIds.registry_foldl_hold]

end Html.Tree

namespace Outline

open SlugRegistry

/-- **A registry is a cache**: whatever texts have been recorded, a run of calls takes the same ids as over
the empty registry, and so do the headings of a document and those of a page; and the bases of two texts
with the same words are the same, whatever has been recorded before either. -/
theorem recorded_transparent (texts : List String) :
    (∀ calls : List IdCall,
      (GivenIds.start (seen texts)).taken calls = (GivenIds.start .empty).taken calls) ∧
    (∀ headings : List Heading, issueIds headings (seen texts) = issueIds headings .empty) ∧
    (∀ (t : Html.Tree) (root : Html.NodeId),
      t.identifyHeadings root (seen texts) = t.identifyHeadings root .empty) ∧
    ∀ (others : List String) (text text' : String),
      Text.words text.toList = Text.words text'.toList →
        (seen texts).base text = (seen others).base text' := by
  have hcache := isCache_seen texts
  refine ⟨fun calls => ?_, issueIds_eq_of_isCache hcache isCache_empty,
    Html.Tree.identifyHeadings_eq_of_isCache hcache isCache_empty,
    fun others _ _ => hcache.base_congr (isCache_seen others)⟩
  have hempty : (GivenIds.start .empty).registry.IsCache := isCache_empty
  show ((GivenIds.start .empty).onRegistry (seen texts)).taken calls = _
  exact GivenIds.taken_onRegistry hcache calls hempty

/-- A text that was recorded with other blanks and one that was not have one base. -/
theorem recorded_transparent_setupGuide :
    (GivenIds.start (seen ["Setup  guide", "???"])).taken
        [.issue "Setup guide", .hold "section", .issue "???", .issue " Setup\nguide"] =
      ["setup-guide", "section", "section-2", "setup-guide-2"] ∧
    Text.words " Setup\nguide".toList = Text.words "Setup  guide".toList ∧
    (seen ["Setup  guide"]).base " Setup\nguide" = (seen ["Other"]).base "Setup  guide" := by
  have hwords : Text.words " Setup\nguide".toList = Text.words "Setup  guide".toList := by decide +kernel
  refine ⟨?_, hwords, (recorded_transparent ["Setup  guide"]).2.2.2 ["Other"] _ _ hwords⟩
  rw [(recorded_transparent ["Setup  guide", "???"]).1]
  decide +kernel

end Outline

end Folio
