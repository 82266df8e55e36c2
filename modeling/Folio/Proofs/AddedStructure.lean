import Folio.Proofs.AddedNodes
import Folio.Proofs.StructuredForest

/-! # What adding the structure changes

The result of `Tree.withStructure` is told by the tree that it started from (`Structured`).  Nothing goes
and nothing changes its place: the nodes that were there are in document order and below the nodes that
they were below, and only ids and classes of elements have changed.  Every heading that is listed has its
anchor, every block its wrapper.  The passes over links, lists and blocks then find nothing more to do: what
they would change is told by the forest (`LaidOut`), and they change nothing where it is laid out. -/

namespace Folio.Html

theorem isListedHeading_of_mem {e : Element} (h : e.tag ∈ ["h2", "h3", "h4", "h5"]) :
    isListedHeading e = true := by
  have hlisted : ∀ tag ∈ ["h2", "h3", "h4", "h5"], isListedHeading (.ofHtml tag) = true := by decide +kernel
  exact (isListedHeading_of_tag (e := .ofHtml e.tag) rfl).trans (hlisted e.tag h)

namespace Tree

variable {t t' : Tree} {p r n : NodeId} {g g' : Grove}

/-! ### Statement -/

/-- A node is a child of a wrapper of blocks of a class. -/
def InWrapper (t : Tree) (cls : String) (n : NodeId) : Prop :=
  ∃ q, t.parent? n = some q ∧ n ∈ t.children q ∧ t.isElementOf q (isWrapper cls) = true

/-- What adding the structure of a page below `r` makes of a tree. -/
structure Structured (t t' : Tree) (r : NodeId) : Prop where
  size_le : t.cells.size ≤ t'.cells.size
  /-- Below each node are the nodes that were below it, in document order. -/
  descendants : ∀ n, n = r ∨ t.IsBelow r n →
    (t'.descendants n).filter (· < t.cells.size) = t.descendants n
  /-- Nodes are what they were, but for ids and classes. -/
  kind : ∀ n, t.IsBelow r n → (t'.cell n).kind.bare = (t.cell n).kind.bare
  /-- The new nodes are wrappers and anchors. -/
  fresh : ∀ n, t'.IsBelow r n → t.cells.size ≤ n → (t'.cell n).kind.IsAdded
  /-- A heading holds a wrapper that ends with the anchor of its id. -/
  heading : ∀ n, t'.IsBelow r n → ∀ e, t'.element? n = some e → e.tag ∈ ["h2", "h3", "h4", "h5"] →
    IsAnchored e (t'.forest n)
  code : ∀ n, t'.IsBelow r n → t'.isElement n "pre" = true → t'.InWrapper "code-block" n
  table : ∀ n, t'.IsBelow r n → t'.isElement n "table" = true → t'.InWrapper "table-wrapper" n
  /-- The passes over links, lists and blocks change nothing any more. -/
  links : t'.modifyBelow r (·.tag == "a") markInternalLink = t'
  lists : t'.classifyLists r = t'
  codeBlocks : t'.frameBlocks r "pre" "code-block" = t'
  tableBlocks : t'.frameBlocks r "table" "table-wrapper" = t'
  /-- The root gets other children, and nothing else changes that is not below it. -/
  root : t'.cell r = { t.cell r with children := t'.children r }
  outside : ∀ n < t.cells.size, n ≠ r → ¬ t.IsBelow r n → t'.cell n = t.cell n

/-! ### From the forest to the nodes -/

section node

variable {id : NodeId} {kind : NodeKind} {below next : Grove}

theorem Holds.all_next {P : Element → Forest → Prop} (h : t.Holds p (.node id kind below next))
    (hall : (Grove.node id kind below next).forest.All P) : next.forest.All P := by
  cases kind with
  | document => exact absurd rfl h.2.1.1
  | element e => exact hall.2.2
  | text s => exact hall
  | comment s => exact hall
  | doctype => exact hall

theorem Holds.anyTop_next {q : Element → Bool} (h : t.Holds p (.node id kind below next))
    (htop : next.forest.anyTop q = true) : (Grove.node id kind below next).forest.anyTop q = true := by
  cases kind with
  | document => exact absurd rfl h.2.1.1
  | element e => exact Bool.or_eq_true_iff.mpr (.inr htop)
  | text s => exact htop
  | comment s => exact htop
  | doctype => exact htop

/-- Only below elements there is anything. -/
theorem Holds.exists_element (h : t.Holds p (.node id kind below next)) (hn : n ∈ below.ids) :
    ∃ e, kind = .element e := by
  obtain ⟨-, ⟨hdocument, hholds⟩, -, -⟩ := h
  have hkind : kind.holds = true := hholds.resolve_right fun hnil => by
    rw [hnil] at hn
    cases hn
  cases kind with
  | element e => exact ⟨e, rfl⟩
  | document => exact absurd rfl hdocument
  | text s => cases hkind
  | comment s => cases hkind
  | doctype => cases hkind

end node

/-- What holds of every element of the forest holds of the elements of the grove. -/
theorem Holds.of_mem_parts {P : Element → Forest → Prop} {id : NodeId} {e : Element} {inner : Grove} :
    ∀ {p : NodeId} {g : Grove}, t.Holds p g → g.forest.All P → (id, .element e, inner) ∈ g.parts →
      P e inner.forest
  | _, .node _ _ _ _, h, hall, hmem => by
    rcases List.mem_cons.mp hmem with heq | hmem
    · cases heq
      exact hall.1
    · rcases List.mem_append.mp hmem with hin | hin
      · obtain ⟨e', rfl⟩ := h.exists_element (Grove.mem_ids_of_mem_parts hin)
        exact h.2.2.1.of_mem_parts hall.2.1 hin
      · exact h.2.2.2.of_mem_parts (h.all_next hall) hin

/-- Changing every element changes nothing where each is as it should be. -/
theorem Holds.mapElements_eq_self {change : Element → Forest → Element} : ∀ {p : NodeId} {g : Grove},
    t.Holds p g → g.forest.All (fun e children => change e children = e) → g.mapElements change = g
  | _, .nil, _, _ => rfl
  | _, .node id kind below next, h, hall => by
    have hnext := h.2.2.2.mapElements_eq_self (h.all_next hall)
    cases kind with
    | element e =>
      have hbelow := h.2.2.1.mapElements_eq_self hall.2.1
      have he : change e below.forest = e := hall.1
      simp only [Grove.mapElements, he, hbelow, hnext]
    | document => exact congrArg _ hnext
    | text s => exact congrArg _ hnext
    | comment s => exact congrArg _ hnext
    | doctype => exact congrArg _ hnext

/-- A block below a node is in a wrapper, if that is told of all elements and of the node. -/
theorem Stands.inWrapper {tag cls : String} : ∀ {p : NodeId} {pre post : List NodeId} {g : Grove},
    t.Stands p pre g post → g.forest.All (Wraps tag cls) →
      (g.forest.anyTop (·.tag == tag) = true → t.isElementOf p (isWrapper cls) = true) →
      n ∈ g.ids → t.isElement n tag = true → t.InWrapper cls n
  | p, _, _, .node id kind below next, h, hall, htop, hn, htag => by
    rcases List.mem_cons.mp hn with rfl | hn
    · refine ⟨p, h.parent, h.mem_children, htop ?_⟩
      rw [isElement, tag?, Tree.element?, h.cell] at htag
      cases kind with
      | element e => exact Bool.or_eq_true_iff.mpr (.inl (by simpa using htag))
      | document => simp at htag
      | text s => simp at htag
      | comment s => simp at htag
      | doctype => simp at htag
    · rcases List.mem_append.mp hn with hin | hin
      · obtain ⟨e, rfl⟩ := h.holds.exists_element hin
        refine h.inside.inWrapper hall.2.1 (fun hblock => ?_) hin htag
        rw [isElementOf, h.element?]
        exact hall.1 hblock
      · exact Stands.inWrapper (Stands.right (f := .single id kind below) h) (h.holds.all_next hall)
          (fun hblock => htop (h.holds.anyTop_next hblock)) hin htag

/-! ### Passes that change nothing -/

theorem foldl_eq_self {step : Tree → NodeId → Tree} {ids : List NodeId}
    (h : ∀ id ∈ ids, step t id = t) : ids.foldl step t = t :=
  List.foldlRecOn (motive := (· = t)) ids step rfl fun _ heq id hid => heq ▸ h id hid

theorem size_foldl {step : Tree → NodeId → Tree} (h : ∀ t id, (step t id).cells.size = t.cells.size)
    (ids : List NodeId) (t : Tree) : (ids.foldl step t).cells.size = t.cells.size :=
  List.foldlRecOn (motive := (·.cells.size = t.cells.size)) ids step rfl fun t' ht' id _ =>
    (h t' id).trans ht'

theorem size_modifyBelow (t : Tree) (r : NodeId) (q : Element → Bool) (f : Element → Element) :
    (t.modifyBelow r q f).cells.size = t.cells.size :=
  size_foldl (fun t id => size_modifyElement t id f) _ t

theorem size_classifyItem (t : Tree) (id : NodeId) : (t.classifyItem id).cells.size = t.cells.size := by
  simp only [classifyItem]
  split <;> simp

theorem size_classifyLists (t : Tree) (r : NodeId) : (t.classifyLists r).cells.size = t.cells.size := by
  rw [classifyLists, size_foldl size_classifyItem, size_modifyBelow, size_modifyBelow]

/-- Links that have their class stay as they are. -/
theorem Stands.markInternalLinks_eq_self (h : t.Stands r [] g []) (hall : g.forest.All MarkedLink) :
    t.modifyBelow r (·.tag == "a") markInternalLink = t := by
  have hlinks := h.markInternalLinks
  rw [h.holds.mapElements_eq_self hall] at hlinks
  exact hlinks.eq_of_same h (size_modifyBelow t r _ _)

/-- Lists that have their classes stay as they are. -/
theorem Stands.classifyLists_eq_self (h : t.Stands r [] g []) (hall : g.forest.All Classified) :
    t.classifyLists r = t := by
  have hlists := h.classifyLists
  rw [h.holds.mapElements_eq_self hall] at hlists
  exact hlists.eq_of_same h (size_classifyLists t r)

theorem isElementOf_tag (t : Tree) (id : NodeId) (tag : String) :
    t.isElementOf id (·.tag == tag) = t.isElement id tag := by
  rw [isElementOf, isElement, tag?]
  cases t.element? id <;> simp

/-- Blocks that are in wrappers stay there. -/
theorem frameBlocks_eq_self {tag cls : String}
    (h : ∀ n ∈ t.descendants r, t.isElement n tag = true → t.InWrapper cls n) :
    t.frameBlocks r tag cls = t := by
  refine foldl_eq_self fun id hid => ?_
  obtain ⟨hmem, helement⟩ := List.mem_filter.mp hid
  rw [isElementOf_tag] at helement
  obtain ⟨q, hparent, -, hwrapper⟩ := h id hmem helement
  rw [frameBlock, hparent, Option.any_some, if_pos hwrapper]

/-! ### The main theorem -/

/-- What is erased equally is listed equally, but for the new nodes. -/
theorem Stands.filter_descendants (h : t.Stands n [] g []) (h' : t'.Stands n [] g' [])
    (herase : g'.erase t.cells.size = g.erase t.cells.size) :
    (t'.descendants n).filter (· < t.cells.size) = t.descendants n := by
  have hold : g.ids.filter (· < t.cells.size) = g.ids :=
    List.filter_eq_self.mpr fun i hi => decide_eq_true (h.holds.lt_size hi)
  rw [h'.descendants, h.descendants, ← Grove.ids_erase, herase, Grove.ids_erase, hold]

/-- A node of a grove that is kept has what it had, and below it what was below it. -/
theorem Stands.kept (h : t.Stands r [] g []) (h' : t'.Stands r [] g' []) (hkept : g.Keeps t.cells.size g')
    (hn : t.IsBelow r n) :
    (t'.cell n).kind.bare = (t.cell n).kind.bare ∧
      (t'.descendants n).filter (· < t.cells.size) = t.descendants n := by
  have hmem := h.mem_ids_iff.mpr hn
  obtain ⟨kind, inner, hpart⟩ := Grove.exists_part_of_mem_ids hmem
  obtain ⟨kind', inner', hpart', hkind, herase⟩ := hkept.exists_part (h.holds.lt_size hmem) hpart
  obtain ⟨hin, rfl⟩ := h.of_mem_parts hpart
  obtain ⟨hin', rfl⟩ := h'.of_mem_parts hpart'
  exact ⟨hkind, hin.filter_descendants hin' herase⟩

/-- The new nodes of a grove that is kept are wrappers and anchors. -/
theorem Stands.added (h : t.Stands r [] g []) (h' : t'.Stands r [] g' []) (hkept : g.Keeps t.cells.size g')
    (hn : t'.IsBelow r n) (hge : t.cells.size ≤ n) : (t'.cell n).kind.IsAdded := by
  have hadded := hkept.added (Grove.added_of_forall_lt fun _ => h.holds.lt_size)
  obtain ⟨kind, inner, hpart⟩ := Grove.exists_part_of_mem_ids (h'.mem_ids_iff.mpr hn)
  rw [(h'.of_mem_parts hpart).2]
  exact hadded.of_mem_parts hpart hge

/-- In a forest that is laid out the headings have their anchors. -/
theorem Stands.isAnchored (h : t.Stands r [] g []) (hall : g.forest.All AnchoredHeading)
    (hn : t.IsBelow r n) {e : Element} (he : t.element? n = some e) (hlisted : isListedHeading e = true) :
    IsAnchored e (t.forest n) := by
  obtain ⟨kind, inner, hpart⟩ := Grove.exists_part_of_mem_ids (h.mem_ids_iff.mpr hn)
  obtain ⟨hin, hkind⟩ := h.of_mem_parts hpart
  obtain rfl : kind = .element e := hkind.symm.trans (kind_of_element? he)
  rw [hin.forest]
  exact h.holds.of_mem_parts hall hpart hlisted

/-- A grove that is kept, and whose forest is laid out below the root. -/
theorem Replaces.structured (h : t.Stands r [] g []) (hdone : t.Replaces t' r [] g g' [])
    (hkept : g.Keeps t.cells.size g') (hlaid : g'.forest.All LaidOut)
    (hpre : g'.forest.anyTop (·.tag == "pre") = true → t.isElementOf r (isWrapper "code-block") = true)
    (htable : g'.forest.anyTop (·.tag == "table") = true →
      t.isElementOf r (isWrapper "table-wrapper") = true) : t.Structured t' r := by
  have h' := hdone.stands
  have hcode : ∀ n, t'.IsBelow r n → t'.isElement n "pre" = true → t'.InWrapper "code-block" n :=
    fun n hn => h'.inWrapper (hlaid.imp fun _ _ h => h.code)
      (fun htop => (hdone.isElementOf_owner _).trans (hpre htop)) (h'.mem_ids_iff.mpr hn)
  have htables : ∀ n, t'.IsBelow r n → t'.isElement n "table" = true → t'.InWrapper "table-wrapper" n :=
    fun n hn => h'.inWrapper (hlaid.imp fun _ _ h => h.table)
      (fun htop => (hdone.isElementOf_owner _).trans (htable htop)) (h'.mem_ids_iff.mpr hn)
  have hlisted : ∀ n ∈ t'.descendants r, t'.IsBelow r n := fun n hn =>
    h'.mem_ids_iff.mp (h'.descendants ▸ hn)
  refine ⟨hdone.size_le, ?_, fun n hn => (h.kept h' hkept hn).1, fun n => h.added h' hkept, ?_, hcode,
    htables, ?_, ?_, frameBlocks_eq_self fun n hn => hcode n (hlisted n hn),
    frameBlocks_eq_self fun n hn => htables n (hlisted n hn), ?_, ?_⟩
  · rintro n (rfl | hn)
    · exact h.filter_descendants h' hkept.erase
    · exact (h.kept h' hkept hn).2
  · exact fun n hn e he htag => h'.isAnchored (hlaid.imp fun _ _ h => h.heading) hn he
      (isListedHeading_of_mem htag)
  · exact h'.markInternalLinks_eq_self (hlaid.imp fun _ _ h => h.link)
  · exact h'.classifyLists_eq_self (hlaid.imp fun _ _ h => h.list)
  · rw [h'.children]
    exact hdone.owner
  · exact fun n hlt hne hout => hdone.cell_eq n hlt hne fun hmem => hout (h.mem_ids_iff.mp hmem)

/-- **Adding the structure of a page only adds to it, and lays it out.**  Below the root of any tree the
nodes that were there keep their order, their nesting and all they hold but ids and classes; headings get
anchors and blocks get wrappers; and no pass over links, lists or blocks changes anything when it is run
again. -/
theorem withStructure_structured (ht : t.WellFormed) (root : NodeId) (registry : Outline.SlugRegistry) :
    t.Structured (t.withStructure root registry) root := by
  obtain ⟨g, hg⟩ := ht.stands root
  obtain ⟨g', hdone, hkept⟩ := hg.keeps_withStructure registry
  obtain ⟨g'', hdone', hforest⟩ := hg.withStructure registry
  rw [← hdone'.stands.forest, hdone.stands.forest] at hforest
  have htops := anyTop_withStructure registry (fun cls => t.isElementOf root (isWrapper cls)) g.forest
  have hlaid := all_withStructure registry (fun cls => t.isElementOf root (isWrapper cls)) g.forest
  rw [← hforest] at htops hlaid
  exact hdone.structured hg hkept hlaid htops.1 htops.2

/-- A body with a heading that has a block of code in it, and with another block that has its wrapper. -/
def planPage : Tree :=
  let put (t : Tree) (n : NodeId × NodeKind) : Tree := (t.create n.2).append n.1 t.cells.size
  [(0, .element (.ofHtml "body")), (1, .element (.ofHtml "h2")), (2, .text "Plan"),
    (2, .element (.ofHtml "pre")), (1, .element (.ofHtml "div" [("class", "code-block")])),
    (5, .element (.ofHtml "pre")), (6, .element (.ofHtml "a" [("href", "/next")]))].foldl put empty

theorem planPage_wellFormed : planPage.WellFormed := by
  have hbody := empty_wellFormed.append_create 0 (.element (.ofHtml "body"))
    (by decide) (by decide) (by decide)
  have hheading := hbody.append_create 1 (.element (.ofHtml "h2")) (by decide) (by decide) (by decide)
  have htext := hheading.append_create 2 (.text "Plan") (by decide) (by decide) (by decide)
  have hinner := htext.append_create 2 (.element (.ofHtml "pre")) (by decide) (by decide) (by decide)
  have hwrapper := hinner.append_create 1 (.element (.ofHtml "div" [("class", "code-block")]))
    (by decide) (by decide) (by decide)
  have hcode := hwrapper.append_create 5 (.element (.ofHtml "pre")) (by decide) (by decide) (by decide)
  exact hcode.append_create 6 (.element (.ofHtml "a" [("href", "/next")]))
    (by decide) (by decide) (by decide)

/-- The block in the heading gets a wrapper, inside the one that the heading gets, and the other block
none. -/
theorem withStructure_structured_planPage :
    planPage.WellFormed ∧ planPage.Structured (planPage.withStructure 1 .empty) 1 ∧
      (planPage.withStructure 1 .empty).descendants 1 = [2, 8, 3, 11, 4, 9, 10, 5, 6, 7] ∧
      (planPage.withStructure 1 .empty).element? 2 = some (.ofHtml "h2" [("id", "plan")]) ∧
      (planPage.withStructure 1 .empty).element? 9 = some (anchorElement "plan") ∧
      (planPage.withStructure 1 .empty).element? 11 = some (blockWrapper "code-block") ∧
      (planPage.withStructure 1 .empty).element? 7 =
        some (.ofHtml "a" [("href", "/next"), ("class", "internal-link")]) :=
  ⟨planPage_wellFormed, withStructure_structured planPage_wellFormed 1 .empty, by decide +kernel,
    by decide +kernel, by decide +kernel, by decide +kernel, by decide +kernel⟩

end Tree

end Folio.Html
