import Folio.Proofs.HeadingIds
import Folio.Proofs.StructureTree

/-! # The layout of a structured forest

`Forest.withStructure` is a row of passes, and what it establishes is said of each element and of what is in
it (`Forest.All`).  A pass that changes elements, or puts wrappers around them, keeps what holds of all
elements once it keeps it of one (`All.mapElements`, `All.frameBlocks`).  So each property is established
by one pass and kept by those after it: headings are anchored (`IsAnchored`), links and lists have their
classes, and blocks have their wrappers (`Wraps`). -/

namespace Folio.Html

open Outline

/-! ### What holds of all elements -/

namespace Forest

/-- Every element, with what is in it, satisfies `P`. -/
def All (P : Element → Forest → Prop) : Forest → Prop
  | nil => True
  | text _ next => next.All P
  | comment _ next => next.All P
  | doctype next => next.All P
  | element e children next => P e children ∧ children.All P ∧ next.All P

variable {P Q : Element → Forest → Prop} {f g : Forest} {tag cls : String} {wrapped : Bool}

theorem all_append : (f ++ g).All P ↔ f.All P ∧ g.All P := by
  induction f with
  | nil => exact (iff_of_eq (true_and _)).symm
  | text s next ih => exact ih
  | comment s next ih => exact ih
  | doctype next ih => exact ih
  | element e children next _ ih =>
    change P e children ∧ children.All P ∧ (next ++ g).All P ↔ _
    rw [ih, All, and_assoc, and_assoc]

theorem All.imp (h : ∀ e children, P e children → Q e children) (hf : f.All P) : f.All Q := by
  induction f with
  | nil => trivial
  | text s next ih => exact ih hf
  | comment s next ih => exact ih hf
  | doctype next ih => exact ih hf
  | element e children next ihc ih => exact ⟨h e children hf.1, ihc hf.2.1, ih hf.2.2⟩

/-- A change of all elements that makes `Q` of `P`. -/
theorem All.mapElements (change : Element → Forest → Element)
    (h : ∀ e children, P e children → Q (change e children) (children.mapElements change))
    (hf : f.All P) : (f.mapElements change).All Q := by
  induction f with
  | nil => trivial
  | text s next ih => exact ih hf
  | comment s next ih => exact ih hf
  | doctype next ih => exact ih hf
  | element e children next ihc ih => exact ⟨h e children hf.1, ihc hf.2.1, ih hf.2.2⟩

/-- Wrapping blocks makes `Q` of `P` if it does so of one element, and the wrappers satisfy `Q`. -/
theorem All.frameBlocks (tag cls : String)
    (hkeep : ∀ e children, P e children → Q e (children.frameBlocks tag cls (isWrapper cls e)))
    (hwrap : ∀ e children, e.tag = tag → Q (blockWrapper cls) (element e children nil))
    (wrapped : Bool) (hf : f.All P) : (f.frameBlocks tag cls wrapped).All Q := by
  induction f generalizing wrapped with
  | nil => trivial
  | text s next ih => exact ih wrapped hf
  | comment s next ih => exact ih wrapped hf
  | doctype next ih => exact ih wrapped hf
  | element e children next ihc ih =>
    obtain ⟨he, hchildren, hnext⟩ := hf
    have hinner := ihc (isWrapper cls e) hchildren
    rw [Forest.frameBlocks]
    split
    · rename_i h
      exact ⟨hwrap e _ h.1, ⟨hkeep e children he, hinner, trivial⟩, ih wrapped hnext⟩
    · exact ⟨hkeep e children he, hinner, ih wrapped hnext⟩

/-! ### The top level -/

/-- Wrapping the elements of one tag is not seen by what concerns neither them nor the wrappers. -/
theorem anyTop_frameBlocks {q : Element → Bool} (htag : ∀ e : Element, e.tag = tag → q e = false)
    (hwrapper : q (blockWrapper cls) = false) (f : Forest) :
    (f.frameBlocks tag cls wrapped).anyTop q = f.anyTop q := by
  induction f with
  | nil => rfl
  | text s next ih => exact ih
  | comment s next ih => exact ih
  | doctype next ih => exact ih
  | element e children next _ ih =>
    rw [Forest.frameBlocks]
    split
    · rename_i h
      rw [anyTop, anyTop, ih, hwrapper, htag e h.1]
    · rw [anyTop, anyTop, ih]

/-- Outside a wrapper no block is left without one. -/
theorem anyTop_frameBlocks_self (htag : tag ≠ "div") (f : Forest) :
    (f.frameBlocks tag cls false).anyTop (·.tag == tag) = false := by
  have hwrapper : ((blockWrapper cls).tag == tag) = false := beq_eq_false_iff_ne.mpr htag.symm
  induction f with
  | nil => rfl
  | text s next ih => exact ih
  | comment s next ih => exact ih
  | doctype next ih => exact ih
  | element e children next _ ih =>
    rw [Forest.frameBlocks]
    split
    · rw [anyTop, ih, hwrapper, Bool.or_false]
    · rename_i h
      have he : (e.tag == tag) = false := beq_eq_false_iff_ne.mpr fun heq => h ⟨heq, rfl⟩
      rw [anyTop, ih, he, Bool.or_false]

theorem frameBlocks_element_of_ne {e : Element} (h : e.tag ≠ tag) (children next : Forest) :
    (element e children next).frameBlocks tag cls wrapped =
      element e (children.frameBlocks tag cls (isWrapper cls e)) (next.frameBlocks tag cls wrapped) := by
  rw [Forest.frameBlocks]
  exact if_neg fun heq => h heq.1

theorem mapElements_append (change : Element → Forest → Element) (f g : Forest) :
    (f ++ g).mapElements change = f.mapElements change ++ g.mapElements change := by
  induction f with
  | nil => rfl
  | text s next ih => exact congrArg (text s) ih
  | comment s next ih => exact congrArg (comment s) ih
  | doctype next ih => exact congrArg doctype ih
  | element e children next _ ih => exact congrArg (element _ _) ih

end Forest

/-! ### Classes that are added -/

/-- The element `e'` is `e` with more classes. -/
structure AddsClasses (e e' : Element) : Prop where
  space : e'.space = e.space
  tag : e'.tag = e.tag
  attrs : ∀ name, name ≠ "class" → e'.attr? name = e.attr? name
  classes : ∀ cls, e.hasClass cls = true → e'.hasClass cls = true

theorem AddsClasses.refl (e : Element) : AddsClasses e e := ⟨rfl, rfl, fun _ _ => rfl, fun _ h => h⟩

theorem AddsClasses.trans {e e₁ e' : Element} (h : AddsClasses e e₁) (h' : AddsClasses e₁ e') :
    AddsClasses e e' :=
  ⟨h'.space.trans h.space, h'.tag.trans h.tag,
    fun name hname => (h'.attrs name hname).trans (h.attrs name hname),
    fun cls hcls => h'.classes cls (h.classes cls hcls)⟩

theorem addsClasses_addClass (e : Element) {cls : String} (h : Text.words cls.toList = [cls.toList]) :
    AddsClasses e (e.addClass cls) :=
  ⟨e.space_addClass cls, e.tag_addClass cls, fun _ hname => e.attr?_addClass_of_ne cls hname,
    fun c hc => (e.hasClass_addClass_iff h c).mpr (.inl hc)⟩

theorem addsClasses_markInternalLink (e : Element) : AddsClasses e (markInternalLink e) := by
  unfold markInternalLink
  split
  · exact addsClasses_addClass e (by decide +kernel)
  · exact .refl e

theorem addsClasses_classifyList (e : Element) (children : Forest) :
    AddsClasses e (classifyList e children) := by
  unfold classifyList classifyListItem
  dsimp only
  split
  · exact addsClasses_addClass e (by decide +kernel)
  · split
    · exact addsClasses_addClass e (by decide +kernel)
    · split
      · have hitem : AddsClasses e (e.addClass "list-item") := addsClasses_addClass e (by decide +kernel)
        split
        · exact hitem.trans (addsClasses_addClass _ (by decide +kernel))
        · exact hitem
      · exact .refl e

theorem isListedHeading_of_tag {e e' : Element} (h : e'.tag = e.tag) :
    isListedHeading e' = isListedHeading e := by
  rw [isListedHeading, isListedHeading, listedLevel?, listedLevel?, h]

/-! ### Headings -/

/-- The anchor of an id. -/
structure IsAnchor (anchor : Element) (id : String) : Prop where
  tag : anchor.tag = "a"
  marked : anchor.hasClass "heading-anchor" = true
  href : anchor.attr? "href" = some ("#" ++ id)

/-- The wrapper of what a heading holds. -/
structure IsHeadingWrapper (wrapper : Element) : Prop where
  tag : wrapper.tag = "span"
  marked : wrapper.hasClass "heading-wrapper" = true

/-- A heading with an id that holds nothing but a wrapper, which ends with the anchor of the id. -/
def IsAnchored (e : Element) (children : Forest) : Prop :=
  ∃ id, id ≠ "" ∧ e.attr? "id" = some id ∧ ∃ wrapper before anchor label,
    children = .element wrapper (before ++ .element anchor label .nil) .nil ∧
      IsHeadingWrapper wrapper ∧ IsAnchor anchor id

/-- What is asked of an element if it is a listed heading. -/
def AnchoredHeading (e : Element) (children : Forest) : Prop :=
  isListedHeading e = true → IsAnchored e children

theorem isAnchor_anchorElement (id : String) : IsAnchor (anchorElement id) id := by
  refine ⟨rfl, ?_, ?_⟩
  · have hclass : (anchorElement id).attr? "class" = some "heading-anchor" := by
      simp [anchorElement, Element.ofHtml, Element.attr?, Attr.find?]
    rw [Element.hasClass_iff_of_attr? hclass]
    decide +kernel
  · simp [anchorElement, Element.ofHtml, Element.attr?, Attr.find?]

theorem isHeadingWrapper_headingWrapper : IsHeadingWrapper headingWrapper := ⟨rfl, by decide +kernel⟩

theorem isAnchored_heading (ids : GivenIds) (e : Element) (children inner : Forest) :
    IsAnchored (identified e (headingId ids e children).1)
      (.element headingWrapper (inner ++ headingAnchor (headingId ids e children).1) .nil) := by
  have hid := (Option.filter_eq_some_iff.mp (ownId?_identified ids e children)).1
  exact ⟨_, headingId_ne_empty ids e children, hid, _, _, _, _, rfl, isHeadingWrapper_headingWrapper,
    isAnchor_anchorElement _⟩

/-- Every heading is anchored by the pass over the headings. -/
theorem all_anchorHeadings (f : Forest) : ∀ ids : GivenIds, (f.anchorHeadings ids).1.All AnchoredHeading := by
  induction f with
  | nil => exact fun _ => trivial
  | text s next ih => exact ih
  | comment s next ih => exact ih
  | doctype next ih => exact ih
  | element e children next ihc ih =>
    intro ids
    rw [Forest.anchorHeadings]
    split
    · have hinner := ihc (headingId ids e children).2
      have hwrapper : AnchoredHeading headingWrapper
          ((children.anchorHeadings (headingId ids e children).2).1 ++
            headingAnchor (headingId ids e children).1) := fun h => absurd h (by decide +kernel)
      have hanchor : (headingAnchor (headingId ids e children).1).All AnchoredHeading :=
        ⟨fun h => absurd h (by simp [isListedHeading, listedLevel?, anchorElement, Element.ofHtml]),
          trivial, trivial⟩
      exact ⟨fun _ => isAnchored_heading ids e children _,
        ⟨hwrapper, Forest.all_append.mpr ⟨hinner, hanchor⟩, trivial⟩, ih _⟩
    · rename_i h
      exact ⟨fun hlisted => absurd hlisted h, ihc ids, ih _⟩

/-- Adding classes keeps a heading anchored. -/
theorem AnchoredHeading.mapElements {change : Element → Forest → Element}
    (hchange : ∀ e children, AddsClasses e (change e children)) (e : Element) (children : Forest)
    (h : AnchoredHeading e children) :
    AnchoredHeading (change e children) (children.mapElements change) := by
  intro hlisted
  rw [isListedHeading_of_tag (hchange e children).tag] at hlisted
  obtain ⟨id, hne, hid, wrapper, before, anchor, label, rfl, hwrapper, hanchor⟩ := h hlisted
  refine ⟨id, hne, ((hchange e _).attrs "id" (by decide)).trans hid, _, before.mapElements change, _, _,
    congrArg (Forest.element _ · .nil) (Forest.mapElements_append change before _), ?_, ?_⟩
  · exact ⟨(hchange _ _).tag.trans hwrapper.tag, (hchange _ _).classes _ hwrapper.marked⟩
  · exact ⟨(hchange _ _).tag.trans hanchor.tag, (hchange _ _).classes _ hanchor.marked,
      ((hchange _ _).attrs "href" (by decide)).trans hanchor.href⟩

/-- Wrapping blocks keeps a heading anchored: neither its wrapper nor the anchor is a block. -/
theorem AnchoredHeading.frameBlocks {tag cls : String} (hspan : tag ≠ "span") (ha : tag ≠ "a")
    (wrapped : Bool) (e : Element) (children : Forest) (h : AnchoredHeading e children) :
    AnchoredHeading e (children.frameBlocks tag cls wrapped) := by
  intro hlisted
  obtain ⟨id, hne, hid, wrapper, before, anchor, label, rfl, hwrapper, hanchor⟩ := h hlisted
  have hwrapper' : wrapper.tag ≠ tag := fun heq => hspan (heq.symm.trans hwrapper.tag)
  have hanchor' : anchor.tag ≠ tag := fun heq => ha (heq.symm.trans hanchor.tag)
  refine ⟨id, hne, hid, wrapper, before.frameBlocks tag cls (isWrapper cls wrapper), anchor,
    label.frameBlocks tag cls (isWrapper cls anchor), ?_, hwrapper, hanchor⟩
  rw [Forest.frameBlocks_element_of_ne hwrapper', Tree.frameBlocks_append,
    Forest.frameBlocks_element_of_ne hanchor']
  rfl

/-! ### Links and lists -/

/-- A link that has its class. -/
def MarkedLink (e : Element) (_ : Forest) : Prop := markInternalLink e = e

/-- An element that has the classes of a list or an item, if it is one. -/
def Classified (e : Element) (children : Forest) : Prop := classifyList e children = e

theorem markedLink_of_tag {e : Element} (h : e.tag ≠ "a") (children : Forest) : MarkedLink e children :=
  if_neg fun ha => h ha.1

theorem classifyList_of_tag {e : Element} (h : e.tag = "a") (children : Forest) :
    classifyList e children = e := by
  simp [classifyList, h]

/-- Classes of lists are none of links. -/
theorem MarkedLink.classifyList (e : Element) (children : Forest) (h : MarkedLink e children) :
    MarkedLink (classifyList e children) (children.mapElements Html.classifyList) := by
  by_cases ha : e.tag = "a"
  · rw [classifyList_of_tag ha]
    exact h
  · exact markedLink_of_tag (by rwa [(addsClasses_classifyList e children).tag]) _

theorem isTaskBox_of_addsClasses {e e' : Element} (h : AddsClasses e e') : isTaskBox e' = isTaskBox e := by
  rw [isTaskBox, isTaskBox, h.tag, h.attrs "type" (by decide)]

theorem addClass_of_hasClass {e : Element} {cls : String} (h : e.hasClass cls = true) :
    e.addClass cls = e := if_pos h

theorem addClass_addClass (e : Element) {cls : String} (h : Text.words cls.toList = [cls.toList]) :
    (e.addClass cls).addClass cls = e.addClass cls := addClass_of_hasClass (e.hasClass_addClass h)

/-- Classifying an item once more changes nothing. -/
theorem classifyListItem_classifyListItem (e : Element) {children children' : Forest}
    (h : children'.anyTop isTaskBox = children.anyTop isTaskBox) :
    classifyListItem (classifyListItem e children) children' = classifyListItem e children := by
  have hitem : Text.words "list-item".toList = ["list-item".toList] := by decide +kernel
  have htask : Text.words "task-list-item".toList = ["task-list-item".toList] := by decide +kernel
  unfold classifyListItem
  dsimp only
  rw [h]
  split
  · have hkept := (addsClasses_addClass (e.addClass "list-item") htask).classes _ (e.hasClass_addClass hitem)
    rw [addClass_of_hasClass hkept, addClass_addClass _ htask]
  · rw [addClass_addClass e hitem]

/-- Classifying once more changes nothing. -/
theorem classified_classifyList (e : Element) (children : Forest) :
    Classified (classifyList e children) (children.mapElements classifyList) := by
  have htop : (children.mapElements classifyList).anyTop isTaskBox = children.anyTop isTaskBox :=
    Forest.anyTop_mapElements (fun e children =>
      isTaskBox_of_addsClasses (addsClasses_classifyList e children)) children
  have htag := (addsClasses_classifyList e children).tag
  rw [Classified, classifyList, htag]
  by_cases hul : e.tag = "ul"
  · rw [if_pos hul, classifyList, if_pos hul, addClass_addClass e (by decide +kernel)]
  · rw [if_neg hul]
    by_cases hol : e.tag = "ol"
    · rw [if_pos hol, classifyList, if_neg hul, if_pos hol, addClass_addClass e (by decide +kernel)]
    · rw [if_neg hol]
      by_cases hli : e.tag = "li"
      · rw [if_pos hli, classifyList, if_neg hul, if_neg hol, if_pos hli,
          classifyListItem_classifyListItem e htop]
      · rw [if_neg hli]

/-- Wrapping blocks is nothing to the classes of lists: a check box is no block. -/
theorem Classified.frameBlocks {tag cls : String} (htag : tag ≠ "input") (wrapped : Bool) (e : Element)
    (children : Forest) (h : Classified e children) :
    Classified e (children.frameBlocks tag cls wrapped) := by
  have htop : (children.frameBlocks tag cls wrapped).anyTop isTaskBox = children.anyTop isTaskBox :=
    Forest.anyTop_frameBlocks (fun e he => by
      have hne : (e.tag == "input") = false := beq_eq_false_iff_ne.mpr (he ▸ htag)
      rw [isTaskBox, hne, Bool.false_and]) rfl children
  rw [Classified, classifyList, classifyListItem, htop]
  exact h

/-! ### Blocks -/

/-- An element that holds an element of the tag only if it is a wrapper of its class. -/
def Wraps (tag cls : String) (e : Element) (children : Forest) : Prop :=
  children.anyTop (·.tag == tag) = true → isWrapper cls e = true

/-- Once its blocks have wrappers, an element that holds a block is a wrapper. -/
theorem wraps_frameBlocks {tag cls : String} (htag : tag ≠ "div") (e : Element) (children : Forest) :
    Wraps tag cls e (children.frameBlocks tag cls (isWrapper cls e)) := by
  intro htop
  by_cases hwrapper : isWrapper cls e = true
  · exact hwrapper
  · rw [Bool.eq_false_iff.mpr hwrapper, Forest.anyTop_frameBlocks_self htag] at htop
    cases htop

theorem anyTop_frameBlocks_of_ne {tag cls other : String} {wrapped : Bool} (hne : tag ≠ other)
    (hdiv : other ≠ "div") (f : Forest) :
    (f.frameBlocks tag cls wrapped).anyTop (·.tag == other) = f.anyTop (·.tag == other) := by
  refine Forest.anyTop_frameBlocks (q := fun e => e.tag == other) (fun e he => ?_) ?_ f
  · exact beq_eq_false_iff_ne.mpr fun heq => hne (he.symm.trans heq)
  · exact beq_eq_false_iff_ne.mpr hdiv.symm

/-- Wrapping other blocks leaves the wrappers in their places. -/
theorem Wraps.frameBlocks {tag cls other cls' : String} (hne : other ≠ tag) (hdiv : tag ≠ "div")
    (wrapped : Bool) (e : Element) (children : Forest) (h : Wraps tag cls e children) :
    Wraps tag cls e (children.frameBlocks other cls' wrapped) := by
  rw [Wraps, anyTop_frameBlocks_of_ne hne hdiv]
  exact h

/-! ### The layout -/

/-- What the structure of a page is for an element and what is in it. -/
structure LaidOut (e : Element) (children : Forest) : Prop where
  heading : AnchoredHeading e children
  link : MarkedLink e children
  list : Classified e children
  code : Wraps "pre" "code-block" e children
  table : Wraps "table" "table-wrapper" e children

/-- A wrapper of blocks is no heading, no link and no list. -/
theorem blockWrapper_settled (cls : String) (children : Forest) :
    AnchoredHeading (blockWrapper cls) children ∧ MarkedLink (blockWrapper cls) children ∧
      Classified (blockWrapper cls) children := by
  have htag : (blockWrapper cls).tag ≠ "a" := fun h => absurd h (show "div" ≠ "a" by decide)
  have hlisted : isListedHeading (blockWrapper cls) = isListedHeading (.ofHtml "div") :=
    isListedHeading_of_tag rfl
  exact ⟨fun h => absurd (hlisted.symm.trans h) (by decide +kernel), markedLink_of_tag htag children, rfl⟩

/-- **Adding the structure lays out every element.** -/
theorem all_withStructure (registry : SlugRegistry) (wrapped : String → Bool) (f : Forest) :
    (f.withStructure registry wrapped).All LaidOut := by
  have hheadings : (f.identifyHeadings registry).All AnchoredHeading := all_anchorHeadings f _
  have hlinks : ((f.identifyHeadings registry).mapElements fun e _ => markInternalLink e).All
      fun e children => AnchoredHeading e children ∧ MarkedLink e children :=
    hheadings.mapElements _ fun e children h =>
      ⟨h.mapElements fun e _ => addsClasses_markInternalLink e, markInternalLink_markInternalLink e⟩
  have hlists := hlinks.mapElements classifyList
    (Q := fun e children => AnchoredHeading e children ∧ MarkedLink e children ∧ Classified e children)
    fun e children h => ⟨h.1.mapElements addsClasses_classifyList, h.2.classifyList,
      classified_classifyList e children⟩
  have hcode := hlists.frameBlocks "pre" "code-block"
    (Q := fun e children => (AnchoredHeading e children ∧ MarkedLink e children ∧ Classified e children) ∧
      Wraps "pre" "code-block" e children)
    (fun e children h => ⟨⟨h.1.frameBlocks (by decide) (by decide) _, h.2.1,
      h.2.2.frameBlocks (by decide) _⟩, wraps_frameBlocks (by decide) e children⟩)
    (fun _ _ _ => ⟨blockWrapper_settled _ _, fun _ => by decide +kernel⟩) (wrapped "code-block")
  exact hcode.frameBlocks "table" "table-wrapper"
    (fun e children ⟨h, hpre⟩ => ⟨h.1.frameBlocks (by decide) (by decide) _, h.2.1,
      h.2.2.frameBlocks (by decide) _, hpre.frameBlocks (by decide) (by decide) _,
      wraps_frameBlocks (by decide) e children⟩)
    (fun e children htag => ⟨(blockWrapper_settled _ _).1, (blockWrapper_settled _ _).2.1,
      (blockWrapper_settled _ _).2.2, fun htop => by simp [Forest.anyTop, htag] at htop,
      fun _ => by decide +kernel⟩) (wrapped "table-wrapper")

/-- On the top level of a structured forest no block is without a wrapper. -/
theorem anyTop_withStructure (registry : SlugRegistry) (wrapped : String → Bool) (f : Forest) :
    ((f.withStructure registry wrapped).anyTop (·.tag == "pre") = true → wrapped "code-block" = true) ∧
      ((f.withStructure registry wrapped).anyTop (·.tag == "table") = true →
        wrapped "table-wrapper" = true) := by
  unfold Forest.withStructure
  dsimp only
  constructor
  · rw [anyTop_frameBlocks_of_ne (by decide) (by decide)]
    cases wrapped "code-block" with
    | true => exact fun _ => rfl
    | false =>
      rw [Forest.anyTop_frameBlocks_self (by decide)]
      exact id
  · cases wrapped "table-wrapper" with
    | true => exact fun _ => rfl
    | false =>
      rw [Forest.anyTop_frameBlocks_self (by decide)]
      exact id

end Folio.Html
