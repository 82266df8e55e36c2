import Folio.Proofs.ElementClasses
import Folio.Proofs.FreshIds
import Folio.Proofs.HeadingAnchors
import Folio.Proofs.Links

/-! # Ids of headings in a page

The headings of a page that have no id get one, after the ids that headings have are taken.  The pass goes
from node to node and puts wrappers and anchors into the tree, so a heading may stand in the wrapper of
an earlier one by the time its turn comes.  Yet what the pass puts in is no heading and adds no text to
one that is still to come: the ids are those that the outline issues for the headings as they were
(`WellFormed.ownIds_identifyHeadings`).  Hence a new id is the id of
no other heading, before or after (`identifyHeadings_fresh`).  The ids of other elements are not taken,
and one of them may be given again (`exists_id_given_twice`). -/

namespace Folio

namespace Outline

/-! ### Ids along a list -/

/-- The ids after some headings have got theirs. -/
def GivenIds.past (ids : GivenIds) (headings : List Heading) : GivenIds :=
  headings.foldl
    (fun ids h =>
      match h.explicitId with
      | some _ => ids
      | none => (ids.issue h.text).2)
    ids

theorem issueFrom_append (l m : List Heading) (ids : GivenIds) :
    issueFrom ids (l ++ m) = issueFrom ids l ++ issueFrom (ids.past l) m := by
  induction l generalizing ids with
  | nil => rfl
  | cons h l ih =>
    rw [List.cons_append, issueFrom, issueFrom, GivenIds.past, List.foldl_cons]
    cases h.explicitId with
    | some id => exact congrArg (id :: ·) (ih ids)
    | none => exact congrArg (_ :: ·) (ih _)

theorem past_append (l m : List Heading) (ids : GivenIds) :
    ids.past (l ++ m) = (ids.past l).past m := List.foldl_append

theorem SlugRegistry.base_ne_empty (r : SlugRegistry) (text : String) : r.base text ≠ "" := by
  unfold SlugRegistry.base
  dsimp only
  split
  · decide
  · assumption

theorem numbered_ne_empty {base : String} (h : base ≠ "") (n : Nat) : numbered base n ≠ "" := by
  unfold numbered
  split
  · exact h
  · intro heq
    simp at heq

theorem GivenIds.issue_ne_empty (ids : GivenIds) (text : String) : (ids.issue text).1 ≠ "" :=
  numbered_ne_empty (ids.registry.base_ne_empty _) _

theorem getElem?_issueIds_of_givenAt {headings : List Heading} {registry : SlugRegistry} {i : Nat}
    {id : String} (h : givenAt headings i = some id) : (issueIds headings registry)[i]? = some id :=
  getElem?_issueFrom_of_givenAt headings _ i h

/-- No other heading has an id that was issued. -/
theorem getElem?_issueIds_ne {headings : List Heading} {registry : SlugRegistry} {i j : Nat}
    {id : String} (hij : i ≠ j) (hnone : givenAt headings i = none)
    (hi : (issueIds headings registry)[i]? = some id) : (issueIds headings registry)[j]? ≠ some id := by
  intro hj
  have hgiven := ((issueIds_eq_iff headings registry hij id).mp ⟨hi, hj⟩).1
  rw [hnone] at hgiven
  cases hgiven

end Outline

namespace Html

open Outline

/-! ### One heading -/

theorem isListedHeading_identified (e : Element) (id : String) :
    isListedHeading (identified e id) = isListedHeading e := by
  unfold identified
  split <;> rfl

/-- A heading as the outline sees it. -/
def outlined (e : Element) (children : Forest) : Heading :=
  ⟨(listedLevel? e).getD 0, String.ofList (Text.trim children.textChars), ownId? e⟩

/-- The id of a heading is not empty: its own is not, and what is issued starts with a base. -/
theorem headingId_ne_empty (ids : GivenIds) (e : Element) (children : Forest) :
    (headingId ids e children).1 ≠ "" := by
  unfold headingId
  split
  · rename_i id hid
    exact of_decide_eq_true (Option.mem_filter_iff.mp hid).2
  · exact ids.issue_ne_empty _

/-- Once it is identified, a heading has the id that it was given. -/
theorem ownId?_identified (ids : GivenIds) (e : Element) (children : Forest) :
    ownId? (identified e (headingId ids e children).1) = some (headingId ids e children).1 := by
  have hne := headingId_ne_empty ids e children
  unfold headingId at hne ⊢
  cases hown : ownId? e with
  | some id => simp [identified, hown]
  | none =>
    rw [hown] at hne
    simp only [identified, hown, Option.isSome_none, Bool.false_eq_true, if_false]
    unfold ownId? Element.attr? Element.setAttr
    rw [Attr.find?_put_self]
    simpa using hne

/-- The outline issues the id that a heading gets. -/
theorem issueFrom_outlined (ids : GivenIds) (e : Element) (children : Forest) (rest : List Heading) :
    issueFrom ids (outlined e children :: rest) =
      (headingId ids e children).1 :: issueFrom (headingId ids e children).2 rest := by
  rw [issueFrom]
  unfold outlined headingId
  cases ownId? e <;> rfl

theorem past_outlined (ids : GivenIds) (e : Element) (children : Forest) (rest : List Heading) :
    ids.past (outlined e children :: rest) = (headingId ids e children).2.past rest := by
  unfold GivenIds.past outlined headingId
  rw [List.foldl_cons]
  cases ownId? e <;> rfl

/-! ### The headings of a grove -/

namespace Grove

/-- The headings of a grove in document order, each with its place. -/
def headings : Grove → List (NodeId × Heading)
  | nil => []
  | node id kind below next =>
    match kind with
    | .element e =>
      if isListedHeading e then (id, outlined e below.forest) :: (below.headings ++ next.headings)
      else below.headings ++ next.headings
    | _ => below.headings ++ next.headings

theorem headings_node_of_pos {e : Element} (h : isListedHeading e = true) (id : NodeId)
    (below next : Grove) :
    (node id (.element e) below next).headings =
      (id, outlined e below.forest) :: (below.headings ++ next.headings) := by
  simp [headings, h]

theorem headings_node_of_neg {e : Element} (h : isListedHeading e = false) (id : NodeId)
    (below next : Grove) :
    (node id (.element e) below next).headings = below.headings ++ next.headings := by
  simp [headings, h]

theorem headings_append : ∀ f g : Grove, (f ++ g).headings = f.headings ++ g.headings
  | nil, _ => rfl
  | node _ kind below next, g => by
    simp only [node_append, headings, headings_append next g]
    cases kind with
    | element e =>
        dsimp only
        split
        · rw [List.cons_append, List.append_assoc]
        · rw [List.append_assoc]
    | document => exact (List.append_assoc _ _ _).symm
    | text s => exact (List.append_assoc _ _ _).symm
    | comment s => exact (List.append_assoc _ _ _).symm
    | doctype => exact (List.append_assoc _ _ _).symm

/-- What naming the headings of a grove comes to: they keep their places and get the ids that the outline
issues for them. -/
structure Named (ids : GivenIds) (g g' : Grove) (ids' : GivenIds) : Prop where
  places : g'.headings.map Prod.fst = g.headings.map Prod.fst
  given : g'.headings.map (·.2.explicitId) = (issueFrom ids (g.headings.map Prod.snd)).map some
  past : ids' = ids.past (g.headings.map Prod.snd)

theorem Named.refl {g : Grove} (h : g.headings = []) (ids : GivenIds) : Named ids g g ids := by
  refine ⟨rfl, ?_, ?_⟩
  · rw [h]; rfl
  · rw [h]; rfl

theorem Named.append {ids ids' ids'' : GivenIds} {f f' g g' : Grove} (hf : Named ids f f' ids')
    (hg : Named ids' g g' ids'') : Named ids (f ++ g) (f' ++ g') ids'' := by
  refine ⟨?_, ?_, ?_⟩
  · rw [headings_append, headings_append, List.map_append, List.map_append, hf.places, hg.places]
  · rw [headings_append, headings_append, List.map_append, List.map_append, issueFrom_append,
      List.map_append, hf.given, hg.given, hf.past]
  · rw [headings_append, List.map_append, past_append, hg.past, hf.past]

theorem headings_single_of_neg {e : Element} (h : isListedHeading e = false) (id : NodeId)
    (below : Grove) : (single id (.element e) below).headings = below.headings := by
  rw [headings_node_of_neg h, headings, List.append_nil]

/-- The wrapper and the anchor of a heading are no headings. -/
theorem headings_anchored {e : Element} (hlisted : isListedHeading e = true) (id wrapper : NodeId)
    (given : String) (inner : Grove) :
    (anchored id wrapper e given inner).headings =
      (id, outlined (identified e given)
        (single wrapper (.element headingWrapper) (inner ++ anchor (wrapper + 1) given)).forest) ::
          inner.headings := by
  have hwrapper : isListedHeading headingWrapper = false := rfl
  have hlink : isListedHeading (anchorElement given) = false := by
    simp [isListedHeading, listedLevel?, anchorElement, Element.ofHtml]
  have hanchor : (anchor (wrapper + 1) given).headings = [] := headings_single_of_neg hlink _ _
  rw [anchored, headings_node_of_pos (by rw [isListedHeading_identified, hlisted]),
    headings_single_of_neg hwrapper, headings_append, hanchor, headings, List.append_nil,
    List.append_nil]

theorem Named.single_of_neg {ids ids' : GivenIds} {e : Element} {below g' : Grove}
    (hlisted : isListedHeading e = false) (id : NodeId) (h : Named ids below g' ids') :
    Named ids (single id (.element e) below) (single id (.element e) g') ids' := by
  refine ⟨?_, ?_, ?_⟩
  · rw [headings_single_of_neg hlisted, headings_single_of_neg hlisted, h.places]
  · rw [headings_single_of_neg hlisted, headings_single_of_neg hlisted, h.given]
  · rw [headings_single_of_neg hlisted, h.past]

theorem Named.anchored {ids ids' : GivenIds} {e : Element} {below g' : Grove}
    (hlisted : isListedHeading e = true) (id wrapper : NodeId)
    (h : Named (headingId ids e below.forest).2 below g' ids') :
    Named ids (single id (.element e) below)
      (.anchored id wrapper e (headingId ids e below.forest).1 g') ids' := by
  have hbefore : (single id (.element e) below).headings =
      (id, outlined e below.forest) :: below.headings := by
    rw [headings_node_of_pos hlisted, headings, List.append_nil]
  have hafter := headings_anchored hlisted id wrapper (headingId ids e below.forest).1 g'
  refine ⟨?_, ?_, ?_⟩
  · rw [hbefore, hafter, List.map_cons, List.map_cons, h.places]
  · rw [hbefore, hafter, List.map_cons, List.map_cons, issueFrom_outlined, List.map_cons, h.given]
    exact congrArg (· :: _) (ownId?_identified ids e below.forest)
  · rw [hbefore, List.map_cons, past_outlined, h.past]

end Grove

namespace Tree

variable {t : Tree}

/-! ### The headings below a node -/

/-- The pass names the headings of a grove. -/
theorem passes_named (g : Grove) (s : Tree × GivenIds) (p : NodeId) (pre post : List NodeId)
    (h : s.1.Stands p pre g post) :
    Passes Prod.fst anchorHeading isListedHeading (fun s _ g g' s' => g.Named s.2 g' s'.2) s p pre g
      post := by
  refine passes_headings (fun ids g g' ids' => g.Named ids g' ids') (fun _ => .refl rfl _) ?_ ?_ ?_ ?_ g
    s p pre post h
  · intro ids id kind hkind
    cases kind with
    | document => cases hkind
    | element e => cases hkind
    | text _ => exact .refl rfl ids
    | comment _ => exact .refl rfl ids
    | doctype => exact .refl rfl ids
  · exact fun hfirst hrest => hfirst.append hrest
  · exact fun hlisted hbelow => hbelow.single_of_neg hlisted _
  · exact fun wrapper _ _ _ hlisted hbelow => hbelow.anchored hlisted _ wrapper

/-- The id that the element at a node has, if it is not empty. -/
def ownIdAt? (t : Tree) (n : NodeId) : Option String := (t.element? n).bind ownId?

/-- The element at a node as a heading of the outline. -/
def headingAt (t : Tree) (n : NodeId) : Heading :=
  ⟨((t.element? n).bind listedLevel?).getD 0, String.ofList (Text.trim (t.textContent n).toList),
    t.ownIdAt? n⟩

/-- The headings of a grove are the listed elements of its tree, each with the text below it. -/
theorem Stands.headings_eq : ∀ {p : NodeId} {pre post : List NodeId} {g : Grove},
    t.Stands p pre g post →
      g.headings = (g.elements isListedHeading).map fun n => (n, t.headingAt n)
  | _, _, _, .nil, _ => rfl
  | p, pre, post, .node id kind below next, h => by
    have hb := h.inside.headings_eq
    -- what follows the first node stands behind it once the two are read as parts side by side
    have hfirst : t.Stands p pre (.single id kind below ++ next) post := h
    have hn := hfirst.right.headings_eq
    cases kind with
    | element e =>
        have hheading : t.headingAt id = outlined e below.forest := by
          rw [headingAt, ownIdAt?, h.element?, h.text_below]
          rfl
        cases hlisted : isListedHeading e with
        | false =>
            rw [Grove.headings_node_of_neg hlisted, Grove.elements_node_of_neg hlisted, List.map_append,
              hb, hn]
        | true =>
            rw [Grove.headings_node_of_pos hlisted, Grove.elements_node_of_pos hlisted, List.map_cons,
              List.map_append, hb, hn, hheading]
    | document => exact (congrArg₂ (· ++ ·) hb hn).trans List.map_append.symm
    | text _ => exact (congrArg₂ (· ++ ·) hb hn).trans List.map_append.symm
    | comment _ => exact (congrArg₂ (· ++ ·) hb hn).trans List.map_append.symm
    | doctype => exact (congrArg₂ (· ++ ·) hb hn).trans List.map_append.symm

/-- After the pass the headings below a node have the ids that the outline issues for them as they were
before it. -/
theorem WellFormed.ownIds_identifyHeadings (ht : t.WellFormed) (root : NodeId)
    (registry : SlugRegistry) :
    (t.elementsBelow root isListedHeading).map (t.identifyHeadings root registry).ownIdAt? =
      (issueIds ((t.elementsBelow root isListedHeading).map t.headingAt) registry).map some := by
  obtain ⟨g, hg⟩ := ht.stands root
  obtain ⟨ids, hids⟩ : ∃ ids, ids = ((g.elements isListedHeading).filterMap t.ownIdAt?).foldl
    GivenIds.hold (GivenIds.start registry) := ⟨_, rfl⟩
  obtain ⟨g', hdone, hnamed⟩ := passes_named g (t, ids) root [] [] hg
  have hpass : ((g.elements isListedHeading).foldl anchorHeading (t, ids)).1 =
      t.identifyHeadings root registry := by
    rw [identifyHeadings, hg.elementsBelow, hids]
    rfl
  rw [hpass] at hdone
  have hplaces := hnamed.places
  have hgiven := hnamed.given
  rw [hg.headings_eq, hdone.stands.headings_eq] at hplaces hgiven
  simp only [List.map_map, Function.comp_def, List.map_id'] at hplaces hgiven
  rw [hplaces, hids] at hgiven
  rw [hg.elementsBelow, issueIds, List.filterMap_map]
  exact hgiven

theorem WellFormed.getElem?_issueIds (ht : t.WellFormed) {root : NodeId} {registry : SlugRegistry}
    {i : Nat} {n : NodeId} (hn : (t.elementsBelow root isListedHeading)[i]? = some n) :
    (issueIds ((t.elementsBelow root isListedHeading).map t.headingAt) registry)[i]? =
      (t.identifyHeadings root registry).ownIdAt? n := by
  have hi := congrArg (·[i]?) (ht.ownIds_identifyHeadings root registry)
  simp only [List.getElem?_map, hn, Option.map_some] at hi
  obtain ⟨id, hid, heq⟩ := Option.map_eq_some_iff.mp hi.symm
  rw [hid, heq]

theorem givenAt_headingAt {headings : List NodeId} {i : Nat} {n : NodeId}
    (hn : headings[i]? = some n) : givenAt (headings.map t.headingAt) i = t.ownIdAt? n := by
  rw [givenAt, List.getElem?_map, hn]
  rfl

/-- A heading keeps the id that it has. -/
theorem WellFormed.ownIdAt?_identifyHeadings (ht : t.WellFormed) {root : NodeId}
    (registry : SlugRegistry) {n : NodeId} {id : String}
    (hn : n ∈ t.elementsBelow root isListedHeading) (hid : t.ownIdAt? n = some id) :
    (t.identifyHeadings root registry).ownIdAt? n = some id := by
  obtain ⟨i, hi⟩ := List.getElem?_of_mem hn
  rw [← ht.getElem?_issueIds hi]
  exact getElem?_issueIds_of_givenAt ((givenAt_headingAt hi).trans hid)

/-- **Ids of headings are fresh**: a heading below a node that has no id gets one.  No heading there had
it before, and no other has it afterwards. -/
theorem identifyHeadings_fresh (ht : t.WellFormed) (root : NodeId) (registry : SlugRegistry) {n : NodeId}
    (hn : n ∈ t.elementsBelow root isListedHeading) (hnone : t.ownIdAt? n = none) :
    ∃ id, (t.identifyHeadings root registry).ownIdAt? n = some id ∧
      (∀ m, t.IsBelow root m → t.ownIdAt? m = some id → t.isElementOf m isListedHeading = false) ∧
      ∀ m ∈ t.elementsBelow root isListedHeading, m ≠ n →
        (t.identifyHeadings root registry).ownIdAt? m ≠ some id := by
  obtain ⟨i, hi⟩ := List.getElem?_of_mem hn
  have hunowned : givenAt ((t.elementsBelow root isListedHeading).map t.headingAt) i = none :=
    (givenAt_headingAt hi).trans hnone
  obtain ⟨id, hid⟩ : ∃ id, (t.identifyHeadings root registry).ownIdAt? n = some id := by
    rw [← ht.getElem?_issueIds hi]
    refine ⟨_, List.getElem?_eq_getElem ?_⟩
    rw [length_issueIds, List.length_map]
    exact (List.getElem?_eq_some_iff.mp hi).1
  have halone : ∀ m ∈ t.elementsBelow root isListedHeading, m ≠ n →
      (t.identifyHeadings root registry).ownIdAt? m ≠ some id := by
    intro m hm hne
    obtain ⟨j, hj⟩ := List.getElem?_of_mem hm
    have hij : i ≠ j := by
      rintro rfl
      exact hne (Option.some.inj (hj.symm.trans hi))
    rw [← ht.getElem?_issueIds hj]
    exact getElem?_issueIds_ne hij hunowned ((ht.getElem?_issueIds hi).trans hid)
  refine ⟨id, hid, fun m hbelow howned => ?_, halone⟩
  rw [Bool.eq_false_iff]
  intro hlisted
  have hm : m ∈ t.elementsBelow root isListedHeading :=
    List.mem_filter.mpr ⟨ht.mem_descendants_iff.mpr hbelow, hlisted⟩
  have hne : m ≠ n := by
    rintro rfl
    rw [hnone] at howned
    cases howned
  exact halone m hm hne (ht.ownIdAt?_identifyHeadings registry hm howned)

/-- A division and a heading with ids, and between them a heading without one. -/
def introPage : Tree :=
  let put (t : Tree) (n : NodeId × NodeKind) : Tree := (t.create n.2).append n.1 t.cells.size
  [(0, .element (.ofHtml "div" [("id", "intro-2")])), (0, .element (.ofHtml "h2")), (2, .text "Intro"),
    (0, .element (.ofHtml "h3" [("id", "intro")]))].foldl put empty

theorem introPage_wellFormed : introPage.WellFormed := by
  have hdivision := empty_wellFormed.append_create 0 (.element (.ofHtml "div" [("id", "intro-2")]))
    (by decide) (by decide) (by decide)
  have hheading := hdivision.append_create 0 (.element (.ofHtml "h2"))
    (by decide) (by decide) (by decide)
  have htext := hheading.append_create 2 (.text "Intro") (by decide) (by decide) (by decide)
  exact htext.append_create 0 (.element (.ofHtml "h3" [("id", "intro")]))
    (by decide) (by decide) (by decide)

/-- The id of the other heading is passed over. -/
theorem identifyHeadings_fresh_introPage :
    introPage.WellFormed ∧ 2 ∈ introPage.elementsBelow 0 isListedHeading ∧ introPage.ownIdAt? 2 = none ∧
      (introPage.identifyHeadings 0 .empty).ownIdAt? 2 = some "intro-2" ∧
      (introPage.identifyHeadings 0 .empty).ownIdAt? 4 ≠ some "intro-2" := by
  have hn : 2 ∈ introPage.elementsBelow 0 isListedHeading := by decide +kernel
  have hnone : introPage.ownIdAt? 2 = none := by decide +kernel
  have hgiven : (introPage.identifyHeadings 0 .empty).ownIdAt? 2 = some "intro-2" := by decide +kernel
  obtain ⟨id, hid, -, halone⟩ := identifyHeadings_fresh introPage_wellFormed 0 .empty hn hnone
  obtain rfl : id = "intro-2" := Option.some.inj (hid.symm.trans hgiven)
  exact ⟨introPage_wellFormed, hn, hnone, hgiven, halone 4 (by decide +kernel) (by decide)⟩

/-- The id of an element that is no heading is given a second time. -/
theorem exists_id_given_twice :
    ∃ (t : Tree) (root m n : NodeId) (id : String), t.WellFormed ∧ t.IsBelow root m ∧
      t.ownIdAt? m = some id ∧ n ∈ t.elementsBelow root isListedHeading ∧ t.ownIdAt? n = none ∧
      (t.identifyHeadings root .empty).ownIdAt? n = some id := by
  refine ⟨introPage, 0, 1, 2, "intro-2", introPage_wellFormed, .child (by decide +kernel), ?_, ?_, ?_, ?_⟩
  · decide +kernel
  · decide +kernel
  · decide +kernel
  · decide +kernel

end Tree

end Html

end Folio
