import Folio.Proofs.ElementClasses
import Folio.Proofs.HeadingAnchors

/-! # Adding the structure of a page to a tree

Links, lists and their items get classes, and blocks get wrappers.  Each pass lists its elements first
and then changes them in document order; where a grove stands this comes to the function on forests
(`Stands.withStructure`). -/

namespace Folio.Html

/-! ### Passes that change elements -/

/-- Every element changed by `f`, which also sees what is below it. -/
def Grove.mapElements (f : Element → Forest → Element) : Grove → Grove
  | .nil => .nil
  | .node id kind below next =>
    match kind with
    | .element e =>
      .node id (.element (f e below.forest)) (below.mapElements f) (next.mapElements f)
    | _ => .node id kind below (next.mapElements f)

theorem Grove.mapElements_append (f : Element → Forest → Element) :
    ∀ g h : Grove, (g ++ h).mapElements f = g.mapElements f ++ h.mapElements f
  | .nil, _ => rfl
  | .node id kind below next, h => by
    simp only [node_append, mapElements, mapElements_append f next h]
    cases kind <;> rfl

namespace Forest

/-- A change that keeps what `q` tells of an element keeps whether one is on the top level. -/
theorem anyTop_mapElements {q : Element → Bool} {f : Element → Forest → Element}
    (hq : ∀ e children, q (f e children) = q e) (g : Forest) :
    (g.mapElements f).anyTop q = g.anyTop q := by
  induction g with
  | nil => rfl
  | text s next ih => exact ih
  | comment s next ih => exact ih
  | doctype next ih => exact ih
  | element e children next _ ih => simp only [mapElements, anyTop, hq, ih]

end Forest

namespace Tree

variable {t t' : Tree} {p r id : NodeId} {pre post : List NodeId} {kind : NodeKind}
  {below g : Grove} {e : Element}

theorem Holds.forest_mapElements (f : Element → Forest → Element) : ∀ {p : NodeId} {g : Grove},
    t.Holds p g → (g.mapElements f).forest = g.forest.mapElements f
  | _, .nil, _ => rfl
  | _, .node id kind below next, ⟨_, hkind, hbelow, hnext⟩ => by
    have hb := hbelow.forest_mapElements f
    have hn := hnext.forest_mapElements f
    cases kind with
    | document => exact absurd rfl hkind.1
    | element e => simp only [Grove.mapElements, Grove.forest, nodeForest, Forest.mapElements, hb, hn]
    | text s => exact congrArg (Forest.text s) hn
    | comment s => exact congrArg (Forest.comment s) hn
    | doctype => exact congrArg Forest.doctype hn

/-- Two changes after one another are one change. -/
theorem Holds.mapElements_mapElements (f f' : Element → Forest → Element) : ∀ {p : NodeId} {g : Grove},
    t.Holds p g → (g.mapElements f).mapElements f' =
      g.mapElements fun e children => f' (f e children) (children.mapElements f)
  | _, .nil, _ => rfl
  | _, .node id kind below next, ⟨_, _, hbelow, hnext⟩ => by
    have hb := hbelow.mapElements_mapElements f f'
    have hn := hnext.mapElements_mapElements f f'
    cases kind with
    | element e => simp only [Grove.mapElements, hbelow.forest_mapElements f, hb, hn]
    | document => exact congrArg _ hn
    | text s => exact congrArg _ hn
    | comment s => exact congrArg _ hn
    | doctype => exact congrArg _ hn

/-- What a pass over the elements that satisfy `q` needs of the step it takes at each of them. -/
def ChangesBy (step : Tree → NodeId → Tree) (q : Element → Bool) (f : Element → Forest → Element) :
    Prop :=
  ∀ {t : Tree} {p : NodeId} {pre : List NodeId} {id : NodeId} {e : Element} {below : Grove}
    {post : List NodeId}, t.Stands p pre (.single id (.element e) below) post → q e = true →
      t.Replaces (step t id) p pre (.single id (.element e) below)
        (.single id (.element (f e below.forest)) below) post

/-- What such a pass comes to: every element of the grove is changed by `f`. -/
def Changes (step : Tree → NodeId → Tree) (q : Element → Bool) (f : Element → Forest → Element) :
    Tree → NodeId → List NodeId → Grove → List NodeId → Prop :=
  Passes (fun t => t) step q fun _ _ g g' _ => g' = g.mapElements f

/-- One element with what is below it, given the pass over what is below it. -/
theorem ChangesBy.element {step : Tree → NodeId → Tree} {q : Element → Bool}
    {f : Element → Forest → Element} (hstep : ChangesBy step q f)
    (hskip : ∀ e children, q e = false → f e children = e)
    (h : t.Stands p pre (.single id (.element e) below) post)
    (hbelow : ∀ (t : Tree) (p : NodeId) (post : List NodeId),
      t.Stands p [] below post → Changes step q f t p [] below post) :
    Changes step q f t p pre (.single id (.element e) below) post := by
  cases hq : q e with
  | false =>
      obtain ⟨g', hg, rfl⟩ := hbelow t id [] h.inside
      refine ⟨.single id (.element e) (below.mapElements f), ?_, ?_⟩
      · rw [Grove.elements_node_of_neg hq, Grove.elements_nil, List.append_nil]
        exact .inside h hg
      · simp only [Grove.mapElements, hskip e _ hq]
  | true =>
      have hfirst := hstep h hq
      obtain ⟨g', hg, rfl⟩ := hbelow (step t id) id [] hfirst.stands.inside
      refine ⟨.single id (.element (f e below.forest)) (below.mapElements f), ?_, rfl⟩
      rw [Grove.elements_node_of_pos hq, Grove.elements_nil, List.append_nil, List.foldl_cons]
      exact hfirst.trans (.inside hfirst.stands hg)

/-- A pass that changes the elements that satisfy `q`, one after the other. -/
theorem ChangesBy.foldl {step : Tree → NodeId → Tree} {q : Element → Bool}
    {f : Element → Forest → Element} (hstep : ChangesBy step q f)
    (hskip : ∀ e children, q e = false → f e children = e) (h : t.Stands p pre g post) :
    Changes step q f t p pre g post := by
  refine passes_of_element (fun _ _ => rfl) ?_ ?_ (hstep.element hskip) g t p pre post h
  · intro t p id kind hkind
    cases kind with
    | document => cases hkind
    | element e => cases hkind
    | text _ => rfl
    | comment _ => rfl
    | doctype => rfl
  · rintro t t' t'' p pre post f₁ f₁' g₁ g₁' - rfl rfl
    exact (Grove.mapElements_append f f₁ g₁).symm

/-- The pass over what is below a node. -/
theorem ChangesBy.replaces {step : Tree → NodeId → Tree} {q : Element → Bool}
    {f : Element → Forest → Element} (hstep : ChangesBy step q f)
    (hskip : ∀ e children, q e = false → f e children = e) (h : t.Stands r [] g []) :
    t.Replaces ((t.elementsBelow r q).foldl step t) r [] g (g.mapElements f) [] := by
  obtain ⟨g', hg, rfl⟩ := hstep.foldl hskip h
  rw [h.elementsBelow]
  exact hg

/-! ### Links and lists -/

theorem changesBy_modifyElement (q : Element → Bool) (f : Element → Element) :
    ChangesBy (fun t id => t.modifyElement id f) q (fun e _ => if q e then f e else e) := by
  intro t p pre id e below post h hq
  simp only [hq, if_true]
  exact h.modifyElement f

/-- Elements that satisfy `q` changed. -/
theorem Stands.modifyBelow (h : t.Stands r [] g []) (q : Element → Bool) (f : Element → Element) :
    t.Replaces (t.modifyBelow r q f) r [] g (g.mapElements fun e _ => if q e then f e else e) [] :=
  ChangesBy.replaces (changesBy_modifyElement q f) (fun e _ hq => if_neg (by simp [hq])) h

/-- Links inside the site get their class. -/
theorem Stands.markInternalLinks (h : t.Stands r [] g []) :
    t.Replaces (t.modifyBelow r (·.tag == "a") markInternalLink) r [] g
      (g.mapElements fun e _ => markInternalLink e) [] := by
  have hlinks : (fun (e : Element) (_ : Forest) => if e.tag == "a" then markInternalLink e else e) =
      fun e _ => markInternalLink e := by
    funext e _
    by_cases he : e.tag = "a"
    · simp [he]
    · simp [he, markInternalLink]
  rw [← hlinks]
  exact h.modifyBelow (·.tag == "a") markInternalLink

theorem Holds.any_tops (q : Element → Bool) : ∀ {p : NodeId} {g : Grove}, t.Holds p g →
    g.tops.any (t.isElementOf · q) = g.forest.anyTop q
  | _, .nil, _ => rfl
  | _, .node id kind below next, ⟨hcell, hkind, _, hnext⟩ => by
    have hn := hnext.any_tops q
    rw [Grove.tops, List.any_cons, hn]
    cases kind with
    | document => exact absurd rfl hkind.1
    | element e => simp [isElementOf, element?, hcell, Grove.forest, nodeForest, Forest.anyTop]
    | text s => simp [isElementOf, element?, hcell, Grove.forest, nodeForest, Forest.anyTop]
    | comment s => simp [isElementOf, element?, hcell, Grove.forest, nodeForest, Forest.anyTop]
    | doctype => simp [isElementOf, element?, hcell, Grove.forest, nodeForest, Forest.anyTop]

theorem Stands.classifyItem (h : t.Stands p pre (.single id (.element e) below) post) :
    t.Replaces (t.classifyItem id) p pre (.single id (.element e) below)
      (.single id (.element (classifyListItem e below.forest)) below) post := by
  have hitem := h.modifyElement (·.addClass "list-item")
  have hany : ((t.modifyElement id (·.addClass "list-item")).children id).any
      ((t.modifyElement id (·.addClass "list-item")).isElementOf · isTaskBox) =
        below.forest.anyTop isTaskBox := by
    rw [Tree.children, hitem.stands.cell]
    exact hitem.stands.inside.holds.any_tops isTaskBox
  simp only [Tree.classifyItem, hany, classifyListItem]
  split
  · exact hitem.trans (hitem.stands.modifyElement _)
  · exact hitem

/-- Classes of elements that are no check boxes change nothing about check boxes. -/
theorem isTaskBox_addClass_of_tag {tag : String} (htag : tag ≠ "input") (cls : String) (e : Element) :
    isTaskBox (if e.tag == tag then e.addClass cls else e) = isTaskBox e := by
  split
  · rename_i h
    have hne : e.tag ≠ "input" := fun heq => htag ((eq_of_beq h).symm.trans heq)
    have hfalse : (e.tag == "input") = false := beq_eq_false_iff_ne.mpr hne
    simp only [isTaskBox, Element.tag_addClass, hfalse, Bool.false_and]
  · rfl

/-- The three passes over lists are one change of the elements. -/
theorem Holds.mapElements_classifyList (h : t.Holds p g) :
    ((g.mapElements fun e _ => if e.tag == "ul" then e.addClass "list-disc" else e).mapElements
        fun e _ => if e.tag == "ol" then e.addClass "list-decimal" else e).mapElements
        (fun e children => if e.tag == "li" then classifyListItem e children else e) =
      g.mapElements classifyList := by
  rw [h.mapElements_mapElements, h.mapElements_mapElements]
  congr 1
  funext e children
  have htop : ((children.mapElements fun e _ =>
      if (if e.tag == "ul" then e.addClass "list-disc" else e).tag == "ol" then
        (if e.tag == "ul" then e.addClass "list-disc" else e).addClass "list-decimal"
      else if e.tag == "ul" then e.addClass "list-disc" else e).anyTop isTaskBox) =
        children.anyTop isTaskBox :=
    Forest.anyTop_mapElements (fun e _ => by
      rw [isTaskBox_addClass_of_tag (by decide), isTaskBox_addClass_of_tag (by decide)]) children
  simp only [classifyListItem, htop, classifyList]
  by_cases hul : e.tag = "ul"
  · simp [hul, Element.tag_addClass]
  · by_cases hol : e.tag = "ol"
    · simp [hol, Element.tag_addClass]
    · simp [hul, hol]

theorem changesBy_classifyItem : ChangesBy Tree.classifyItem (·.tag == "li")
    (fun e children => if e.tag == "li" then classifyListItem e children else e) := by
  intro t p pre id e below post h hq
  simp only [hq, if_true]
  exact h.classifyItem

/-- Lists and their items get their classes. -/
theorem Stands.classifyLists (h : t.Stands r [] g []) :
    t.Replaces (t.classifyLists r) r [] g (g.mapElements classifyList) [] := by
  have h₁ := h.modifyBelow (·.tag == "ul") (·.addClass "list-disc")
  have h₂ := h₁.stands.modifyBelow (·.tag == "ol") (·.addClass "list-decimal")
  have h₃ := ChangesBy.replaces changesBy_classifyItem (fun e _ hq => if_neg (by simp [hq])) h₂.stands
  rw [h.holds.mapElements_classifyList] at h₃
  exact (h₁.trans h₂).trans h₃

/-! ### Blocks -/

theorem frameBlocks_append (tag cls : String) (wrapped : Bool) (f g : Forest) :
    (f ++ g).frameBlocks tag cls wrapped =
      f.frameBlocks tag cls wrapped ++ g.frameBlocks tag cls wrapped := by
  induction f with
  | nil => rfl
  | text s next ih => exact congrArg (Forest.text s) ih
  | comment s next ih => exact congrArg (Forest.comment s) ih
  | doctype next ih => exact congrArg Forest.doctype ih
  | element e children next _ ih =>
      change (Forest.element e children (next ++ g)).frameBlocks tag cls wrapped = _
      simp only [Forest.frameBlocks, ih]
      split <;> rfl

/-- A change below a node does not change whether the node wraps blocks. -/
theorem Replaces.isElementOf_owner {g' : Grove} (h : t.Replaces t' p pre g g' post)
    (q : Element → Bool) : t'.isElementOf p q = t.isElementOf p q := by
  simp only [isElementOf, Tree.element?, h.owner]

/-- The pass over the blocks of a grove is followed from node to node: an element stays where it is, or a
new wrapper comes between it and its parent. -/
theorem passes_frames {tag cls : String} (left : Tree → NodeId → Grove → Grove → Prop)
    (hnil : ∀ t p, left t p .nil .nil)
    (hleaf : ∀ t p id kind, kind.holds = false → left t p (.single id kind .nil) (.single id kind .nil))
    (happend : ∀ {t t' : Tree} {p : NodeId} {pre post : List NodeId} {f f' g g' : Grove},
      t.Replaces t' p pre f f' post → left t p f f' → left t' p g g' → left t p (f ++ g) (f' ++ g'))
    (hkept : ∀ {t : Tree} {p : NodeId} {pre post : List NodeId} {id : NodeId} {e : Element}
      {below g' : Grove}, t.Stands p pre (.single id (.element e) below) post →
        (e.tag = tag → t.isElementOf p (isWrapper cls) = true) → left t id below g' →
          left t p (.single id (.element e) below) (.single id (.element e) g'))
    (hframed : ∀ {t : Tree} {p : NodeId} {pre post : List NodeId} {id : NodeId} {e : Element}
      {below g' : Grove}, t.Stands p pre (.single id (.element e) below) post → e.tag = tag →
        t.isElementOf p (isWrapper cls) = false →
          left ((t.create (.element (blockWrapper cls))).wrap id t.cells.size) id below g' →
            left t p (.single id (.element e) below)
              (.single t.cells.size (.element (blockWrapper cls)) (.single id (.element e) g')))
    (g : Grove) (t : Tree) (p : NodeId) (pre post : List NodeId) (h : t.Stands p pre g post) :
    Passes (fun t => t) (frameBlock cls) (·.tag == tag) (fun t p g g' _ => left t p g g') t p pre g
      post := by
  refine passes_of_element hnil hleaf happend ?_ g t p pre post h
  intro t p pre post id e below h hbelow
  have hparent : (t.parent? id).any (t.isElementOf · (isWrapper cls)) =
      t.isElementOf p (isWrapper cls) := by
    rw [h.parent, Option.any_some]
  cases htag : e.tag == tag with
  | false =>
      obtain ⟨g', hg, hleft⟩ := hbelow t id [] h.inside
      refine ⟨.single id (.element e) g', ?_, ?_⟩
      · rw [Grove.elements_node_of_neg htag, Grove.elements_nil, List.append_nil]
        exact .inside h hg
      · exact hkept h (fun heq => by simp [heq] at htag) hleft
  | true =>
      have heq : e.tag = tag := by simpa using htag
      have hfold : ((Grove.single id (.element e) below).elements (·.tag == tag)).foldl
          (frameBlock cls) t =
            (below.elements (·.tag == tag)).foldl (frameBlock cls) (frameBlock cls t id) := by
        rw [Grove.elements_node_of_pos htag, Grove.elements_nil, List.append_nil, List.foldl_cons]
      cases hwrapped : t.isElementOf p (isWrapper cls) with
      | true =>
          have hstep : frameBlock cls t id = t := by
            rw [frameBlock, hparent, hwrapped, if_pos rfl]
          obtain ⟨g', hg, hleft⟩ := hbelow t id [] h.inside
          refine ⟨.single id (.element e) g', ?_, hkept h (fun _ => hwrapped) hleft⟩
          rw [hfold, hstep]
          exact .inside h hg
      | false =>
          have hstep : frameBlock cls t id =
              (t.create (.element (blockWrapper cls))).wrap id t.cells.size := by
            rw [frameBlock, hparent, hwrapped, if_neg (by decide)]
          have hwrap := h.wrap (blockWrapper cls)
          obtain ⟨g', hg, hleft⟩ := hbelow _ id [] hwrap.stands.inside.inside
          refine ⟨.single t.cells.size (.element (blockWrapper cls)) (.single id (.element e) g'), ?_,
            hframed h heq hwrapped hleft⟩
          rw [hfold, hstep]
          exact hwrap.trans (.inside hwrap.stands (.inside hwrap.stands.inside hg))

/-- What the pass over the blocks of a grove comes to: it does to the forest what
`Forest.frameBlocks` does. -/
def Frames (tag cls : String) : Tree → NodeId → List NodeId → Grove → List NodeId → Prop :=
  Passes (fun t => t) (frameBlock cls) (·.tag == tag) fun t p g g' _ =>
    g'.forest = g.forest.frameBlocks tag cls (t.isElementOf p (isWrapper cls))

/-- The pass over the blocks of a grove. -/
theorem frames_foldl {tag cls : String} (g : Grove) (t : Tree) (p : NodeId) (pre post : List NodeId)
    (h : t.Stands p pre g post) : Frames tag cls t p pre g post := by
  have hinner : ∀ {t : Tree} {q : NodeId} {pre post : List NodeId} {id : NodeId} {e : Element}
      {below : Grove}, t.Stands q pre (.single id (.element e) below) post →
        t.isElementOf id (isWrapper cls) = isWrapper cls e := fun h => by
    rw [isElementOf, h.element?, Option.any_some]
  refine passes_frames (fun t p g g' =>
    g'.forest = g.forest.frameBlocks tag cls (t.isElementOf p (isWrapper cls)))
    (fun _ _ => rfl) ?_ ?_ ?_ ?_ g t p pre post h
  · intro t p id kind hkind
    cases kind with
    | document => cases hkind
    | element e => cases hkind
    | text _ => rfl
    | comment _ => rfl
    | doctype => rfl
  · intro t t' p pre post f f' g g' hf hfirst hrest
    rw [Grove.forest_append, Grove.forest_append, frameBlocks_append, hfirst, hrest,
      Replaces.isElementOf_owner hf]
  · intro t p pre post id e below g' h hwrapped hforest
    rw [hinner h] at hforest
    by_cases htag : e.tag = tag
    · simp [Grove.forest, nodeForest, Forest.frameBlocks, hforest, hwrapped htag]
    · simp only [Grove.forest, nodeForest, Forest.frameBlocks, hforest, htag, false_and, if_false]
  · intro t p pre post id e below g' h htag hbare hforest
    rw [hinner (h.wrap (blockWrapper cls)).stands.inside] at hforest
    simp [Grove.forest, nodeForest, Forest.frameBlocks, hforest, hbare, htag]

/-- The blocks of a tag below a node get wrappers. -/
theorem Stands.frameBlocks (h : t.Stands r [] g []) (tag cls : String) :
    ∃ g', t.Replaces (t.frameBlocks r tag cls) r [] g g' [] ∧
      g'.forest = g.forest.frameBlocks tag cls (t.isElementOf r (isWrapper cls)) := by
  unfold Tree.frameBlocks
  rw [h.elementsBelow]
  exact frames_foldl g t r [] [] h

/-! ### The structure of a page -/

/-- The passes come to the function on forests. -/
theorem Stands.withStructure (h : t.Stands r [] g []) (registry : Outline.SlugRegistry) :
    ∃ g', t.Replaces (t.withStructure r registry) r [] g g' [] ∧
      g'.forest = g.forest.withStructure registry fun cls => t.isElementOf r (isWrapper cls) := by
  obtain ⟨g₁, h₁, hf₁⟩ := h.identifyHeadings registry
  have h₂ := h₁.stands.markInternalLinks
  have h₃ := h₂.stands.classifyLists
  obtain ⟨g₄, h₄, hf₄⟩ := h₃.stands.frameBlocks "pre" "code-block"
  obtain ⟨g₅, h₅, hf₅⟩ := h₄.stands.frameBlocks "table" "table-wrapper"
  refine ⟨g₅, (((h₁.trans h₂).trans h₃).trans h₄).trans h₅, ?_⟩
  have howner := ((h₁.trans h₂).trans h₃).isElementOf_owner (isWrapper "code-block")
  have howner' := (((h₁.trans h₂).trans h₃).trans h₄).isElementOf_owner (isWrapper "table-wrapper")
  rw [hf₅, howner', hf₄, howner, h₂.stands.holds.forest_mapElements, h₁.stands.holds.forest_mapElements,
    hf₁]
  rfl

end Tree

end Folio.Html
