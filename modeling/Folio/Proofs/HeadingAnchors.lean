import Folio.Proofs.GroveEdits
import Folio.Proofs.GroveOfTree

/-! # Anchors of headings

`Tree.identifyHeadings` lists the headings below a node before it changes the first of them.  Each gets
an id, and what it holds goes into a new wrapper with an anchor behind it; headings inside a heading
are in its wrapper by the time their turn comes.  Where a grove stands this comes to
`Forest.anchorHeadings`. -/

namespace Folio.Html

/-- The anchor of a heading, its text next to it in the tree. -/
def Grove.anchor (n : NodeId) (id : String) : Grove :=
  .single n (.element (anchorElement id)) (.single (n + 1) (.text "#") .nil)

/-- A heading with its id, around a wrapper that holds what the heading held and an anchor. -/
def Grove.anchored (id wrapper : NodeId) (e : Element) (given : String) (inner : Grove) : Grove :=
  .single id (.element (identified e given))
    (.single wrapper (.element headingWrapper) (inner ++ .anchor (wrapper + 1) given))

namespace Tree

variable {t t' : Tree} {p heading : NodeId} {pre post : List NodeId} {below : Grove} {e : Element}

/-! ### The wrapper and the anchor -/

@[simp] theorem size_moveIntoNew (t : Tree) (id : NodeId) (w : Element) :
    (t.moveIntoNew id w).cells.size = t.cells.size + 1 := by
  rw [moveIntoNew, size_moveChildren, size_create]

theorem cell_moveIntoNew {t : Tree} {id : NodeId} (w : Element) (hid : id < t.cells.size)
    (hm : ∀ c ∈ t.children id, c < t.cells.size ∧ c ≠ id) (i : NodeId) :
    (t.moveIntoNew id w).cell i =
      if i = id then { t.cell id with children := [] }
      else if i = t.cells.size then ⟨.element w, none, t.children id⟩
      else if i ∈ t.children id then { t.cell i with parent := some t.cells.size } else t.cell i := by
  have hold : ∀ i < t.cells.size, (t.create (.element w)).cell i = t.cell i := fun i hi =>
    cell_create_ne t _ (Nat.ne_of_lt hi)
  have hchildren : (t.create (.element w)).children id = t.children id := by
    rw [Tree.children, hold id hid, Tree.children]
  have hlt : ∀ {i : NodeId}, i < t.cells.size → i < (t.create (.element w)).cells.size := fun hi => by
    rw [size_create]
    exact Nat.lt_add_right 1 hi
  rw [moveIntoNew, cell_moveChildren (Nat.ne_of_lt hid) (hlt hid) (by simp) (fun c hc => by
    obtain ⟨hc, hne⟩ := hm c (hchildren ▸ hc)
    exact ⟨hlt hc, hne, Nat.ne_of_lt hc⟩), hchildren, hold id hid, Tree.children, cell_create_self]
  split
  · rfl
  · split
    · rfl
    · rw [cell_create_ne t _ ‹_›]

@[simp] theorem size_makeAnchor (t : Tree) (id : String) :
    (t.makeAnchor id).cells.size = t.cells.size + 2 := by
  have hnil : (t.create (.element (anchorElement id))).children t.cells.size = [] := by
    rw [Tree.children, cell_create_self]
  rw [makeAnchor, appendText_of_children_nil hnil, size_append, size_create, size_create]

theorem cell_makeAnchor (t : Tree) (id : String) (i : NodeId) :
    (t.makeAnchor id).cell i =
      if i = t.cells.size then ⟨.element (anchorElement id), none, [t.cells.size + 1]⟩
      else if i = t.cells.size + 1 then ⟨.text "#", some t.cells.size, []⟩
      else t.cell i := by
  obtain ⟨made, hmade⟩ : ∃ made, made = t.create (.element (anchorElement id)) := ⟨_, rfl⟩
  have hsize : made.cells.size = t.cells.size + 1 := by rw [hmade, size_create]
  have hne : t.cells.size ≠ made.cells.size := by omega
  have hself : made.cell t.cells.size = ⟨.element (anchorElement id), none, []⟩ := by
    rw [hmade, cell_create_self]
  have hnil : made.children t.cells.size = [] := by rw [Tree.children, hself]
  have hnone : (made.create (.text "#")).parent? made.cells.size = none := by
    rw [parent?, cell_create_self]
  have hlt : t.cells.size < (made.create (.text "#")).cells.size := by
    rw [size_create, hsize]
    exact Nat.lt_add_right 1 (Nat.lt_add_one _)
  rw [makeAnchor, ← hmade, appendText_of_children_nil hnil,
    cell_append_of_parent_none hnone hlt (by simp) hne,
    cell_create_self, Tree.children, cell_create_ne made _ hne, hself, hsize]
  split
  · rename_i heq
    have hi : i ≠ t.cells.size := fun h => hne (h.symm.trans (heq.trans hsize.symm))
    rw [if_neg hi]
  · split
    · rfl
    · rename_i hsucc hi
      rw [cell_create_ne made _ (hsize ▸ hsucc), hmade, cell_create_ne t _ hi]

theorem cell_wrapHeading {t : Tree} {heading : NodeId} (id : String) (hlt : heading < t.cells.size)
    (hm : ∀ c ∈ t.children heading, c < t.cells.size ∧ c ≠ heading) (i : NodeId) :
    (t.wrapHeading heading id).cell i =
      if i = t.cells.size then
        ⟨.element headingWrapper, some heading, t.children heading ++ [t.cells.size + 1]⟩
      else if i = heading then { t.cell heading with children := [t.cells.size] }
      else if i = t.cells.size + 1 then
        ⟨.element (anchorElement id), some t.cells.size, [t.cells.size + 2]⟩
      else if i = t.cells.size + 2 then ⟨.text "#", some (t.cells.size + 1), []⟩
      else if i ∈ t.children heading then { t.cell i with parent := some t.cells.size }
      else t.cell i := by
  have hmoved := cell_moveIntoNew headingWrapper hlt hm
  obtain ⟨filled, hfilled⟩ :
    ∃ filled, filled = (t.moveIntoNew heading headingWrapper).makeAnchor id := ⟨_, rfl⟩
  have hsize : filled.cells.size = t.cells.size + 3 := by
    rw [hfilled, size_makeAnchor, size_moveIntoNew]
  have hcell := cell_makeAnchor (t.moveIntoNew heading headingWrapper) id
  rw [← hfilled, size_moveIntoNew] at hcell
  have hnew : t.cells.size ≠ t.cells.size + 1 := Nat.ne_of_lt (Nat.lt_add_one _)
  have hnew' : t.cells.size ≠ t.cells.size + 2 := Nat.ne_of_lt (Nat.lt_add_of_pos_right (by decide))
  have hold : heading ≠ t.cells.size ∧ heading ≠ t.cells.size + 1 ∧ heading ≠ t.cells.size + 2 :=
    ⟨Nat.ne_of_lt hlt, Nat.ne_of_lt (Nat.lt_add_right 1 hlt), Nat.ne_of_lt (Nat.lt_add_right 2 hlt)⟩
  -- the anchor goes into the wrapper
  have hwrapper : filled.cell t.cells.size = ⟨.element headingWrapper, none, t.children heading⟩ := by
    rw [hcell, if_neg hnew, if_neg hnew', hmoved, if_neg hold.1.symm, if_pos rfl]
  have hanchor : filled.cell (t.cells.size + 1) =
      ⟨.element (anchorElement id), none, [t.cells.size + 2]⟩ := by
    rw [hcell, if_pos rfl]
  have hheading : filled.cell heading = { t.cell heading with children := [] } := by
    rw [hcell, if_neg hold.2.1, if_neg hold.2.2, hmoved, if_pos rfl]
  obtain ⟨joined, hjoined⟩ :
    ∃ joined, joined = filled.append t.cells.size (t.cells.size + 1) := ⟨_, rfl⟩
  have hfree : filled.parent? (t.cells.size + 1) = none := by rw [parent?, hanchor]
  have hjoinedcell := cell_append_of_parent_none hfree (by simp [hsize]) (by simp [hsize]) hnew
  rw [← hjoined, hanchor, Tree.children, hwrapper] at hjoinedcell
  -- the wrapper goes into the heading
  have hjoinedwrapper : joined.cell t.cells.size =
      ⟨.element headingWrapper, none, t.children heading ++ [t.cells.size + 1]⟩ := by
    rw [hjoinedcell, if_neg hnew, if_pos rfl]
  have hjoinedheading : joined.cell heading = { t.cell heading with children := [] } := by
    rw [hjoinedcell, if_neg hold.2.1, if_neg hold.1, hheading]
  have hjoinedchildren : joined.children heading = [] := by rw [Tree.children, hjoinedheading]
  have hjoinedsize : joined.cells.size = t.cells.size + 3 := by rw [hjoined, size_append, hsize]
  have hdone : t.wrapHeading heading id = joined.append heading t.cells.size := by
    rw [hjoined, hfilled, Tree.wrapHeading, size_moveIntoNew]
  rw [hdone, cell_append_of_parent_none (by rw [parent?, hjoinedwrapper])
    (by rw [hjoinedsize]; exact Nat.lt_add_right 3 hlt) (by simp [hjoinedsize]) hold.1, hjoinedwrapper,
    hjoinedchildren, hjoinedheading]
  split
  · rfl
  · rename_i hi
    split
    · rfl
    · rename_i hi'
      rw [hjoinedcell]
      split
      · rfl
      · rename_i hi''
        rw [hcell, if_neg hi'']
        split
        · rfl
        · rw [hmoved, if_neg hi', if_neg hi]

/-- What a heading holds goes into a wrapper, with an anchor behind it. -/
theorem Stands.wrapHeading (h : t.Stands heading [] below []) (hlt : heading < t.cells.size)
    (id : String) :
    t.Replaces (t.wrapHeading heading id) heading [] below
      (.single t.cells.size (.element headingWrapper) (below ++ .anchor (t.cells.size + 1) id)) [] := by
  have hchildren : t.children heading = below.tops := by simpa using h.children
  have hin : ∀ i ∈ below.ids, i < t.cells.size ∧ i ≠ heading := fun i hi =>
    ⟨h.holds.lt_size hi, (h.apart i hi).1⟩
  have hcell := cell_wrapHeading id hlt fun c hc => hin c (Grove.mem_ids_of_mem_tops (hchildren ▸ hc))
  rw [hchildren] at hcell
  have hold : ∀ i < t.cells.size, i ≠ t.cells.size ∧ i ≠ t.cells.size + 1 ∧ i ≠ t.cells.size + 2 :=
    fun i hi => ⟨Nat.ne_of_lt hi, Nat.ne_of_lt (Nat.lt_add_right 1 hi),
      Nat.ne_of_lt (Nat.lt_add_right 2 hi)⟩
  have hkept : ∀ i < t.cells.size, i ≠ heading → (t.wrapHeading heading id).cell i =
      if i ∈ below.tops then { t.cell i with parent := some t.cells.size } else t.cell i := by
    intro i hi hne
    obtain ⟨h0, h1, h2⟩ := hold i hi
    rw [hcell, if_neg h0, if_neg hne, if_neg h1, if_neg h2]
  have hnew : ∀ i, t.cells.size ≤ i → i ∉ below.ids := fun i hi hmem =>
    absurd (hin i hmem).1 (Nat.not_lt.mpr hi)
  obtain ⟨h0, h1, h2⟩ := hold heading hlt
  have hapart : t.cells.size ≠ t.cells.size + 1 ∧ t.cells.size ≠ t.cells.size + 2 ∧
      t.cells.size + 1 ≠ t.cells.size + 2 := by omega
  have hsize : (t.wrapHeading heading id).cells.size = t.cells.size + 3 := by
    simp [Tree.wrapHeading]
  refine h.replaces hlt (by rw [hsize]; exact Nat.le_add_right _ 3) ?_
    ⟨?_, ⟨nofun, .inl rfl⟩, holds_append.mpr ⟨?_, ?_⟩, trivial⟩ ?_ ?_ ?_
  · rw [hcell, if_neg h0, if_pos rfl]
    rfl
  · rw [hcell, if_pos rfl, Grove.tops_append]
    rfl
  · refine h.holds.reparent h.nodup (fun i hi => ?_) fun i hi htop => ?_
    · obtain ⟨hilt, hne⟩ := hin i (Grove.mem_ids_of_mem_tops hi)
      rw [hkept i hilt hne, if_pos hi]
    · rw [hkept i (hin i hi).1 (hin i hi).2, if_neg htop]
  · refine ⟨?_, ⟨nofun, .inl rfl⟩, ⟨?_, ⟨nofun, .inr rfl⟩, trivial, trivial⟩, trivial⟩
    · rw [hcell, if_neg hapart.1.symm, if_neg h1.symm, if_pos rfl]
      rfl
    · rw [hcell, if_neg hapart.2.1.symm, if_neg h2.symm, if_neg hapart.2.2.symm, if_pos rfl]
      rfl
  · simp only [Grove.anchor, Grove.ids, Grove.ids_append, List.append_nil, List.nodup_cons,
      List.nodup_append, List.mem_cons, List.mem_append, List.not_mem_nil, or_false, not_or]
    refine ⟨⟨hnew _ (Nat.le_refl _), hapart.1, hapart.2.1⟩, h.nodup,
      ⟨hapart.2.2, not_false, List.nodup_nil⟩, ?_⟩
    rintro i hi j (rfl | rfl) rfl
    · exact hnew _ (Nat.le_add_right _ 1) hi
    · exact hnew _ (Nat.le_add_right _ 2) hi
  · intro i hi
    simp only [Grove.anchor, Grove.ids, Grove.ids_append, List.append_nil, List.mem_cons, List.mem_append,
      List.not_mem_nil, or_false] at hi
    rcases hi with rfl | hi | rfl | rfl
    · exact .inr (Nat.le_refl _)
    · exact .inl hi
    · exact .inr (Nat.le_add_right _ 1)
    · exact .inr (Nat.le_add_right _ 2)
  · intro i hi hne hmem
    rw [hkept i hi hne, if_neg fun htop => hmem (Grove.mem_ids_of_mem_tops htop)]

/-! ### The pass -/

theorem Stands.element? {next : Grove} (h : t.Stands p pre (.node heading (.element e) below next) post) :
    t.element? heading = some e := by
  simp [Tree.element?, h.cell]

/-- The text of an element is that of the grove below it. -/
theorem Stands.text_below {next : Grove}
    (h : t.Stands p pre (.node heading (.element e) below next) post) :
    (t.textContent heading).toList = below.forest.textChars := by
  rw [h.inside.textContent (by simp [text?, h.cell]), Forest.textContent, String.toList_ofList]

theorem Stands.headingId (h : t.Stands p pre (.single heading (.element e) below) post)
    (ids : Outline.GivenIds) :
    t.headingId ids heading = Html.headingId ids e below.forest := by
  unfold Tree.headingId Html.headingId
  rw [h.element?, h.text_below]
  rfl

/-- A heading gets its id, a wrapper and an anchor. -/
theorem Stands.anchorHeading (h : t.Stands p pre (.single heading (.element e) below) post)
    (ids : Outline.GivenIds) :
    t.Replaces (Tree.anchorHeading (t, ids) heading).1 p pre (.single heading (.element e) below)
      (.single heading (.element (identified e (Html.headingId ids e below.forest).1))
        (.single t.cells.size (.element headingWrapper)
          (below ++ .anchor (t.cells.size + 1) (Html.headingId ids e below.forest).1))) post := by
  have hnamed := h.modifyElement (identified · (Html.headingId ids e below.forest).1)
  have hlt := lt_size_of_parent hnamed.stands.parent
  have hwrapped := hnamed.stands.inside.wrapHeading hlt (Html.headingId ids e below.forest).1
  rw [size_modifyElement] at hwrapped
  simp only [Tree.anchorHeading, h.headingId ids]
  exact hnamed.trans (.inside hnamed.stands hwrapped)

theorem anchorHeadings_append (ids : Outline.GivenIds) (f g : Forest) :
    (f ++ g).anchorHeadings ids =
      ((f.anchorHeadings ids).1 ++ (g.anchorHeadings (f.anchorHeadings ids).2).1,
        (g.anchorHeadings (f.anchorHeadings ids).2).2) := by
  induction f generalizing ids with
  | nil => rfl
  | text s next ih =>
      change (Forest.text s (next ++ g)).anchorHeadings ids = _
      simp only [Forest.anchorHeadings, ih]
      rfl
  | comment s next ih =>
      change (Forest.comment s (next ++ g)).anchorHeadings ids = _
      simp only [Forest.anchorHeadings, ih]
      rfl
  | doctype next ih =>
      change (Forest.doctype (next ++ g)).anchorHeadings ids = _
      simp only [Forest.anchorHeadings, ih]
      rfl
  | element e children next _ ih =>
      change (Forest.element e children (next ++ g)).anchorHeadings ids = _
      simp only [Forest.anchorHeadings]
      split
      · simp only [ih]
        rfl
      · simp only [ih]
        rfl

/-- The pass over the headings of a grove is followed from node to node: `left` tells what it makes of a
grove, of the tree and of the ids, given what it makes of what is below an element.  What a heading held
is in its wrapper by then. -/
theorem passes_anchors (left : Tree × Outline.GivenIds → Grove → Grove → Tree × Outline.GivenIds → Prop)
    (hnil : ∀ s, left s .nil .nil s)
    (hleaf : ∀ s id kind, kind.holds = false → left s (.single id kind .nil) (.single id kind .nil) s)
    (happend : ∀ {s s' s'' : Tree × Outline.GivenIds} {p : NodeId} {pre post : List NodeId}
      {f f' g g' : Grove}, s.1.Replaces s'.1 p pre f f' post → left s f f' s' → left s' g g' s'' →
        left s (f ++ g) (f' ++ g') s'')
    (hother : ∀ {s s' : Tree × Outline.GivenIds} {p : NodeId} {pre post : List NodeId} {id : NodeId}
      {e : Element} {below g' : Grove}, s.1.Stands p pre (.single id (.element e) below) post →
        isListedHeading e = false → left s below g' s' →
          left s (.single id (.element e) below) (.single id (.element e) g') s')
    (hheading : ∀ {s s' : Tree × Outline.GivenIds} {p : NodeId} {pre post : List NodeId} {id : NodeId}
      {e : Element} {below g' : Grove}, s.1.Stands p pre (.single id (.element e) below) post →
        isListedHeading e = true → left (Tree.anchorHeading s id) below g' s' →
          left s (.single id (.element e) below)
            (.anchored id s.1.cells.size e (Html.headingId s.2 e below.forest).1 g') s')
    (g : Grove) (s : Tree × Outline.GivenIds) (p : NodeId) (pre post : List NodeId)
    (h : s.1.Stands p pre g post) :
    Passes Prod.fst anchorHeading isListedHeading (fun s _ g g' s' => left s g g' s') s p pre g post := by
  refine passes_of_element (fun s _ => hnil s) (fun s _ => hleaf s) happend ?_ g s p pre post h
  intro s p pre post id e below h hbelow
  cases hlisted : isListedHeading e with
  | false =>
      obtain ⟨g', hg, hleft⟩ := hbelow s id [] h.inside
      have hfold : (Grove.single id (.element e) below).elements isListedHeading =
          below.elements isListedHeading := by
        rw [Grove.elements_node_of_neg hlisted, Grove.elements_nil, List.append_nil]
      refine ⟨.single id (.element e) g', ?_, ?_⟩
      · rw [hfold]
        exact .inside h hg
      · rw [hfold]
        exact hother h hlisted hleft
  | true =>
      have hanchored := h.anchorHeading s.2
      have hwrapper := hanchored.stands.inside
      obtain ⟨g', hg, hleft⟩ := hbelow _ _ _ hwrapper.inside.left
      have hinner := Replaces.append hwrapper.inside hg (.refl (hg.right hwrapper.inside))
      have hdone := hanchored.trans (.inside hanchored.stands (.inside hwrapper hinner))
      have hfold : ((Grove.single id (.element e) below).elements isListedHeading).foldl
          Tree.anchorHeading s =
            (below.elements isListedHeading).foldl Tree.anchorHeading (Tree.anchorHeading s id) := by
        rw [Grove.elements_node_of_pos hlisted, Grove.elements_nil, List.append_nil, List.foldl_cons]
      refine ⟨.anchored id s.1.cells.size e (Html.headingId s.2 e below.forest).1 g', ?_, ?_⟩
      · rw [hfold]
        exact hdone
      · rw [hfold]
        exact hheading h hlisted hleft

/-- What the pass makes of a grove and of the ids, where the new places do not matter. -/
theorem passes_headings (left : Outline.GivenIds → Grove → Grove → Outline.GivenIds → Prop)
    (hnil : ∀ ids, left ids .nil .nil ids)
    (hleaf : ∀ ids id kind, kind.holds = false →
      left ids (.single id kind .nil) (.single id kind .nil) ids)
    (happend : ∀ {ids ids' ids'' : Outline.GivenIds} {f f' g g' : Grove}, left ids f f' ids' →
      left ids' g g' ids'' → left ids (f ++ g) (f' ++ g') ids'')
    (hother : ∀ {ids ids' : Outline.GivenIds} {id : NodeId} {e : Element} {below g' : Grove},
      isListedHeading e = false → left ids below g' ids' →
        left ids (.single id (.element e) below) (.single id (.element e) g') ids')
    (hheading : ∀ {ids ids' : Outline.GivenIds} {id : NodeId} (wrapper : NodeId) {e : Element}
      {below g' : Grove}, isListedHeading e = true →
        left (Html.headingId ids e below.forest).2 below g' ids' →
          left ids (.single id (.element e) below)
            (.anchored id wrapper e (Html.headingId ids e below.forest).1 g') ids')
    (g : Grove) (s : Tree × Outline.GivenIds) (p : NodeId) (pre post : List NodeId)
    (h : s.1.Stands p pre g post) :
    Passes Prod.fst anchorHeading isListedHeading (fun s _ g g' s' => left s.2 g g' s'.2) s p pre g
      post := by
  refine passes_anchors (fun s g g' s' => left s.2 g g' s'.2) (fun s => hnil s.2)
    (fun s => hleaf s.2) (fun _ hf hg => happend hf hg) (fun _ hlisted hleft => hother hlisted hleft)
    ?_ g s p pre post h
  intro s s' p pre post id e below g' h hlisted hleft
  have hids : (Tree.anchorHeading s id).2 = (Html.headingId s.2 e below.forest).2 := by
    simp only [Tree.anchorHeading, h.headingId s.2]
  exact hheading s.1.cells.size hlisted (hids ▸ hleft)

/-- What the pass over the headings of a grove comes to: it does to the forest what
`Forest.anchorHeadings` does. -/
def Anchors : Tree × Outline.GivenIds → NodeId → List NodeId → Grove → List NodeId → Prop :=
  Passes Prod.fst anchorHeading isListedHeading fun s _ g g' s' =>
    g.forest.anchorHeadings s.2 = (g'.forest, s'.2)

/-- The pass over the headings of a grove. -/
theorem anchors_foldl (g : Grove) (s : Tree × Outline.GivenIds) (p : NodeId)
    (pre post : List NodeId) (h : s.1.Stands p pre g post) : Anchors s p pre g post := by
  refine passes_headings (fun ids g g' ids' => g.forest.anchorHeadings ids = (g'.forest, ids'))
    (fun _ => rfl) ?_ ?_ ?_ ?_ g s p pre post h
  · intro ids id kind hkind
    cases kind with
    | document => cases hkind
    | element e => cases hkind
    | text _ => rfl
    | comment _ => rfl
    | doctype => rfl
  · intro ids ids' ids'' f f' g g' hfirst hrest
    rw [Grove.forest_append, Grove.forest_append, anchorHeadings_append, hfirst, hrest]
  · intro ids ids' id e below g' hlisted hforest
    rw [Grove.forest, nodeForest, Forest.anchorHeadings, if_neg (by simp [hlisted]), hforest]
    rfl
  · intro ids ids' id wrapper e below g' hlisted hforest
    rw [Grove.forest, nodeForest, Forest.anchorHeadings, if_pos hlisted]
    simp only [Grove.anchored, Grove.forest, nodeForest, Grove.forest_append, hforest]
    rfl

/-- The ids that headings have already are those of the forest. -/
theorem Holds.filterMap_headings : ∀ {p : NodeId} {g : Grove}, t.Holds p g →
    (g.elements isListedHeading).filterMap (fun id => (t.element? id).bind ownId?) =
      g.forest.headingIds
  | _, .nil, _ => rfl
  | _, .node id kind below next, ⟨hcell, hkind, hbelow, hnext⟩ => by
    have hb := hbelow.filterMap_headings
    have hn := hnext.filterMap_headings
    rw [Forest.headingIds] at hb hn
    cases kind with
    | document => exact absurd rfl hkind.1
    | element e =>
        have helement : t.element? id = some e := by simp [Tree.element?, hcell]
        rw [Grove.forest, nodeForest, Forest.headingIds, Forest.elements]
        cases hlisted : isListedHeading e with
        | false =>
            rw [Grove.elements_node_of_neg hlisted, List.filter_cons_of_neg (by simp [hlisted])]
            simp only [List.filterMap_append, List.filter_append, hb, hn]
        | true =>
            rw [Grove.elements_node_of_pos hlisted, List.filter_cons_of_pos hlisted]
            simp only [List.filterMap_cons, List.filterMap_append, List.filter_append, hb, hn, helement,
              Option.bind_some]
    | text s =>
        obtain rfl := hkind.2.resolve_left (by simp [NodeKind.holds])
        exact hn
    | comment s =>
        obtain rfl := hkind.2.resolve_left (by simp [NodeKind.holds])
        exact hn
    | doctype =>
        obtain rfl := hkind.2.resolve_left (by simp [NodeKind.holds])
        exact hn

theorem Stands.identifyHeadings_eq {r : NodeId} {g : Grove} (h : t.Stands r [] g [])
    (registry : Outline.SlugRegistry) :
    t.identifyHeadings r registry = ((g.elements isListedHeading).foldl Tree.anchorHeading
      (t, g.forest.headingIds.foldl Outline.GivenIds.hold (Outline.GivenIds.start registry))).1 := by
  simp only [Tree.identifyHeadings, h.elementsBelow, h.holds.filterMap_headings]

/-- The headings below a node get their ids and anchors. -/
theorem Stands.identifyHeadings {r : NodeId} {g : Grove} (h : t.Stands r [] g [])
    (registry : Outline.SlugRegistry) :
    ∃ g', t.Replaces (t.identifyHeadings r registry) r [] g g' [] ∧
      g'.forest = g.forest.identifyHeadings registry := by
  obtain ⟨g', hg, hforest⟩ := anchors_foldl g
    (t, g.forest.headingIds.foldl Outline.GivenIds.hold (Outline.GivenIds.start registry)) r [] [] h
  refine ⟨g', ?_, ?_⟩
  · rw [h.identifyHeadings_eq]
    exact hg
  · unfold Forest.identifyHeadings
    rw [hforest]

end Tree

end Folio.Html
