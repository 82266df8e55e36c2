import Folio.Proofs.GroveOfTree
import Folio.Proofs.StructureTree

/-! # Nodes that are added

A pass that adds structure makes new nodes, whose places come after those of the nodes that were there.
Erasing them (`Grove.erase`), and of each element its id and its classes (`Element.bare`), leaves the grove
that the pass started from: so the pass keeps the nodes with their order, their nesting and whatever else
they hold.  Each pass is shown to do so by what it does at one node (`Grove.Keeps`).  What is erased equally
has the same nodes with the same below them (`Keeps.exists_part`), and those are the nodes of the tree
(`Stands.of_mem_parts`). -/

namespace Folio.Html

/-! ### Elements without ids and classes -/

/-- An element without its id and its classes. -/
def Element.bare (e : Element) : Element :=
  { e with attrs := e.attrs.filter fun a => a.name ≠ "class" && a.name ≠ "id" }

/-- A node without its id and its classes. -/
def NodeKind.bare : NodeKind → NodeKind := Tree.mapKind Element.bare

theorem Attr.filter_put {keep : Attr → Bool} {name : String} (h : ∀ value, keep ⟨name, value⟩ = false)
    (value : String) (attrs : List Attr) : (Attr.put name value attrs).filter keep = attrs.filter keep := by
  induction attrs with
  | nil => rw [put, List.filter_cons_of_neg (by simp [h])]
  | cons a rest ih =>
    rw [put]
    split
    · rename_i heq
      have ha : keep a = false := by
        subst heq
        exact h a.value
      rw [List.filter_cons_of_neg (by simp [h]), List.filter_cons_of_neg (by simp [ha])]
    · rw [List.filter_cons, List.filter_cons, ih]

namespace Element

theorem bare_setAttr (e : Element) {name : String} (h : name = "class" ∨ name = "id") (value : String) :
    (e.setAttr name value).bare = e.bare := by
  have hkeep : ∀ value : String,
      ((⟨name, value⟩ : Attr).name ≠ "class" && (⟨name, value⟩ : Attr).name ≠ "id") = false := fun _ => by
    rcases h with rfl | rfl <;> rfl
  exact congrArg (Element.mk e.space e.tag) (Attr.filter_put hkeep value e.attrs)

theorem bare_addClass (e : Element) (cls : String) : (e.addClass cls).bare = e.bare := by
  unfold addClass
  split
  · rfl
  · split
    · exact e.bare_setAttr (.inl rfl) _
    · exact e.bare_setAttr (.inl rfl) _

end Element

theorem bare_identified (e : Element) (id : String) : (identified e id).bare = e.bare := by
  unfold identified
  split
  · rfl
  · exact e.bare_setAttr (.inr rfl) id

theorem bare_markInternalLink (e : Element) : (markInternalLink e).bare = e.bare := by
  unfold markInternalLink
  split
  · exact e.bare_addClass _
  · rfl

theorem bare_classifyList (e : Element) (children : Forest) : (classifyList e children).bare = e.bare := by
  unfold classifyList classifyListItem
  dsimp only
  split
  · exact e.bare_addClass _
  · split
    · exact e.bare_addClass _
    · split
      · split
        · rw [Element.bare_addClass, Element.bare_addClass]
        · exact e.bare_addClass _
      · rfl

/-- What nodes are that add structure: wrappers, and anchors with their text. -/
inductive NodeKind.IsAdded : NodeKind → Prop
  | hash : IsAdded (.text "#")
  | anchor (id : String) {e : Element} (h : e.bare = (anchorElement id).bare) : IsAdded (.element e)
  | heading {e : Element} (h : e.bare = headingWrapper.bare) : IsAdded (.element e)
  | block (cls : String) {e : Element} (h : e.bare = (blockWrapper cls).bare) : IsAdded (.element e)

theorem NodeKind.IsAdded.of_bare {e e' : Element} (h : IsAdded (.element e)) (hbare : e'.bare = e.bare) :
    IsAdded (.element e') := by
  cases h with
  | anchor id h => exact .anchor id (hbare.trans h)
  | heading h => exact .heading (hbare.trans h)
  | block cls h => exact .block cls (hbare.trans h)

/-! ### Erasing -/

namespace Grove

variable {n : NodeId} {f f' g g' : Grove}

/-- A grove without the nodes from the place `n` on, what is below them in their places, and without ids and
classes. -/
def erase (n : NodeId) : Grove → Grove
  | nil => nil
  | node id kind below next =>
    if id < n then node id kind.bare (below.erase n) (next.erase n) else below.erase n ++ next.erase n

/-- The nodes from the place `n` on are wrappers and anchors. -/
def Added (n : NodeId) : Grove → Prop
  | nil => True
  | node id kind below next => (n ≤ id → kind.IsAdded) ∧ below.Added n ∧ next.Added n

/-- The grove `g'` has the nodes of `g` before the place `n` as they were, and after it added ones only. -/
structure Keeps (n : NodeId) (g g' : Grove) : Prop where
  erase : g'.erase n = g.erase n
  added : g.Added n → g'.Added n

theorem Keeps.refl (n : NodeId) (g : Grove) : Keeps n g g := ⟨rfl, id⟩

theorem Keeps.trans {g₁ : Grove} (h : Keeps n g g₁) (h' : Keeps n g₁ g') : Keeps n g g' :=
  ⟨h'.erase.trans h.erase, fun ha => h'.added (h.added ha)⟩

theorem erase_append : ∀ f g : Grove, (f ++ g).erase n = f.erase n ++ g.erase n
  | nil, _ => rfl
  | node id kind below next, g => by
    rw [node_append, erase, erase, erase_append next g]
    split
    · rfl
    · rw [append_assoc]

theorem added_append : ∀ {f g : Grove}, (f ++ g).Added n ↔ f.Added n ∧ g.Added n
  | nil, _ => (iff_of_eq (true_and _)).symm
  | node id kind below next, g => by
    rw [node_append, Added, Added, added_append (f := next), and_assoc, and_assoc]

theorem Keeps.append (hf : Keeps n f f') (hg : Keeps n g g') : Keeps n (f ++ g) (f' ++ g') := by
  refine ⟨?_, fun h => ?_⟩
  · rw [erase_append, erase_append, hf.erase, hg.erase]
  · obtain ⟨hfa, hga⟩ := added_append.mp h
    exact added_append.mpr ⟨hf.added hfa, hg.added hga⟩

/-- An element that is the same but for id and classes, around a grove that is kept. -/
theorem Keeps.single {e e' : Element} {below below' : Grove} (id : NodeId) (he : e'.bare = e.bare)
    (h : Keeps n below below') :
    Keeps n (.single id (.element e) below) (.single id (.element e') below') := by
  have hkind : (NodeKind.element e').bare = (NodeKind.element e).bare := congrArg NodeKind.element he
  refine ⟨?_, fun ⟨hself, hbelow, _⟩ =>
    ⟨fun hid => (hself hid).of_bare he, h.added hbelow, trivial⟩⟩
  change ite _ _ _ = ite _ _ _
  rw [h.erase, hkind]

/-- A new element around a grove that is kept. -/
theorem Keeps.wrap {kind : NodeKind} (hkind : kind.IsAdded) {wrapper : NodeId} (hw : n ≤ wrapper)
    (h : Keeps n g g') : Keeps n g (.single wrapper kind g') := by
  refine ⟨?_, fun hg => ⟨fun _ => hkind, h.added hg, trivial⟩⟩
  refine (if_neg (Nat.not_lt.mpr hw)).trans ?_
  rw [h.erase, Grove.erase, append_nil]

theorem ids_erase : ∀ g : Grove, (g.erase n).ids = g.ids.filter (· < n)
  | nil => rfl
  | node id kind below next => by
    rw [erase, ids, List.filter_cons, List.filter_append, ← ids_erase below, ← ids_erase next]
    by_cases h : id < n
    · rw [if_pos h, if_pos (by simpa using h), ids]
    · rw [if_neg h, if_neg (by simpa using h), ids_append]

theorem Keeps.anchor {a : NodeId} (ha : n ≤ a) (id : String) : Keeps n .nil (.anchor a id) := by
  have ha' : n ≤ a + 1 := Nat.le_trans ha (Nat.le_succ a)
  have htext : Keeps n .nil (.single (a + 1) (.text "#") .nil) := .wrap .hash ha' (.refl n .nil)
  exact htext.wrap (.anchor id rfl) ha

theorem Keeps.anchored {e : Element} {below inner : Grove} {wrapper : NodeId} (id : NodeId) (hw : n ≤ wrapper)
    (given : String) (h : Keeps n below inner) :
    Keeps n (.single id (.element e) below) (.anchored id wrapper e given inner) := by
  have hanchor := Keeps.anchor (Nat.le_trans hw (Nat.le_succ wrapper)) given
  have hinner : Keeps n (below ++ .nil) (inner ++ .anchor (wrapper + 1) given) := h.append hanchor
  rw [append_nil] at hinner
  exact .single id (bare_identified e given) (hinner.wrap (.heading rfl) hw)

/-- Changes of ids and classes keep every node. -/
theorem keeps_mapElements {change : Element → Forest → Element}
    (h : ∀ e children, (change e children).bare = e.bare) : ∀ g : Grove, Keeps n g (g.mapElements change)
  | nil => .refl n nil
  | node id kind below next => by
    have hnext := keeps_mapElements h next
    cases kind with
    | element e => exact (Keeps.single id (h e below.forest) (keeps_mapElements h below)).append hnext
    | document => exact (Keeps.refl n (.single id .document below)).append hnext
    | text s => exact (Keeps.refl n (.single id (.text s) below)).append hnext
    | comment s => exact (Keeps.refl n (.single id (.comment s) below)).append hnext
    | doctype => exact (Keeps.refl n (.single id .doctype below)).append hnext

/-! ### Nodes with what is below them -/

/-- The nodes in document order, each with its place, its kind and what is below it. -/
def parts : Grove → List (NodeId × NodeKind × Grove)
  | nil => []
  | node id kind below next => (id, kind, below) :: (below.parts ++ next.parts)

theorem parts_append : ∀ f g : Grove, (f ++ g).parts = f.parts ++ g.parts
  | nil, _ => rfl
  | node id kind below next, g => by
    rw [node_append, parts, parts, parts_append next, List.cons_append, List.append_assoc]

theorem map_fst_parts : ∀ g : Grove, g.parts.map Prod.fst = g.ids
  | nil => rfl
  | node id kind below next => by
    rw [parts, ids, List.map_cons, List.map_append, map_fst_parts below, map_fst_parts next]

theorem exists_part_of_mem_ids {id : NodeId} (h : id ∈ g.ids) :
    ∃ kind below, (id, kind, below) ∈ g.parts := by
  rw [← map_fst_parts] at h
  obtain ⟨⟨id, kind, below⟩, hmem, rfl⟩ := List.mem_map.mp h
  exact ⟨kind, below, hmem⟩

theorem mem_ids_of_mem_parts {part : NodeId × NodeKind × Grove} (h : part ∈ g.parts) : part.1 ∈ g.ids :=
  map_fst_parts g ▸ List.mem_map_of_mem h

theorem parts_erase : ∀ g : Grove, (g.erase n).parts =
    (g.parts.filter (·.1 < n)).map fun part => (part.1, part.2.1.bare, part.2.2.erase n)
  | nil => rfl
  | node id kind below next => by
    have hb := parts_erase below
    have hn := parts_erase next
    rw [erase, parts]
    by_cases h : id < n
    · rw [if_pos h, List.filter_cons_of_pos (by simpa using h), List.filter_append, List.map_cons,
        List.map_append, parts, hb, hn]
    · rw [if_neg h, List.filter_cons_of_neg (by simpa using h), List.filter_append, List.map_append,
        parts_append, hb, hn]

theorem mem_parts_erase {id : NodeId} {kind : NodeKind} {below : Grove} :
    (id, kind, below) ∈ (g.erase n).parts ↔ id < n ∧ ∃ kind' below', (id, kind', below') ∈ g.parts ∧
      kind'.bare = kind ∧ below'.erase n = below := by
  rw [parts_erase, List.mem_map]
  constructor
  · rintro ⟨⟨id', kind', below'⟩, hmem, heq⟩
    simp only [Prod.mk.injEq] at heq
    obtain ⟨rfl, hkind, hbelow⟩ := heq
    exact ⟨of_decide_eq_true (List.mem_filter.mp hmem).2, kind', below', (List.mem_filter.mp hmem).1, hkind,
      hbelow⟩
  · rintro ⟨hid, kind', below', hmem, rfl, rfl⟩
    exact ⟨_, List.mem_filter.mpr ⟨hmem, decide_eq_true (p := id < n) hid⟩, rfl⟩

theorem Added.of_mem_parts {id : NodeId} {kind : NodeKind} {below : Grove} : ∀ {g : Grove}, g.Added n →
    (id, kind, below) ∈ g.parts → n ≤ id → kind.IsAdded
  | node _ _ _ _, ⟨hself, hbelow, hnext⟩, hmem, hid => by
    rcases List.mem_cons.mp hmem with heq | hmem
    · cases heq
      exact hself hid
    · rcases List.mem_append.mp hmem with hmem | hmem
      · exact hbelow.of_mem_parts hmem hid
      · exact hnext.of_mem_parts hmem hid

theorem added_of_forall_lt : ∀ {g : Grove}, (∀ id ∈ g.ids, id < n) → g.Added n
  | nil, _ => trivial
  | node id _ _ _, h =>
    ⟨fun hid => absurd (h id List.mem_cons_self) (Nat.not_lt.mpr hid),
      added_of_forall_lt fun i hi => h i (List.mem_cons_of_mem _ (List.mem_append_left _ hi)),
      added_of_forall_lt fun i hi => h i (List.mem_cons_of_mem _ (List.mem_append_right _ hi))⟩

/-- A node of a grove that is kept is still there, with what was below it. -/
theorem Keeps.exists_part (h : Keeps n g g') {id : NodeId} {kind : NodeKind} {below : Grove} (hid : id < n)
    (hmem : (id, kind, below) ∈ g.parts) :
    ∃ kind' below', (id, kind', below') ∈ g'.parts ∧ kind'.bare = kind.bare ∧
      below'.erase n = below.erase n := by
  have hkept := mem_parts_erase.mpr ⟨hid, kind, below, hmem, rfl, rfl⟩
  rw [← h.erase] at hkept
  exact (mem_parts_erase.mp hkept).2

end Grove

namespace Tree

variable {t : Tree} {p r : NodeId} {pre post : List NodeId} {g : Grove}

theorem Stands.of_mem_parts {id : NodeId} {kind : NodeKind} {below : Grove} :
    ∀ {p : NodeId} {pre post : List NodeId} {g : Grove}, t.Stands p pre g post →
      (id, kind, below) ∈ g.parts → t.Stands id [] below [] ∧ (t.cell id).kind = kind
  | _, _, _, .node _ _ _ _, h, hmem => by
    rcases List.mem_cons.mp hmem with heq | hmem
    · cases heq
      exact ⟨h.inside, congrArg Cell.kind h.cell⟩
    · rcases List.mem_append.mp hmem with hmem | hmem
      · exact h.inside.of_mem_parts hmem
      · exact Stands.of_mem_parts (Stands.right (f := .single _ _ _) h) hmem

/-! ### The passes -/

/-- The pass over the headings keeps the nodes that the tree had before it. -/
theorem passes_keeps_anchors (g : Grove) (s : Tree × Outline.GivenIds) (p : NodeId)
    (pre post : List NodeId) (h : s.1.Stands p pre g post) :
    Passes Prod.fst anchorHeading isListedHeading (fun s _ g g' _ => ∀ n ≤ s.1.cells.size, g.Keeps n g')
      s p pre g post := by
  refine passes_anchors (fun s g g' _ => ∀ n ≤ s.1.cells.size, g.Keeps n g')
    (fun _ n _ => .refl n .nil) (fun _ _ _ _ n _ => .refl n _) ?_ ?_ ?_ g s p pre post h
  · exact fun hf hfirst hrest n hn => (hfirst n hn).append (hrest n (Nat.le_trans hn hf.size_le))
  · exact fun _ _ hbelow n hn => .single _ rfl (hbelow n hn)
  · intro s s' p pre post id e below g' h _ hbelow n hn
    exact .anchored id hn _ (hbelow n (Nat.le_trans hn (h.anchorHeading s.2).size_le))

/-- The pass over the blocks keeps the nodes that the tree had before it. -/
theorem passes_keeps_frames {tag cls : String} (g : Grove) (t : Tree) (p : NodeId)
    (pre post : List NodeId) (h : t.Stands p pre g post) :
    Passes (fun t => t) (frameBlock cls) (·.tag == tag)
      (fun t _ g g' _ => ∀ n ≤ t.cells.size, g.Keeps n g') t p pre g post := by
  refine passes_frames (fun t _ g g' => ∀ n ≤ t.cells.size, g.Keeps n g')
    (fun _ _ n _ => .refl n .nil) (fun _ _ _ _ _ n _ => .refl n _) ?_ ?_ ?_ g t p pre post h
  · exact fun hf hfirst hrest n hn => (hfirst n hn).append (hrest n (Nat.le_trans hn hf.size_le))
  · exact fun _ _ hbelow n hn => .single _ rfl (hbelow n hn)
  · intro t p pre post id e below g' h _ _ hbelow n hn
    exact (Grove.Keeps.single id rfl (hbelow n (Nat.le_trans hn (h.wrap _).size_le))).wrap
      (.block cls rfl) hn

theorem Stands.keeps_frameBlocks (h : t.Stands r [] g []) (tag cls : String) :
    ∃ g', t.Replaces (t.frameBlocks r tag cls) r [] g g' [] ∧ ∀ n ≤ t.cells.size, g.Keeps n g' := by
  unfold Tree.frameBlocks
  rw [h.elementsBelow]
  exact passes_keeps_frames g t r [] [] h

/-- Adding the structure of a page adds nodes only. -/
theorem Stands.keeps_withStructure (h : t.Stands r [] g []) (registry : Outline.SlugRegistry) :
    ∃ g', t.Replaces (t.withStructure r registry) r [] g g' [] ∧ g.Keeps t.cells.size g' := by
  obtain ⟨g₁, h₁, hkept₁⟩ := passes_keeps_anchors g
    (t, g.forest.headingIds.foldl Outline.GivenIds.hold (Outline.GivenIds.start registry)) r [] [] h
  have hheadings : t.Replaces (t.identifyHeadings r registry) r [] g g₁ [] := by
    rw [h.identifyHeadings_eq]
    exact h₁
  have hlinks := hheadings.stands.markInternalLinks
  have hlists := hlinks.stands.classifyLists
  obtain ⟨g₄, hcode, hkept₄⟩ := hlists.stands.keeps_frameBlocks "pre" "code-block"
  obtain ⟨g₅, htables, hkept₅⟩ := hcode.stands.keeps_frameBlocks "table" "table-wrapper"
  have hbefore := (hheadings.trans hlinks).trans hlists
  refine ⟨g₅, (hbefore.trans hcode).trans htables, ?_⟩
  have hlinkskept : g₁.Keeps t.cells.size (g₁.mapElements fun e _ => markInternalLink e) :=
    Grove.keeps_mapElements (fun e _ => bare_markInternalLink e) g₁
  have hkept := ((hkept₁ _ (Nat.le_refl _)).trans hlinkskept).trans
    (Grove.keeps_mapElements bare_classifyList _)
  exact (hkept.trans (hkept₄ _ hbefore.size_le)).trans (hkept₅ _ (hbefore.trans hcode).size_le)

end Tree

end Folio.Html
