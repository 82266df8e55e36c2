import Folio.Proofs.PathSegments

/-! # Paths stay in normal form

`ContentPath.IsNormal` says what a text in normal form is, character by character.  The texts in normal
form are those of paths of clean names (`isNormal_iff`), and reading such a path gives its names back
(`ofString_text_ofSegments`); so they are the texts that reading leaves alone.  Reading gives a normal
form whatever it is given, so of the operations on paths only the one that cuts the text, taking the
parent, has to be looked at (`IsNormal.parent`).  Hence every path that is `Reached` by operations is in
normal form (`reached_isNormal`). -/

namespace Folio.ContentPath

/-! ### Normal forms -/

/-- A text in normal form: a slash at its start, no quotation mark, no slash at its end and nothing
between two slashes that is empty, `.` or `..`; the root is a single slash. -/
structure IsNormal (s : String) : Prop where
  starts : s.toList.head? = some '/'
  no_quote : '"' ∉ s.toList
  no_slash_at_end : s = "/" ∨ s.toList.getLast? ≠ some '/'
  segments : s = "/" ∨ ∀ segment ∈ Text.pieces isSlash (s.toList.drop 1),
    segment ≠ [] ∧ segment ≠ ['.'] ∧ segment ≠ ['.', '.']

instance (s : String) : Decidable (IsNormal s) :=
  decidable_of_iff (s.toList.head? = some '/' ∧ '"' ∉ s.toList ∧
      (s = "/" ∨ s.toList.getLast? ≠ some '/') ∧
      (s = "/" ∨ ∀ segment ∈ Text.pieces isSlash (s.toList.drop 1),
        segment ≠ [] ∧ segment ≠ ['.'] ∧ segment ≠ ['.', '.']))
    ⟨fun ⟨starts, no_quote, no_slash_at_end, segments⟩ =>
        ⟨starts, no_quote, no_slash_at_end, segments⟩,
      fun h => ⟨h.starts, h.no_quote, h.no_slash_at_end, h.segments⟩⟩

/-- With a slash before each of its pieces, a text is as it was behind one more slash. -/
theorem flatMap_pieces : ∀ cs : List Char, (Text.pieces isSlash cs).flatMap ('/' :: ·) = '/' :: cs
  | [] => rfl
  | c :: cs => by
      have ih := flatMap_pieces cs
      cases hc : isSlash c with
      | true =>
          obtain rfl : c = '/' := by simpa [isSlash] using hc
          rw [Text.pieces_cons_of_pos hc, List.flatMap_cons, ih]
          rfl
      | false =>
          obtain ⟨piece, rest, h⟩ := List.exists_cons_of_ne_nil (Text.pieces_ne_nil (p := isSlash) cs)
          rw [h, List.flatMap_cons] at ih
          rw [Text.pieces_cons_of_neg hc h, List.flatMap_cons]
          simpa using ih

variable {names : List String}

/-- Paths of clean names are in normal form. -/
theorem isNormal_text_ofSegments (h : ∀ n ∈ names, IsClean n.toList) :
    IsNormal (ofSegments names).text := by
  obtain rfl | ⟨front, last, rfl⟩ := names.eq_nil_or_concat
  · decide
  · rw [List.concat_eq_append] at h ⊢
    have hclean : ∀ s ∈ (front ++ [last]).map String.toList, IsClean s := List.forall_mem_map.mpr h
    have htext := toList_text_ofSegments (fun n hn => (h n hn).isName)
      (List.append_ne_nil_of_right_ne_nil front (List.cons_ne_nil last []))
    obtain ⟨cs, hcs⟩ : ∃ cs, ((front ++ [last]).map String.toList).flatMap ('/' :: ·) = '/' :: cs := by
      cases front <;> exact ⟨_, rfl⟩
    have hpieces := pieces_flatMap fun s hs => (hclean s hs).isName
    rw [hcs, Text.pieces_cons_of_pos (by decide), List.cons.injEq] at hpieces
    refine ⟨?_, ?_, .inr ?_, .inr ?_⟩
    · rw [htext, hcs, List.head?_cons]
    · rw [htext, List.mem_flatMap]
      rintro ⟨s, hs, hmem⟩
      exact (hclean s hs).no_quote ((List.mem_cons.mp hmem).resolve_left (by decide))
    · -- the text ends as its last name does
      have hlast := h last (by simp)
      rw [htext, List.map_append, List.flatMap_append]
      intro hslash
      have hend : last.toList.getLast? = some '/' := by
        simpa [List.getLast?_cons, List.getLast?_eq_some_getLast hlast.ne_nil] using hslash
      exact hlast.no_slash (List.mem_of_getLast? hend)
    · rw [htext, hcs, List.drop_one, List.tail_cons, hpieces.2]
      exact fun s hs => ⟨(hclean s hs).ne_nil, (hclean s hs).ne_dot, (hclean s hs).ne_dots⟩

/-- The texts in normal form are those of paths of clean names. -/
theorem isNormal_iff {s : String} :
    IsNormal s ↔ ∃ names : List String, (∀ n ∈ names, IsClean n.toList) ∧ s = (ofSegments names).text := by
  constructor
  · intro h
    obtain rfl | hsegments := h.segments
    · exact ⟨[], nofun, rfl⟩
    · obtain ⟨cs, hcs⟩ := List.head?_eq_some_iff.mp h.starts
      rw [hcs, List.drop_one, List.tail_cons] at hsegments
      have hclean : ∀ p ∈ Text.pieces isSlash cs, IsClean p := by
        intro p hp
        obtain ⟨hne, hdot, hdots⟩ := hsegments p hp
        refine ⟨hne, hdot, hdots, fun hslash => ?_, fun hquote => h.no_quote ?_⟩
        · exact absurd (Text.of_mem_pieces hp '/' hslash).2 (by decide)
        · rw [hcs]
          exact List.mem_cons_of_mem _ (Text.of_mem_pieces hp '"' hquote).1
      have hnames : ∀ n ∈ (Text.pieces isSlash cs).map String.ofList, IsClean n.toList :=
        List.forall_mem_map.mpr fun p hp => by
          rw [String.toList_ofList]
          exact hclean p hp
      refine ⟨(Text.pieces isSlash cs).map String.ofList, hnames, String.toList_inj.mp ?_⟩
      rw [toList_text_ofSegments (fun n hn => (hnames n hn).isName)
        (by simpa using Text.pieces_ne_nil cs), List.map_map]
      simpa [Function.comp_def, flatMap_pieces] using hcs
  · rintro ⟨names, hnames, rfl⟩
    exact isNormal_text_ofSegments hnames

/-! ### Reading -/

theorem isNormal_ofString (raw : String) : IsNormal (ofString raw).text := by
  rw [ofString_eq_ofSegments]
  exact isNormal_text_ofSegments fun _ => isClean_of_mem_cleanNames

/-- A path of clean names goes on from where a text in front of it leads. -/
theorem stackOf_append_text (x : List Char) (h : ∀ n ∈ names, IsClean n.toList) :
    stackOf (x ++ (ofSegments names).text.toList) = (names.map String.toList).reverse ++ stackOf x := by
  by_cases hnil : names = []
  · subst hnil
    exact stackOf_append_slash x []
  · rw [toList_text_ofSegments (fun n hn => (h n hn).isName) hnil,
      stackOf_append_flatMap _ x (List.forall_mem_map.mpr h)]

theorem stackOf_text_ofSegments (h : ∀ n ∈ names, IsClean n.toList) :
    stackOf (ofSegments names).text.toList = (names.map String.toList).reverse :=
  (stackOf_append_text [] h).trans (List.append_nil _)

/-- Reading the path of clean names gives these names back. -/
theorem ofString_text_ofSegments (h : ∀ n ∈ names, IsClean n.toList) :
    ofString (ofSegments names).text = ofSegments names := by
  by_cases hnil : names = []
  · subst hnil
    rfl
  · have hclean : ∀ s ∈ names.map String.toList, IsClean s := List.forall_mem_map.mpr h
    have hread : cleanNames (ofSegments names).text = names := by
      rw [cleanNames, toList_text_ofSegments (fun n hn => (h n hn).isName) hnil,
        stackOf_flatMap hclean, List.reverse_reverse, List.map_map]
      simp [Function.comp_def]
    rw [ofString_eq_ofSegments, hread]

/-- The texts in normal form are those that reading leaves alone. -/
theorem isNormal_iff_text_ofString (s : String) : IsNormal s ↔ (ofString s).text = s := by
  constructor
  · intro h
    obtain ⟨names, hnames, rfl⟩ := isNormal_iff.mp h
    rw [ofString_text_ofSegments hnames]
  · intro h
    rw [← h]
    exact isNormal_ofString s

/-! ### Operations -/

variable {p q r : ContentPath}

/-- Cutting the last name off leaves a path of clean names. -/
theorem IsNormal.parent (h : IsNormal p.text) : IsNormal p.parent.text := by
  obtain ⟨names, hnames, htext⟩ := isNormal_iff.mp h
  obtain rfl : p = ofSegments names := by
    cases p
    exact congrArg ContentPath.mk htext
  obtain rfl | ⟨front, last, rfl⟩ := names.eq_nil_or_concat
  · decide
  · rw [List.concat_eq_append] at hnames ⊢
    rw [parent_ofSegments_append fun n hn => (hnames n hn).isName]
    exact isNormal_text_ofSegments fun n hn => hnames n (List.mem_append_left _ hn)

theorem IsNormal.collapseIndex (h : IsNormal p.text) : IsNormal p.collapseIndex.text := by
  unfold ContentPath.collapseIndex
  split
  · split
    · exact h.parent
    · exact h
  · exact h

theorem isNormal_join (p : ContentPath) (reference : String) : IsNormal (p.join reference).text := by
  unfold join
  split <;> exact isNormal_ofString _

/-- A route is read anew before it is collapsed, whatever name is left without its extension. -/
theorem isNormal_route (p : ContentPath) : IsNormal p.route.text :=
  (isNormal_ofString (dropMarkdownExtension p.text)).collapseIndex

theorem IsNormal.below? (h : IsNormal p.text) (hr : p.below? q = some r) : IsNormal r.text := by
  unfold ContentPath.below? at hr
  split at hr
  · cases hr
  · split at hr
    · exact Option.some.inj hr ▸ h
    · obtain ⟨rest, -, rfl⟩ := Option.map_eq_some_iff.mp hr
      exact isNormal_ofString _

/-- The paths that operations lead to from raw paths. -/
inductive Reached : ContentPath → Prop
  | ofString (raw : String) : Reached (ofString raw)
  | join {p : ContentPath} (hp : Reached p) (reference : String) : Reached (p.join reference)
  | parent {p : ContentPath} (hp : Reached p) : Reached p.parent
  | remainder {p q r : ContentPath} (hp : Reached p) (hq : Reached q) (hr : p.below? q = some r) : Reached r
  | collapseIndex {p : ContentPath} (hp : Reached p) : Reached p.collapseIndex
  | route {p : ContentPath} (hp : Reached p) : Reached p.route

theorem Reached.isNormal (h : Reached p) : IsNormal p.text := by
  induction h with
  | ofString raw => exact isNormal_ofString raw
  | join _ reference => exact isNormal_join _ reference
  | parent _ ih => exact ih.parent
  | remainder _ _ hr ih _ => exact ih.below? hr
  | collapseIndex _ ih => exact ih.collapseIndex
  | route _ _ => exact isNormal_route _

/-- **Paths stay in normal form**: every path that operations lead to from a raw path is in normal form,
and a text is in normal form exactly if reading leaves it alone. -/
theorem reached_isNormal :
    (∀ p, Reached p → IsNormal p.text) ∧ ∀ s, IsNormal s ↔ (ofString s).text = s :=
  ⟨fun _ => Reached.isNormal, isNormal_iff_text_ofString⟩

/-- A source whose stem is a dot: what is left of its last segment is no segment. -/
theorem reached_isNormal_dotStem :
    Reached ((ofString "guides/\"..md").route.join "../a//b") ∧
      IsNormal ((ofString "guides/\"..md").route.join "../a//b").text ∧
      ((ofString "guides/\"..md").route.join "../a//b").text = "/a/b" ∧
      (ofString "/a/b").text = "/a/b" := by
  have hreached : Reached ((ofString "guides/\"..md").route.join "../a//b") :=
    ((Reached.ofString "guides/\"..md").route).join "../a//b"
  have htext : ((ofString "guides/\"..md").route.join "../a//b").text = "/a/b" := by decide +kernel
  have hnormal := reached_isNormal.1 _ hreached
  exact ⟨hreached, hnormal, htext, (reached_isNormal.2 "/a/b").mp (htext ▸ hnormal)⟩

end Folio.ContentPath
