import Folio.Proofs.JoinedPaths

/-! # Paths below one another

A test for a prefix looks at characters and what remains is cut out of the text, but a path in normal form
is the path of its segments (`IsNormal.eq_ofSegments`).  So of two such paths one is or lies below the other
if its segments go on from those of the other (`startsWith_iff_segments`); what remains then are the other
segments (`below?_ofSegments_append`), and joined to the directory it gives the path back
(`join_relative`).  The directory of a path has its segments but for the last (`parent_eq_ofSegments`). -/

namespace Folio.ContentPath

variable {p q r : ContentPath} {a b : List String}

/-! ### Normal forms by their segments -/

theorem IsNormal.ofString_text (h : IsNormal p.text) : ofString p.text = p :=
  congrArg ContentPath.mk ((isNormal_iff_text_ofString p.text).mp h)

theorem IsNormal.isClean_of_mem_segments (h : IsNormal p.text) : ∀ s ∈ p.segments, IsClean s.toList := by
  intro s hs
  rw [← h.ofString_text, segments_ofString] at hs
  exact isClean_of_mem_cleanNames hs

/-- A path in normal form is the path of its segments. -/
theorem IsNormal.eq_ofSegments (h : IsNormal p.text) : p = ofSegments p.segments := by
  rw [← h.ofString_text, segments_ofString]
  exact ofString_eq_ofSegments p.text

theorem startsWith_iff_segments (hp : IsNormal p.text) (hq : IsNormal q.text) :
    p.startsWith q = true ↔ q.segments <+: p.segments := by
  conv_lhs => rw [hp.eq_ofSegments, hq.eq_ofSegments]
  exact startsWith_ofSegments_iff (fun s hs => (hq.isClean_of_mem_segments s hs).isName)
    fun s hs => (hp.isClean_of_mem_segments s hs).isName

/-! ### What remains below a prefix -/

/-- Clean segments, a slash before each of them, are read as they are. -/
theorem ofString_flatMap (h : ∀ s ∈ b, IsClean s.toList) :
    ofString (String.ofList ((b.map String.toList).flatMap ('/' :: ·))) = ofSegments b := by
  rw [ofString_eq_ofSegments, cleanNames, String.toList_ofList, stackOf_flatMap (List.forall_mem_map.mpr h),
    List.reverse_reverse, List.map_map]
  simp [Function.comp_def]

theorem below?_ofSegments_append (ha : ∀ s ∈ a, IsClean s.toList) (hb : ∀ s ∈ b, IsClean s.toList) :
    (ofSegments (a ++ b)).below? (ofSegments a) = some (ofSegments b) := by
  have hanames : ∀ s ∈ a, IsName s.toList := fun s hs => (ha s hs).isName
  have hnames : ∀ s ∈ a ++ b, IsName s.toList := fun s hs =>
    (List.mem_append.mp hs).elim (hanames s) fun hs => (hb s hs).isName
  have hstarts := (startsWith_ofSegments_iff hanames hnames).mpr (List.prefix_append a b)
  rw [below?, hstarts, Bool.not_true, if_neg Bool.false_ne_true]
  by_cases hroot : a = []
  · rw [if_pos ((isRoot_ofSegments hanames).mpr hroot), hroot, List.nil_append]
  · rw [if_neg fun h => hroot ((isRoot_ofSegments hanames).mp h), toList_text_ofSegments hanames hroot,
      toList_text_ofSegments hnames (by simp [hroot]), List.map_append, List.flatMap_append,
      dropPrefix?_eq_some_iff.mpr rfl, Option.map_some, ofString_flatMap hb]

/-- Where the segments of a path go on from those of another, something remains below the other. -/
theorem exists_below? (hp : IsNormal p.text) (hq : IsNormal q.text) (h : q.segments <+: p.segments) :
    ∃ r, p.below? q = some r ∧ IsNormal r.text ∧ q.segments ++ r.segments = p.segments := by
  obtain ⟨rest, hrest⟩ := h
  have hclean : ∀ s ∈ rest, IsClean s.toList := fun s hs =>
    hp.isClean_of_mem_segments s (hrest ▸ List.mem_append_right _ hs)
  have hbelow := below?_ofSegments_append hq.isClean_of_mem_segments hclean
  rw [hrest, ← hp.eq_ofSegments, ← hq.eq_ofSegments] at hbelow
  refine ⟨ofSegments rest, hbelow, isNormal_text_ofSegments hclean, ?_⟩
  rw [segments_ofSegments fun s hs => (hclean s hs).isName, hrest]

theorem startsWith_of_below?_eq_some (h : p.below? q = some r) : p.startsWith q = true := by
  by_contra hnot
  rw [below?, if_pos (by simpa using hnot)] at h
  cases h

theorem isSome_below?_iff (hp : IsNormal p.text) (hq : IsNormal q.text) :
    (p.below? q).isSome = true ↔ q.segments <+: p.segments := by
  rw [Option.isSome_iff_exists]
  constructor
  · rintro ⟨r, hr⟩
    exact (startsWith_iff_segments hp hq).mp (startsWith_of_below?_eq_some hr)
  · intro h
    obtain ⟨r, hr, -⟩ := exists_below? hp hq h
    exact ⟨r, hr⟩

/-- What remains below another path has the segments left over. -/
theorem isNormal_and_segments_of_below? (hp : IsNormal p.text) (hq : IsNormal q.text)
    (h : p.below? q = some r) : IsNormal r.text ∧ q.segments ++ r.segments = p.segments := by
  obtain ⟨r', hr', hnormal⟩ :=
    exists_below? hp hq ((startsWith_iff_segments hp hq).mp (startsWith_of_below?_eq_some h))
  obtain rfl : r' = r := Option.some.inj (hr'.symm.trans h)
  exact hnormal

/-! ### Joining what remains -/

/-- Only the slash at the start of a path in normal form is not in its relative text. -/
theorem IsNormal.toList_text (h : IsNormal p.text) : p.text.toList = '/' :: p.relative.toList := by
  obtain ⟨cs, hcs⟩ := List.head?_eq_some_iff.mp h.starts
  rw [relative, String.toList_ofList, hcs]
  rfl

theorem IsNormal.head?_relative (h : IsNormal p.text) : p.relative.toList.head? ≠ some '/' := by
  intro hslash
  obtain ⟨cs, hcs⟩ := List.head?_eq_some_iff.mp hslash
  obtain hroot | hsegments := h.segments
  · have htext := h.toList_text
    rw [hcs, hroot] at htext
    cases htext
  · -- a second slash would have an empty segment before it
    rw [h.toList_text, hcs, List.drop_one, List.tail_cons, Text.pieces_cons_of_pos (by decide)] at hsegments
    exact (hsegments [] List.mem_cons_self).1 rfl

/-- A path in normal form, without its slash, is joined to another by its segments. -/
theorem join_relative (hq : IsNormal q.text) (hr : IsNormal r.text) :
    q.join r.relative = ofSegments (q.segments ++ r.segments) := by
  have htext : (q.text ++ "/" ++ r.relative).toList = q.text.toList ++ r.text.toList := by
    rw [toList_append_slash, hr.toList_text]
  have hstack : stackOf (q.text ++ "/" ++ r.relative).toList =
      ((q.segments ++ r.segments).map String.toList).reverse := by
    rw [htext]
    conv_lhs => rw [hq.eq_ofSegments, hr.eq_ofSegments]
    rw [stackOf_append_text _ hr.isClean_of_mem_segments, stackOf_text_ofSegments hq.isClean_of_mem_segments,
      List.map_append, List.reverse_append]
  rw [join_of_head?_ne_slash q hr.head?_relative, ofString_eq_ofSegments, cleanNames, hstack,
    List.reverse_reverse, List.map_map]
  simp [Function.comp_def]

/-! ### The directory -/

theorem parent_eq_ofSegments (hp : IsNormal p.text) : p.parent = ofSegments p.segments.dropLast := by
  have hnames : ∀ s ∈ p.segments, IsName s.toList := fun s hs => (hp.isClean_of_mem_segments s hs).isName
  conv_lhs => rw [hp.eq_ofSegments]
  obtain hroot | ⟨front, last, hsegments⟩ := p.segments.eq_nil_or_concat
  · rw [hroot]
    decide
  · rw [List.concat_eq_append] at hsegments
    rw [hsegments] at hnames ⊢
    rw [parent_ofSegments_append hnames, List.dropLast_concat]

theorem segments_parent (hp : IsNormal p.text) : p.parent.segments = p.segments.dropLast := by
  rw [parent_eq_ofSegments hp, segments_ofSegments]
  exact fun s hs => (hp.isClean_of_mem_segments s (List.dropLast_subset _ hs)).isName

/-- **Prefixes go segment by segment**: of two paths in normal form one is or lies below the other exactly if
its segments go on from those of the other; exactly then something remains below the other, which has the
segments left over and gives the path back when it is joined to the other; and the directory of a path is
the path of its segments without the last. -/
theorem segmentwise (hp : IsNormal p.text) (hq : IsNormal q.text) :
    (p.startsWith q = true ↔ q.segments <+: p.segments) ∧
      ((p.below? q).isSome = true ↔ q.segments <+: p.segments) ∧
      (∀ r, p.below? q = some r → q.segments ++ r.segments = p.segments ∧ q.join r.relative = p) ∧
      p.parent = ofSegments p.segments.dropLast ∧ p.parent.segments = p.segments.dropLast := by
  refine ⟨startsWith_iff_segments hp hq, isSome_below?_iff hp hq, fun r hr => ?_,
    parent_eq_ofSegments hp, segments_parent hp⟩
  obtain ⟨hnormal, hsegments⟩ := isNormal_and_segments_of_below? hp hq hr
  refine ⟨hsegments, ?_⟩
  rw [join_relative hq hnormal, hsegments, ← hp.eq_ofSegments]

/-- A path is below its directory, but not below a name that its own name extends. -/
theorem segmentwise_guides :
    IsNormal (ofString "/docs/guides").text ∧ IsNormal (ofString "/docs").text ∧
      IsNormal (ofString "/docs/guide").text ∧
      (ofString "/docs/guides").startsWith (ofString "/docs/guide") = false ∧
      (ofString "/docs/guides").below? (ofString "/docs/guide") = none ∧
      ((ofString "/docs/guides").below? (ofString "/docs")).isSome = true ∧
      (ofString "/docs/guides").parent = ofSegments ["docs"] := by
  have hp : IsNormal (ofString "/docs/guides").text := isNormal_ofString _
  have hq : IsNormal (ofString "/docs").text := isNormal_ofString _
  have hq' : IsNormal (ofString "/docs/guide").text := isNormal_ofString _
  have hsegments : (ofString "/docs/guides").segments = ["docs", "guides"] := by decide +kernel
  have hnot : ¬(ofString "/docs/guide").segments <+: (ofString "/docs/guides").segments := by decide +kernel
  obtain ⟨-, hbelow, -, hparent, -⟩ := segmentwise hp hq
  obtain ⟨hstarts', hbelow', -⟩ := segmentwise hp hq'
  refine ⟨hp, hq, hq', ?_, ?_, hbelow.mpr (by decide +kernel), ?_⟩
  · rw [← Bool.not_eq_true, hstarts']
    exact hnot
  · rw [← Option.not_isSome_iff_eq_none, hbelow']
    exact hnot
  · rw [hparent, hsegments]
    rfl

end Folio.ContentPath
