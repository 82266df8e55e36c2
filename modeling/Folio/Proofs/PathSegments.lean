import Mathlib.Data.List.Induction
import Folio.Proofs.NormalForm

/-! # Paths and their segments

A path that is made of names, texts without a slash that are not empty, has these names as its segments
(`segments_ofSegments`), also where the names are not clean.  So paths of names are compared and
cut as lists of names: `startsWith_ofSegments_iff`, `parent_ofSegments_append`. -/

namespace Folio

namespace ContentPath

/-- A text that can be one segment of a path. -/
structure IsName (s : List Char) : Prop where
  ne_nil : s ≠ []
  no_slash : '/' ∉ s

theorem IsClean.isName {s : List Char} (h : IsClean s) : IsName s := ⟨h.ne_nil, h.no_slash⟩

section Names

variable {segs : List (List Char)}

theorem pieces_name {s : List Char} (h : IsName s) : Text.pieces isSlash s = [s] :=
  Text.pieces_of_forall_not fun c hc => (isSlash_eq_false_iff c).mpr fun e => h.no_slash (e ▸ hc)

/-- Between the slashes of a written path stand its names. -/
theorem pieces_flatMap (h : ∀ s ∈ segs, IsName s) :
    Text.pieces isSlash (segs.flatMap ('/' :: ·)) = [] :: segs := by
  induction segs using List.reverseRecOn with
  | nil => rfl
  | append_singleton segs s ih =>
    have hs : IsName s := h s (by simp)
    have hsegs : ∀ t ∈ segs, IsName t := fun t ht => h t (List.mem_append_left _ ht)
    have e : (segs ++ [s]).flatMap ('/' :: ·) = segs.flatMap ('/' :: ·) ++ '/' :: s := by simp
    rw [e, Text.pieces_append (by decide), ih hsegs, pieces_name hs]
    rfl

theorem filter_names (h : ∀ s ∈ segs, IsName s) : segs.filter (· ≠ []) = segs :=
  List.filter_eq_self.mpr fun s hs => decide_eq_true (h s hs).ne_nil

theorem render_names (h : ∀ s ∈ segs, IsName s) (hne : segs ≠ []) :
    render segs = segs.flatMap ('/' :: ·) := by
  rw [render, filter_names h]
  cases segs with
  | nil => exact absurd rfl hne
  | cons s segs => rfl

theorem pieces_render (h : ∀ s ∈ segs, IsName s) :
    (Text.pieces isSlash (render segs)).filter (· ≠ []) = segs := by
  by_cases hne : segs = []
  · subst hne
    rfl
  · rw [render_names h hne, pieces_flatMap h, List.filter_cons_of_neg (by simp), filter_names h]

end Names

/-! ### Paths of names -/

variable {a b : List String}

/-- The path with the names of a list as its segments has these segments. -/
theorem segments_ofSegments (h : ∀ s ∈ a, IsName s.toList) : (ofSegments a).segments = a := by
  rw [segments, segmentChars, ofSegments, String.toList_ofList, pieces_render (List.forall_mem_map.mpr h),
    List.map_map]
  simp [Function.comp_def]

theorem ofSegments_inj (ha : ∀ s ∈ a, IsName s.toList) (hb : ∀ s ∈ b, IsName s.toList) :
    ofSegments a = ofSegments b ↔ a = b := by
  refine ⟨fun h => ?_, fun h => h ▸ rfl⟩
  rw [← segments_ofSegments ha, h, segments_ofSegments hb]

/-- The text of a path of names, a slash before each of them. -/
theorem toList_text_ofSegments (h : ∀ s ∈ a, IsName s.toList) (hne : a ≠ []) :
    (ofSegments a).text.toList = (a.map String.toList).flatMap ('/' :: ·) := by
  rw [ofSegments, String.toList_ofList,
    render_names (List.forall_mem_map.mpr h) (by simpa using hne)]

theorem ofSegments_nil : ofSegments [] = root := rfl

theorem isRoot_ofSegments (h : ∀ s ∈ a, IsName s.toList) : (ofSegments a).isRoot = true ↔ a = [] := by
  have hroot : (ofSegments a).isRoot = true ↔ ofSegments a = ofSegments [] := by
    rw [ofSegments_nil, isRoot, beq_iff_eq]
    exact ⟨fun h => congrArg ContentPath.mk h, fun h => congrArg text h⟩
  rw [hroot, ofSegments_inj h (by simp)]

/-- The segments of a path in normal form. -/
def cleanNames (raw : String) : List String := (stackOf raw.toList).reverse.map String.ofList

theorem isClean_of_mem_cleanNames {raw name : String} (h : name ∈ cleanNames raw) :
    IsClean name.toList := by
  obtain ⟨s, hs, rfl⟩ := List.mem_map.mp h
  rw [String.toList_ofList]
  exact isClean_of_mem_stackOf _ s (List.mem_reverse.mp hs)

theorem ofString_eq_ofSegments (raw : String) : ofString raw = ofSegments (cleanNames raw) := by
  rw [ofSegments, cleanNames, List.map_map, ofString, cleanSegments_eq]
  simp [Function.comp_def]

theorem segments_ofString (raw : String) : (ofString raw).segments = cleanNames raw := by
  rw [ofString_eq_ofSegments, segments_ofSegments fun _ h => (isClean_of_mem_cleanNames h).isName]

/-! ### Prefixes -/

theorem dropPrefix?_eq_some_iff {p cs rest : List Char} :
    Text.dropPrefix? p cs = some rest ↔ cs = p ++ rest := by
  induction p generalizing cs with
  | nil => simp [Text.dropPrefix?, eq_comm]
  | cons c p ih =>
    cases cs with
    | nil => simp [Text.dropPrefix?]
    | cons d cs =>
      rw [Text.dropPrefix?]
      by_cases h : c = d
      · simp [h, ih]
      · simp [h, Ne.symm h]

/-- Of two paths of names, one is or lies below the other if its names go on from those of the other. -/
theorem startsWith_ofSegments_iff (ha : ∀ s ∈ a, IsName s.toList) (hb : ∀ s ∈ b, IsName s.toList) :
    (ofSegments b).startsWith (ofSegments a) = true ↔ a <+: b := by
  by_cases hroot : a = []
  · subst hroot
    simp [startsWith, isRoot, ofSegments_nil, root]
  · have hne : (ofSegments a).isRoot = false := by
      rw [← Bool.not_eq_true, isRoot_ofSegments ha]
      exact hroot
    rw [startsWith, hne, Bool.false_or, toList_text_ofSegments ha hroot]
    constructor
    · intro h
      split at h
      · cases h
      · rename_i rest hrest
        rw [dropPrefix?_eq_some_iff] at hrest
        have hbne : b ≠ [] := by
          rintro rfl
          obtain ⟨s, a, rfl⟩ := List.exists_cons_of_ne_nil hroot
          have hs := (ha s List.mem_cons_self).ne_nil
          rw [ofSegments_nil, root] at hrest
          simp [hs] at hrest
        rw [toList_text_ofSegments hb hbne] at hrest
        -- the names are the pieces, and a slash or the end follows the shorter path
        have hpieces := pieces_flatMap (List.forall_mem_map.mpr hb)
        rw [hrest] at hpieces
        have hend : rest = [] ∨ ∃ more, rest = '/' :: more := by
          cases rest with
          | nil => exact .inl rfl
          | cons c more => exact .inr ⟨more, by simpa using h⟩
        rcases hend with rfl | ⟨more, rfl⟩
        · rw [List.append_nil, pieces_flatMap (List.forall_mem_map.mpr ha), List.cons.injEq] at hpieces
          have hab : a = b := (List.map_inj_right fun _ _ => String.toList_inj.mp).mp hpieces.2
          exact hab ▸ List.prefix_rfl
        · rw [Text.pieces_append (by decide), pieces_flatMap (List.forall_mem_map.mpr ha), List.cons_append,
            List.cons.injEq] at hpieces
          have hmap : a.map String.toList <+: b.map String.toList := ⟨_, hpieces.2⟩
          have hback := hmap.map String.ofList
          simpa [List.map_map, Function.comp_def] using hback
    · rintro ⟨c, rfl⟩
      rw [toList_text_ofSegments hb (by simp [hroot]), List.map_append, List.flatMap_append,
        dropPrefix?_eq_some_iff.mpr rfl]
      cases c with
      | nil => rfl
      | cons s c => simp

/-! ### The last segment -/

theorem fileName?_ofSegments_append {name : String} (h : ∀ s ∈ a ++ [name], IsName s.toList) :
    (ofSegments (a ++ [name])).fileName? = some name := by
  rw [fileName?, segments_ofSegments h, List.getLast?_concat]

/-- The directory of a path of names is the path without the last of them. -/
theorem parent_ofSegments_append {name : String} (h : ∀ s ∈ a ++ [name], IsName s.toList) :
    (ofSegments (a ++ [name])).parent = ofSegments a := by
  have hname : IsName name.toList := h name (by simp)
  have hdirs : ∀ s ∈ a, IsName s.toList := fun s hs => h s (List.mem_append_left _ hs)
  have hstop : ∀ c ∈ name.toList.reverse, (!isSlash c) = true := by
    intro c hc
    rw [(isSlash_eq_false_iff c).mpr fun e => hname.no_slash (e ▸ List.mem_reverse.mp hc)]
    rfl
  have htext : (ofSegments (a ++ [name])).text.toList.reverse =
      name.toList.reverse ++ '/' :: ((a.map String.toList).flatMap ('/' :: ·)).reverse := by
    rw [toList_text_ofSegments h (by simp)]
    simp
  rw [parent, htext, List.dropWhile_append_of_pos hstop, List.dropWhile_cons_of_neg (by decide),
    List.drop_one, List.tail_cons]
  by_cases hroot : a = []
  · subst hroot
    rfl
  · have hrender := render_names (List.forall_mem_map.mpr hdirs) (by simpa using hroot)
    rw [ofSegments, hrender]
    split
    · rename_i hnil
      obtain ⟨s, a, rfl⟩ := List.exists_cons_of_ne_nil hroot
      simp at hnil
    · rw [List.reverse_reverse]

end ContentPath

end Folio
