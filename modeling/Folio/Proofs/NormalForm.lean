import Folio.Path.Route

/-! # The normal form of paths

A raw path is read segment by segment onto a stack (`ContentPath.stackOf`).  What is on the stack is
clean: neither empty nor `.` nor `..`, without slashes and quotation marks.  Reading goes on where it
stopped (`stackOf_append_slash`), and reading back the text of clean segments gives these segments
(`stackOf_flatMap`), so a path in normal form can stand for any raw path in front of a slash. -/

namespace Folio

/-! ### Pieces -/

namespace Text

variable {p : Char → Bool}

theorem pieces_ne_nil : ∀ cs : List Char, pieces p cs ≠ []
  | [] => by simp [pieces]
  | c :: cs => by
      rw [pieces]
      split
      · simp
      · split <;> simp

theorem pieces_cons_of_pos {c : Char} (h : p c = true) (cs : List Char) :
    pieces p (c :: cs) = [] :: pieces p cs := by
  rw [pieces, if_pos h]

theorem pieces_cons_of_neg {c : Char} (h : p c = false) {cs piece : List Char}
    {rest : List (List Char)} (hcs : pieces p cs = piece :: rest) :
    pieces p (c :: cs) = (c :: piece) :: rest := by
  rw [pieces, if_neg (by simp [h]), hcs]

/-- A separator between two texts separates their pieces. -/
theorem pieces_append {c : Char} (hc : p c = true) (b : List Char) :
    ∀ a : List Char, pieces p (a ++ c :: b) = pieces p a ++ pieces p b
  | [] => pieces_cons_of_pos hc b
  | d :: a => by
      have ih := pieces_append hc b a
      cases hd : p d with
      | true =>
          rw [List.cons_append, pieces_cons_of_pos hd, pieces_cons_of_pos hd, ih, List.cons_append]
      | false =>
          obtain ⟨piece, rest, ha⟩ := List.exists_cons_of_ne_nil (pieces_ne_nil (p := p) a)
          rw [ha] at ih
          rw [List.cons_append, pieces_cons_of_neg hd ih, pieces_cons_of_neg hd ha]
          rfl

theorem pieces_of_forall_not :
    ∀ {cs : List Char}, (∀ c ∈ cs, p c = false) → pieces p cs = [cs]
  | [], _ => rfl
  | c :: _, h =>
      pieces_cons_of_neg (h c List.mem_cons_self)
        (pieces_of_forall_not fun d hd => h d (List.mem_cons_of_mem c hd))

/-- The characters of a piece are characters of the text that do not separate. -/
theorem of_mem_pieces :
    ∀ {cs piece : List Char}, piece ∈ pieces p cs → ∀ c ∈ piece, c ∈ cs ∧ p c = false
  | [], piece, hp, c, hc => by
      rw [pieces, List.mem_singleton] at hp
      rw [hp] at hc
      cases hc
  | d :: cs, piece, hp, c, hc => by
      have later : ∀ q ∈ pieces p cs, ∀ c ∈ q, c ∈ d :: cs ∧ p c = false := fun q hq c hc =>
        have h := of_mem_pieces hq c hc
        ⟨List.mem_cons_of_mem d h.1, h.2⟩
      cases hd : p d with
      | true =>
          rw [pieces_cons_of_pos hd] at hp
          rcases List.mem_cons.mp hp with rfl | hp
          · cases hc
          · exact later piece hp c hc
      | false =>
          obtain ⟨first, rest, h⟩ := List.exists_cons_of_ne_nil (pieces_ne_nil (p := p) cs)
          rw [pieces_cons_of_neg hd h] at hp
          rcases List.mem_cons.mp hp with rfl | hp
          · rcases List.mem_cons.mp hc with rfl | hc
            · exact ⟨List.mem_cons_self, hd⟩
            · exact later first (h ▸ List.mem_cons_self) c hc
          · exact later piece (h ▸ List.mem_cons_of_mem first hp) c hc

/-- A text has no separator, or there is a last one. -/
theorem exists_last_separator :
    ∀ cs : List Char, (∀ c ∈ cs, p c = false) ∨
      ∃ front c back, cs = front ++ c :: back ∧ p c = true ∧ ∀ d ∈ back, p d = false
  | [] => .inl fun c hc => by cases hc
  | c :: cs => by
      rcases exists_last_separator cs with h | ⟨front, d, back, rfl, hd, hb⟩
      · cases hc : p c with
        | true => exact .inr ⟨[], c, cs, rfl, hc, h⟩
        | false => exact .inl (List.forall_mem_cons.mpr ⟨hc, h⟩)
      · exact .inr ⟨c :: front, d, back, rfl, hd, hb⟩

/-- A text is its last piece, behind a separator unless it is the only one. -/
theorem eq_of_getLast?_pieces {cs last : List Char} (h : (pieces p cs).getLast? = some last) :
    (∀ d ∈ last, p d = false) ∧
      (cs = last ∨ ∃ front c, p c = true ∧ cs = front ++ c :: last) := by
  rcases exists_last_separator (p := p) cs with hn | ⟨front, c, back, rfl, hc, hb⟩
  · rw [pieces_of_forall_not hn, List.getLast?_singleton, Option.some.injEq] at h
    exact ⟨h ▸ hn, .inl h⟩
  · rw [pieces_append hc, pieces_of_forall_not hb, List.getLast?_concat, Option.some.injEq] at h
    exact ⟨h ▸ hb, .inr ⟨front, c, hc, h ▸ rfl⟩⟩

end Text

/-! ### Reading segments -/

namespace ContentPath

theorem isSlash_eq_false_iff (c : Char) : isSlash c = false ↔ c ≠ '/' := by simp [isSlash]

/-- The segments that a raw path denotes, the last of them first. -/
def stackOf (raw : List Char) : List (List Char) :=
  (Text.pieces isSlash (raw.filter (· ≠ '"'))).foldl pushSegment []

theorem cleanSegments_eq (raw : List Char) : cleanSegments raw = (stackOf raw).reverse := rfl

/-- A segment that stays as it is. -/
structure IsClean (segment : List Char) : Prop where
  ne_nil : segment ≠ []
  ne_dot : segment ≠ ['.']
  ne_dots : segment ≠ ['.', '.']
  no_slash : '/' ∉ segment
  no_quote : '"' ∉ segment

theorem IsClean.push {segment : List Char} (h : IsClean segment) (stack : List (List Char)) :
    pushSegment stack segment = segment :: stack := by
  rw [pushSegment, if_neg (by simp [h.ne_nil, h.ne_dot]), if_neg h.ne_dots]

/-- Whatever is read, only clean segments stay. -/
theorem isClean_of_mem_pushSegment {stack : List (List Char)} (hs : ∀ s ∈ stack, IsClean s)
    {segment : List Char} (hl : '/' ∉ segment) (hq : '"' ∉ segment) :
    ∀ s ∈ pushSegment stack segment, IsClean s := by
  intro s h
  unfold pushSegment at h
  split at h
  · exact hs s h
  · rename_i hn
    obtain ⟨h1, h2⟩ := not_or.mp hn
    split at h
    · exact hs s (List.mem_of_mem_tail h)
    · rename_i h3
      rcases List.mem_cons.mp h with rfl | h
      · exact ⟨h1, h2, h3, hl, hq⟩
      · exact hs s h

theorem isClean_of_mem_stackOf (raw : List Char) : ∀ s ∈ stackOf raw, IsClean s := by
  refine List.foldlRecOn (motive := fun stack => ∀ s ∈ stack, IsClean s) _ _
    (fun s h => by cases h) fun stack hs segment hm => ?_
  have hc := Text.of_mem_pieces hm
  refine isClean_of_mem_pushSegment hs (fun h => ?_) fun h => ?_
  · exact absurd (hc '/' h).2 (by decide)
  · simpa using (List.mem_filter.mp (hc '"' h).1).2

theorem mem_of_mem_foldl_pushSegment {s : List Char} {segments stack : List (List Char)}
    (h : s ∈ segments.foldl pushSegment stack) : s ∈ stack ∨ s ∈ segments := by
  induction segments generalizing stack with
  | nil => exact .inl h
  | cons t segments ih =>
    obtain h | h := ih h
    · unfold pushSegment at h
      split at h
      · exact .inl h
      · split at h
        · exact .inl (List.mem_of_mem_tail h)
        · exact (List.mem_cons.mp h).symm.imp_right fun h => List.mem_cons.mpr (.inl h)
    · exact .inr (List.mem_cons_of_mem t h)

/-- The characters of what is read are characters of the raw path. -/
theorem mem_of_mem_stackOf {raw s : List Char} {c : Char} (h : s ∈ stackOf raw) (hc : c ∈ s) : c ∈ raw := by
  rcases mem_of_mem_foldl_pushSegment h with h | h
  · cases h
  · exact (List.mem_filter.mp (Text.of_mem_pieces h c hc).1).1

/-- Behind a slash, reading goes on from the segments in front of it. -/
theorem stackOf_append_slash (x y : List Char) :
    stackOf (x ++ '/' :: y) =
      (Text.pieces isSlash (y.filter (· ≠ '"'))).foldl pushSegment (stackOf x) := by
  rw [stackOf, List.filter_append, List.filter_cons_of_pos (by decide),
    Text.pieces_append (by decide), List.foldl_append]
  rfl

theorem stackOf_append_segment (x : List Char) {n : List Char} (hl : '/' ∉ n) (hq : '"' ∉ n) :
    stackOf (x ++ '/' :: n) = pushSegment (stackOf x) n := by
  have hf : n.filter (· ≠ '"') = n := by
    rw [List.filter_eq_self]
    rintro c hc
    exact decide_eq_true fun h : c = '"' => hq (h ▸ hc)
  have hp : Text.pieces isSlash n = [n] :=
    Text.pieces_of_forall_not fun c hc => (isSlash_eq_false_iff c).mpr fun h => hl (h ▸ hc)
  rw [stackOf_append_slash, hf, hp, List.foldl_cons, List.foldl_nil]

/-- Clean segments that are written behind a path are read as they are. -/
theorem stackOf_append_flatMap :
    ∀ (segments : List (List Char)) (x : List Char), (∀ s ∈ segments, IsClean s) →
      stackOf (x ++ segments.flatMap ('/' :: ·)) = segments.reverse ++ stackOf x
  | [], x, _ => by simp
  | s :: segments, x, h => by
      obtain ⟨hs, ht⟩ := List.forall_mem_cons.mp h
      have e : x ++ (s :: segments).flatMap ('/' :: ·) =
          (x ++ '/' :: s) ++ segments.flatMap ('/' :: ·) := by simp
      rw [e, stackOf_append_flatMap segments _ ht, stackOf_append_segment x hs.no_slash hs.no_quote,
        hs.push]
      simp

theorem stackOf_flatMap {segments : List (List Char)} (h : ∀ s ∈ segments, IsClean s) :
    stackOf (segments.flatMap ('/' :: ·)) = segments.reverse := by
  have := stackOf_append_flatMap segments [] h
  rwa [List.nil_append, show stackOf [] = [] from rfl, List.append_nil] at this

/-- The text in front of the last segment, in normal form. -/
def directoryText (raw : List Char) : List Char := (stackOf raw).reverse.flatMap ('/' :: ·)

theorem stackOf_directoryText (raw : List Char) : stackOf (directoryText raw) = stackOf raw := by
  rw [directoryText, stackOf_flatMap, List.reverse_reverse]
  exact fun s hs => isClean_of_mem_stackOf raw s (List.mem_reverse.mp hs)

/-! ### Paths -/

/-- The normal form of a raw path, on characters. -/
def ofChars (raw : List Char) : ContentPath := ofString (String.ofList raw)

theorem ofString_eq (raw : String) : ofString raw = ofChars raw.toList := by
  rw [ofChars, String.ofList_toList]

theorem ofChars_eq (raw : List Char) :
    ofChars raw = ⟨String.ofList (render (stackOf raw).reverse)⟩ := by
  rw [ofChars, ofString, String.toList_ofList, cleanSegments_eq]

theorem ofChars_congr {x y : List Char} (h : stackOf x = stackOf y) : ofChars x = ofChars y := by
  rw [ofChars_eq, ofChars_eq, h]

/-- A path whose last segment stays is written with that segment behind its directory. -/
theorem ofChars_append_segment (x : List Char) {n : List Char} (hn : IsClean n) :
    (ofChars (x ++ '/' :: n)).text = String.ofList (directoryText x ++ '/' :: n) := by
  have hs : ∀ s ∈ (n :: stackOf x).reverse, s ≠ [] := by
    intro s h
    rcases List.mem_cons.mp (List.mem_reverse.mp h) with rfl | h
    · exact hn.ne_nil
    · exact (isClean_of_mem_stackOf x s h).ne_nil
  have hf : (n :: stackOf x).reverse.filter (· ≠ []) = (stackOf x).reverse ++ [n] := by
    rw [List.filter_eq_self.mpr fun s h => decide_eq_true (hs s h), List.reverse_cons]
  rw [ofChars_eq, stackOf_append_segment x hn.no_slash hn.no_quote, hn.push, render, hf]
  cases h : (stackOf x).reverse <;> simp [directoryText, h]

end ContentPath

end Folio
