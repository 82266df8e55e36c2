import Mathlib.Data.List.Induction
import Folio.Proofs.HeadingOrder

/-! # Nesting by depth

A table of contents is made by putting one entry after the other at its end, and each insertion looks at
the last entry of each level only.  What this comes to for the table as a whole is an invariant of its
shape (`Nested`): what is below an entry is deeper than it, and no later sibling is.  Read in document
order this says that the parent of each entry is the nearest earlier one that is shallower
(`parentsFrom_eq_iff`).  Since a nested table is determined by its entries (`Nested.eq_of_flatten_eq`),
the table of some headings is the only one with these parents (`eq_ofHeadings_iff`). -/

namespace Folio.Outline

/-- The place of the last of some entries that is shallower than another. -/
def nearestShallower (earlier : List Entry) (x : Entry) : Option Nat :=
  (earlier.zipIdx.reverse.find? (·.1.depth < x.depth)).map (·.2)

/-- For each of some entries the nearest shallower one in front of it; `earlier` are those in front of
all of them. -/
def shallowerFrom (earlier : List Entry) : List Entry → List (Option Nat)
  | [] => []
  | x :: rest => nearestShallower earlier x :: shallowerFrom (earlier ++ [x]) rest

/-! ### The nearest shallower entry -/

theorem nearestShallower_concat (earlier : List Entry) (y x : Entry) :
    nearestShallower (earlier ++ [y]) x =
      if y.depth < x.depth then some earlier.length else nearestShallower earlier x := by
  rw [nearestShallower, List.zipIdx_append, List.reverse_append, List.zipIdx_singleton,
    List.reverse_singleton, List.singleton_append, List.find?_cons, Nat.zero_add]
  by_cases h : y.depth < x.depth
  · simp [h]
  · simp [h, nearestShallower]

/-- Entries that are not shallower do not count. -/
theorem nearestShallower_append_of_le {x : Entry} (earlier : List Entry) :
    ∀ later : List Entry, (∀ y ∈ later, x.depth ≤ y.depth) →
      nearestShallower (earlier ++ later) x = nearestShallower earlier x := by
  intro later
  induction later generalizing earlier with
  | nil => intro _; rw [List.append_nil]
  | cons y later ih =>
    intro h
    obtain ⟨hy, hlater⟩ := List.forall_mem_cons.mp h
    rw [List.append_cons, ih (earlier ++ [y]) hlater, nearestShallower_concat,
      if_neg (Nat.not_lt.mpr hy)]

theorem lt_length_of_nearestShallower {earlier : List Entry} {x : Entry} {p : Nat}
    (h : nearestShallower earlier x = some p) : p < earlier.length := by
  obtain ⟨⟨y, i⟩, hfind, rfl⟩ := Option.map_eq_some_iff.mp h
  have hmem := List.mem_reverse.mp (List.mem_of_find?_eq_some hfind)
  simpa using (List.mem_zipIdx hmem).2.1

theorem nearestShallower_concat_eq_iff {earlier : List Entry} {y x : Entry} :
    nearestShallower (earlier ++ [y]) x = some earlier.length ↔ y.depth < x.depth := by
  rw [nearestShallower_concat]
  split
  · exact ⟨fun _ => ‹_›, fun _ => rfl⟩
  · exact ⟨fun h => absurd (lt_length_of_nearestShallower h) (Nat.lt_irrefl _), fun h => absurd h ‹_›⟩

/-- If one of the later entries is shallower, the nearest one is none of the earlier ones. -/
theorem nearestShallower_append_cons_ne {x y z : Entry} {earlier : List Entry} (h : y.depth < x.depth)
    (later : List Entry) :
    nearestShallower (earlier ++ y :: later) x ≠ nearestShallower earlier z := by
  have hlate : ∃ p, nearestShallower (earlier ++ y :: later) x = some p ∧ earlier.length ≤ p := by
    induction later using List.reverseRecOn with
    | nil => exact ⟨earlier.length, by rw [nearestShallower_concat, if_pos h], Nat.le_refl _⟩
    | append_singleton later w ih =>
      rw [← List.cons_append, ← List.append_assoc, nearestShallower_concat]
      split
      · exact ⟨_, rfl, by simp⟩
      · exact ih
  obtain ⟨p, hp, hle⟩ := hlate
  intro heq
  have hlt := lt_length_of_nearestShallower (heq.symm.trans hp)
  omega

theorem length_shallowerFrom (earlier entries : List Entry) :
    (shallowerFrom earlier entries).length = entries.length := by
  induction entries generalizing earlier with
  | nil => rfl
  | cons x rest ih => rw [shallowerFrom, List.length_cons, ih, List.length_cons]

theorem shallowerFrom_append (earlier l m : List Entry) :
    shallowerFrom earlier (l ++ m) = shallowerFrom earlier l ++ shallowerFrom (earlier ++ l) m := by
  induction l generalizing earlier with
  | nil => rw [List.append_nil]; rfl
  | cons x l ih =>
    rw [List.cons_append, shallowerFrom, ih, shallowerFrom, List.cons_append, List.append_assoc,
      List.singleton_append]

namespace Contents

/-! ### Parents -/

/-- The parent of each entry, in document order: all are told by their places in that order, `start`
being the place of the first entry and `above` that of the entry which the whole stands below. -/
def parentsFrom (above : Option Nat) (start : Nat) : Contents → List (Option Nat)
  | nil => []
  | item _ children next =>
    above :: (children.parentsFrom (some start) (start + 1) ++
      next.parentsFrom above (start + 1 + children.flatten.length))

/-- The parent of each entry of a table of contents. -/
def parents (c : Contents) : List (Option Nat) := c.parentsFrom none 0

/-- The entries on the top level. -/
def tops : Contents → List Entry
  | nil => []
  | item e _ next => e :: next.tops

theorem tops_eq_map_items (c : Contents) : c.tops = c.items.map (·.1) := by
  induction c with
  | nil => rfl
  | item e children next _ ih => rw [tops, items, List.map_cons, ih]

/-- In document order every entry of the top level stands before what is below it. -/
theorem flatten_eq_flatMap_items (c : Contents) : c.flatten = c.items.flatMap fun i => i.1 :: i.2.flatten := by
  induction c with
  | nil => rfl
  | item e children next _ ih => rw [flatten, items, List.flatMap_cons, ih, List.cons_append]

/-- What is below an entry is deeper than it, and its later siblings are not. -/
def Nested : Contents → Prop
  | nil => True
  | item e children next =>
    (∀ x ∈ children.flatten, e.depth < x.depth) ∧ (∀ x ∈ next.tops, x.depth ≤ e.depth) ∧
      children.Nested ∧ next.Nested

theorem mem_flatten_of_mem_tops {x : Entry} : ∀ {c : Contents}, x ∈ c.tops → x ∈ c.flatten
  | item _ _ _, h => by
    rcases List.mem_cons.mp h with rfl | h
    · exact List.mem_cons_self
    · exact List.mem_cons_of_mem _ (List.mem_append_right _ (mem_flatten_of_mem_tops h))

theorem length_parentsFrom (c : Contents) (above : Option Nat) (start : Nat) :
    (c.parentsFrom above start).length = c.flatten.length := by
  induction c generalizing above start with
  | nil => rfl
  | item e children next ihc ihn => simp [parentsFrom, flatten, ihc, ihn]

/-- Whatever is shallower than the top level of a nested table is shallower than all of it. -/
theorem Nested.lt_of_tops {d : Nat} : ∀ {c : Contents}, c.Nested → (∀ x ∈ c.tops, d < x.depth) →
    ∀ x ∈ c.flatten, d < x.depth
  | item e children next, ⟨hdeeper, _, _, hnext⟩, htops, x, hx => by
    obtain ⟨he, hrest⟩ := List.forall_mem_cons.mp htops
    rcases List.mem_cons.mp hx with rfl | hx
    · exact he
    · rcases List.mem_append.mp hx with hx | hx
      · exact Nat.lt_trans he (hdeeper x hx)
      · exact hnext.lt_of_tops hrest x hx

/-- The places and the nearest shallower entries of a table are those of its first entry, of what is
below that and of what comes after it. -/
theorem parentsFrom_item_eq_iff (earlier : List Entry) (above : Option Nat) (e : Entry)
    (children next : Contents) :
    (item e children next).parentsFrom above earlier.length =
        shallowerFrom earlier (item e children next).flatten ↔
      above = nearestShallower earlier e ∧
        children.parentsFrom (some earlier.length) (earlier ++ [e]).length =
          shallowerFrom (earlier ++ [e]) children.flatten ∧
        next.parentsFrom above (earlier ++ e :: children.flatten).length =
          shallowerFrom (earlier ++ e :: children.flatten) next.flatten := by
  have hplace : (earlier ++ e :: children.flatten).length =
      earlier.length + 1 + children.flatten.length := by
    rw [List.length_append, List.length_cons]
    omega
  have hlen : (children.parentsFrom (some earlier.length) (earlier.length + 1)).length =
      (shallowerFrom (earlier ++ [e]) children.flatten).length := by
    rw [length_parentsFrom, length_shallowerFrom]
  rw [hplace, List.length_append, List.length_singleton, parentsFrom, flatten, shallowerFrom,
    shallowerFrom_append, ← List.append_cons, List.cons.injEq]
  refine and_congr_right fun _ => ⟨fun h => List.append_inj h hlen, fun h => ?_⟩
  rw [h.1, h.2]

/-- A table is nested, and its top level stands below the nearest shallower entry, exactly if each parent
is the nearest shallower entry. -/
theorem parentsFrom_eq_iff (c : Contents) (earlier : List Entry) (above : Option Nat) :
    c.parentsFrom above earlier.length = shallowerFrom earlier c.flatten ↔
      c.Nested ∧ ∀ x ∈ c.tops, nearestShallower earlier x = above := by
  induction c generalizing earlier above with
  | nil => simp [parentsFrom, flatten, shallowerFrom, Nested, tops]
  | item e children next ihc ihn =>
    rw [parentsFrom_item_eq_iff, ihc, ihn]
    have hskip : (∀ x ∈ children.flatten, e.depth < x.depth) → ∀ x : Entry, x.depth ≤ e.depth →
        nearestShallower (earlier ++ e :: children.flatten) x = nearestShallower earlier x := by
      intro hdeeper x hle
      refine nearestShallower_append_of_le earlier _ (List.forall_mem_cons.mpr ⟨hle, fun y hy => ?_⟩)
      exact Nat.le_trans hle (Nat.le_of_lt (hdeeper y hy))
    constructor
    · rintro ⟨rfl, ⟨hchildren, hbelow⟩, hnext, hafter⟩
      have hdeeper : ∀ x ∈ children.flatten, e.depth < x.depth :=
        hchildren.lt_of_tops fun x hx => nearestShallower_concat_eq_iff.mp (hbelow x hx)
      have hsiblings : ∀ x ∈ next.tops, x.depth ≤ e.depth := fun x hx =>
        Nat.not_lt.mp fun hlt => nearestShallower_append_cons_ne hlt _ (hafter x hx)
      refine ⟨⟨hdeeper, hsiblings, hchildren, hnext⟩, List.forall_mem_cons.mpr ⟨rfl, fun x hx => ?_⟩⟩
      rw [← hskip hdeeper x (hsiblings x hx), hafter x hx]
    · rintro ⟨⟨hdeeper, hsiblings, hchildren, hnext⟩, htops⟩
      obtain ⟨he, hrest⟩ := List.forall_mem_cons.mp htops
      refine ⟨he.symm, ⟨hchildren, fun x hx => ?_⟩, hnext, fun x hx => ?_⟩
      · exact nearestShallower_concat_eq_iff.mpr (hdeeper x (mem_flatten_of_mem_tops hx))
      · rw [hskip hdeeper x (hsiblings x hx), hrest x hx]

/-! ### Nested tables -/

/-- What is below the first entry of a nested table goes on as long as the entries are deeper. -/
theorem Nested.flatten_eq {e : Entry} {children next : Contents} (h : (item e children next).Nested) :
    (children.flatten ++ next.flatten).takeWhile (e.depth < ·.depth) = children.flatten ∧
      (children.flatten ++ next.flatten).dropWhile (e.depth < ·.depth) = next.flatten := by
  obtain ⟨hdeeper, hsiblings, -, -⟩ := h
  have hbelow : ∀ x ∈ children.flatten, decide (e.depth < x.depth) = true := fun x hx =>
    decide_eq_true (hdeeper x hx)
  rw [List.takeWhile_append_of_pos hbelow, List.dropWhile_append_of_pos hbelow]
  cases next with
  | nil => simp [flatten]
  | item f below after =>
    have hf : ¬ e.depth < f.depth := Nat.not_lt.mpr (hsiblings f List.mem_cons_self)
    simp [flatten, hf]

/-- A nested table is determined by its entries. -/
theorem Nested.eq_of_flatten_eq : ∀ {a b : Contents}, a.Nested → b.Nested → a.flatten = b.flatten →
    a = b
  | nil, nil, _, _, _ => rfl
  | item e children next, item e' children' next', ha, hb, h => by
    obtain ⟨rfl, hrest⟩ := List.cons.inj h
    obtain ⟨hchildren, hnext⟩ := ha.flatten_eq
    obtain ⟨hchildren', hnext'⟩ := hb.flatten_eq
    rw [hrest] at hchildren hnext
    obtain ⟨-, -, hac, han⟩ := ha
    obtain ⟨-, -, hbc, hbn⟩ := hb
    rw [hac.eq_of_flatten_eq hbc (hchildren.symm.trans hchildren'),
      han.eq_of_flatten_eq hbn (hnext.symm.trans hnext')]

/-! ### Tables of headings -/

theorem item_ne_nil (e : Entry) (children next : Contents) : item e children next ≠ nil := by
  intro h
  cases h

/-- A new entry comes to the top level only if it is not deeper than the last one there. -/
theorem le_of_mem_tops_insert {d : Nat} {x : Entry} {c : Contents} (hne : c ≠ nil)
    (h : ∀ y ∈ c.tops, y.depth ≤ d) : ∀ y ∈ (c.insert x).tops, y.depth ≤ d := by
  fun_induction Contents.insert x c with
  | case1 => exact absurd rfl hne
  | case2 e children hlt ih => exact h
  | case3 e children hge =>
    have he := h e List.mem_cons_self
    refine List.forall_mem_cons.mpr ⟨he, List.forall_mem_singleton.mpr ?_⟩
    exact Nat.le_trans (Nat.not_lt.mp hge) he
  | case4 e children e' children' next ih =>
    obtain ⟨he, hnext⟩ := List.forall_mem_cons.mp h
    exact List.forall_mem_cons.mpr ⟨he, ih (item_ne_nil _ _ _) hnext⟩

theorem nested_single (x : Entry) : (item x nil nil).Nested := by
  refine ⟨?_, ?_, trivial, trivial⟩
  · exact List.forall_mem_nil _
  · exact List.forall_mem_nil _

/-- Putting an entry at the end keeps a table nested. -/
theorem Nested.insert {c : Contents} (h : c.Nested) (x : Entry) : (c.insert x).Nested := by
  fun_induction Contents.insert x c with
  | case1 => exact nested_single x
  | case2 e children hlt ih =>
    obtain ⟨hdeeper, -, hchildren, -⟩ := h
    refine ⟨?_, List.forall_mem_nil _, ih hchildren, trivial⟩
    rw [flatten_insert]
    exact List.forall_mem_append.mpr ⟨hdeeper, List.forall_mem_singleton.mpr hlt⟩
  | case3 e children hge =>
    obtain ⟨hdeeper, -, hchildren, -⟩ := h
    refine ⟨hdeeper, ?_, hchildren, nested_single x⟩
    exact List.forall_mem_singleton.mpr (Nat.not_lt.mp hge)
  | case4 e children e' children' next ih =>
    obtain ⟨hdeeper, hsiblings, hchildren, hnext⟩ := h
    exact ⟨hdeeper, le_of_mem_tops_insert (item_ne_nil _ _ _) hsiblings, hchildren, ih hnext⟩

theorem nested_ofHeadings (headings : List Heading) (ids : List String) :
    (ofHeadings headings ids).Nested :=
  List.foldlRecOn (motive := Nested) (headings.zip ids) _ trivial fun _ h _ _ => h.insert _

/-- The parents in a table are the nearest shallower entries exactly if the table is nested. -/
theorem parents_eq_iff (c : Contents) : c.parents = shallowerFrom [] c.flatten ↔ c.Nested :=
  (parentsFrom_eq_iff c [] none).trans (and_iff_left fun _ _ => rfl)

/-- **The table of contents nests its headings by depth**: of all tables, the table of some headings is
the only one that lists them, each once and in order, and in which the parent of each is the nearest
earlier one that is shallower, or none if there is none. -/
theorem eq_ofHeadings_iff {headings : List Heading} {ids : List String}
    (hlen : ids.length = headings.length) (toc : Contents) :
    toc = ofHeadings headings ids ↔
      toc.flatten.length = headings.length ∧ toc.flatten = List.zipWith entryOf headings ids ∧
        toc.parents = shallowerFrom [] toc.flatten := by
  rw [parents_eq_iff]
  constructor
  · rintro rfl
    refine ⟨?_, flatten_ofHeadings headings ids, nested_ofHeadings headings ids⟩
    rw [flatten_ofHeadings, List.length_zipWith, hlen, Nat.min_self]
  · rintro ⟨-, hflatten, hnested⟩
    exact hnested.eq_of_flatten_eq (nested_ofHeadings headings ids)
      (hflatten.trans (flatten_ofHeadings headings ids).symm)

/-- A deep heading in front of a shallow one, and levels that are skipped on the way down and up. -/
def guideHeadings : List Heading :=
  [⟨4, "Note", none⟩, ⟨2, "Setup", none⟩, ⟨5, "Keys", none⟩, ⟨3, "Run", none⟩, ⟨4, "Logs", none⟩,
    ⟨2, "Setup", none⟩]

/-- The table of these headings. -/
def guideContents : Contents :=
  item ⟨"note", "Note", 4⟩ nil
    (item ⟨"setup", "Setup", 2⟩
      (item ⟨"keys", "Keys", 5⟩ nil
        (item ⟨"run", "Run", 3⟩ (item ⟨"logs", "Logs", 4⟩ nil nil) nil))
      (item ⟨"setup-2", "Setup", 2⟩ nil nil))

/-- It lists them with these parents, and so it is their table. -/
theorem eq_ofHeadings_iff_guideContents :
    let ids := ["note", "setup", "keys", "run", "logs", "setup-2"]
    ids.length = guideHeadings.length ∧ guideContents = ofHeadings guideHeadings ids ∧
      guideContents.parents = [none, none, some 1, some 1, some 3, none] ∧
      shallowerFrom [] guideContents.flatten = [none, none, some 1, some 1, some 3, none] := by
  intro ids
  have hlen : ids.length = guideHeadings.length := by decide
  have hparents : guideContents.parents = [none, none, some 1, some 1, some 3, none] := by decide
  have hnearest :
      shallowerFrom [] guideContents.flatten = [none, none, some 1, some 1, some 3, none] := by
    decide
  refine ⟨hlen, ?_, hparents, hnearest⟩
  exact (eq_ofHeadings_iff hlen guideContents).mpr
    ⟨by decide, by decide +kernel, hparents.trans hnearest.symm⟩

end Contents

end Folio.Outline
