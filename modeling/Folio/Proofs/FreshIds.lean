import Mathlib.Data.List.Induction
import Mathlib.Data.List.Nodup
import Folio.Proofs.HeadingOrder
import Folio.Proofs.NormalForm

/-! # Ids are fresh

A pass over a document takes ids: those that the author has given are held, the others are issued.
Occurrences are counted by text and collisions happen by id, so what ties the two together is an
invariant of the whole run (`Follows`): the set of used ids is what has been taken, and of each text, as
often as it came, the first numbers are taken.  Of `used.size + 1` numbered candidates one is free, since
the number can be read off the id (`numbered_inj`), so the search ends at the first free one
(`firstFree_not_mem`).  Hence each issued id is the next free one (`Follows.isNext`), and two headings
share an id only where the author has given it to both (`issue_fresh`). -/

namespace Folio

/-! ### Spacing -/

namespace Text

theorem words_append_space {cs : List Char} (hne : cs ≠ [])
    (h : ∀ c ∈ cs, Unicode.isBlank c = false) (rest : List Char) :
    words (cs ++ ' ' :: rest) = cs :: words rest := by
  rw [words, pieces_append (by decide), pieces_of_forall_not h, List.filter_append,
    List.filter_cons_of_pos (by simpa using hne)]
  rfl

/-- Words with a space between them are read back. -/
theorem words_joinWith : ∀ {ws : List (List Char)},
    (∀ w ∈ ws, w ≠ [] ∧ ∀ c ∈ w, Unicode.isBlank c = false) → words (joinWith [' '] ws) = ws
  | [], _ => rfl
  | [w], h => by
      obtain ⟨hne, hw⟩ := h w List.mem_cons_self
      rw [joinWith, words, pieces_of_forall_not hw, List.filter_cons_of_pos (by simpa using hne),
        List.filter_nil]
  | w :: v :: ws, h => by
      obtain ⟨⟨hne, hw⟩, hrest⟩ := List.forall_mem_cons.mp h
      rw [joinWith, List.append_assoc, List.singleton_append, words_append_space hne hw,
        words_joinWith hrest]

theorem of_mem_words {cs w : List Char} (h : w ∈ words cs) :
    w ≠ [] ∧ ∀ c ∈ w, Unicode.isBlank c = false := by
  obtain ⟨hpiece, hne⟩ := List.mem_filter.mp h
  exact ⟨of_decide_eq_true hne, fun c hc => (of_mem_pieces hpiece c hc).2⟩

end Text

namespace Outline

theorem spacedText_spacedText (text : String) : spacedText (spacedText text) = spacedText text := by
  have hwords : Text.words (Text.joinWith [' '] (Text.words text.toList)) = Text.words text.toList :=
    Text.words_joinWith fun _ => Text.of_mem_words
  rw [spacedText, spacedText, String.toList_ofList, hwords]

theorem SlugRegistry.base_spacedText (r : SlugRegistry) (text : String) :
    r.base (spacedText text) = r.base text := by
  simp only [SlugRegistry.base, spacedText_spacedText]

/-! ### Numbered ids -/

/-- The number can be read off a numbered id. -/
theorem numbered_inj {base : String} {m n : Nat} (h : numbered base m = numbered base n) : m = n := by
  have hlonger : ∀ k : Nat, base ≠ base ++ "-" ++ toString k := by
    intro k hk
    have hlen := congrArg (fun s : String => s.toList.length) hk
    simp at hlen
  unfold numbered at h
  split at h
  · split at h
    · rw [‹m = 1›, ‹n = 1›]
    · exact absurd h (hlonger n)
  · split at h
    · exact absurd h.symm (hlonger m)
    · have hdigits : toString m = toString n := (String.append_right_inj _).mp h
      simpa using congrArg (fun s : String => Nat.ofDigitChars 10 s.toList 0) hdigits

variable {used : Std.TreeSet String} {base : String}

theorem le_firstFree (tries n : Nat) : n ≤ firstFree used base tries n := by
  fun_induction firstFree used base tries n with
  | case1 n => exact Nat.le_refl n
  | case2 n tries h ih => exact Nat.le_of_succ_le ih
  | case3 tries n h => exact Nat.le_refl n

/-- What the search passes over is used. -/
theorem mem_of_lt_firstFree {tries n m : Nat} (hle : n ≤ m) (hlt : m < firstFree used base tries n) :
    numbered base m ∈ used := by
  fun_induction firstFree used base tries n with
  | case1 n => omega
  | case2 n tries h ih =>
    rcases Nat.eq_or_lt_of_le hle with rfl | hlt'
    · exact Std.TreeSet.contains_iff_mem.mp h
    · exact ih hlt' hlt
  | case3 n tries h => omega

/-- The search ends at a free id or after all its tries. -/
theorem firstFree_not_mem_or (tries n : Nat) :
    numbered base (firstFree used base tries n) ∉ used ∨ firstFree used base tries n = n + tries := by
  fun_induction firstFree used base tries n with
  | case1 n => exact .inr rfl
  | case2 n tries h ih => exact ih.imp_right fun e => by omega
  | case3 n tries h => exact .inl fun hmem => h (Std.TreeSet.contains_iff_mem.mpr hmem)

/-- With more tries than there are used ids, the search ends at a free one. -/
theorem firstFree_not_mem {tries : Nat} (h : used.size < tries) (n : Nat) :
    numbered base (firstFree used base tries n) ∉ used := by
  refine (firstFree_not_mem_or tries n).resolve_right fun hend => ?_
  -- then as many different ids as there were tries would be used
  have hsub : (List.range' n tries).map (numbered base) ⊆ used.toList := by
    intro id hid
    obtain ⟨m, hm, rfl⟩ := List.mem_map.mp hid
    obtain ⟨hle, hlt⟩ := List.mem_range'_1.mp hm
    exact Std.TreeSet.mem_toList.mpr (mem_of_lt_firstFree hle (hend ▸ hlt))
  have hnodup : ((List.range' n tries).map (numbered base)).Nodup :=
    List.Nodup.map (fun _ _ => numbered_inj) List.nodup_range'
  have hlength := hnodup.length_le_of_subset hsub
  rw [List.length_map, List.length_range', Std.TreeSet.length_toList] at hlength
  omega

/-! ### Runs -/

/-- A call of a pass: an id that the author has given is held, or the next one for a text is issued. -/
inductive IdCall where
  | hold (id : String)
  | issue (text : String)
deriving DecidableEq, Repr

/-- How often a run issues an id for a text; blanks do not count. -/
def occurrences (calls : List IdCall) (text : String) : Nat :=
  calls.countP fun
    | .hold _ => false
    | .issue other => spacedText other == spacedText text

namespace GivenIds

theorem issue_not_mem_used (ids : GivenIds) (text : String) : (ids.issue text).1 ∉ ids.used :=
  firstFree_not_mem (Nat.lt_add_one _) _

theorem mem_used_issue {ids : GivenIds} {text id : String} :
    id ∈ (ids.issue text).2.used ↔ id = (ids.issue text).1 ∨ id ∈ ids.used := by
  have hused : (ids.issue text).2.used = ids.used.insert (ids.issue text).1 := rfl
  rw [hused, Std.TreeSet.mem_insert, Std.LawfulEqOrd.compare_eq_iff_eq, eq_comm]

theorem mem_used_hold {ids : GivenIds} {given id : String} :
    id ∈ (ids.hold given).used ↔ id = given ∨ id ∈ ids.used := by
  rw [hold, Std.TreeSet.mem_insert, Std.LawfulEqOrd.compare_eq_iff_eq, eq_comm]

theorem mem_used_foldl_hold {id : String} (given : List String) (ids : GivenIds) :
    id ∈ (given.foldl hold ids).used ↔ id ∈ given ∨ id ∈ ids.used := by
  induction given generalizing ids with
  | nil => simp
  | cons g given ih => rw [List.foldl_cons, ih, mem_used_hold, List.mem_cons, or_left_comm, or_assoc]

/-- The ids after a call. -/
def call (ids : GivenIds) : IdCall → GivenIds
  | .hold id => ids.hold id
  | .issue text => (ids.issue text).2

/-- The id that a call takes. -/
def takes (ids : GivenIds) : IdCall → String
  | .hold id => id
  | .issue text => (ids.issue text).1

/-- The ids after a run of calls. -/
def after (ids : GivenIds) (calls : List IdCall) : GivenIds := calls.foldl call ids

/-- The ids that a run takes, in order. -/
def taken (ids : GivenIds) : List IdCall → List String
  | [] => []
  | c :: calls => ids.takes c :: (ids.call c).taken calls

theorem after_concat (ids : GivenIds) (calls : List IdCall) (c : IdCall) :
    ids.after (calls ++ [c]) = (ids.after calls).call c := by
  rw [after, List.foldl_append]
  rfl

theorem taken_concat (ids : GivenIds) (calls : List IdCall) (c : IdCall) :
    ids.taken (calls ++ [c]) = ids.taken calls ++ [(ids.after calls).takes c] := by
  induction calls generalizing ids with
  | nil => rfl
  | cons d calls ih => exact congrArg (ids.takes d :: ·) (ih (ids.call d))

end GivenIds

/-- The next id of a base: it is free, and of the numbers from `count` on, as of all numbers, its own is
the first whose id is free. -/
structure IsNextId (taken : List String) (base : String) (count : Nat) (id : String) : Prop where
  fresh : id ∉ taken
  first : ∃ n, count ≤ n ∧ id = numbered base n ∧ ∀ m, 1 ≤ m → m < n → numbered base m ∈ taken

/-- What is known of the ids after a run of calls that has taken some ids. -/
structure Follows (ids : GivenIds) (registry : SlugRegistry) (calls : List IdCall)
    (taken : List String) : Prop where
  registry_eq : ids.registry = registry
  mem_used : ∀ id, id ∈ ids.used ↔ id ∈ taken
  count : ∀ text, ids.occurrences.getD (spacedText text) 0 = occurrences calls text
  numbered : ∀ text m, 1 ≤ m → m ≤ occurrences calls text → numbered (registry.base text) m ∈ taken

namespace Follows

variable {ids : GivenIds} {registry : SlugRegistry} {calls : List IdCall} {taken : List String}

theorem start (registry : SlugRegistry) : Follows (.start registry) registry [] [] where
  registry_eq := rfl
  mem_used := by simp [GivenIds.start]
  count := by simp [GivenIds.start, occurrences]
  numbered := by
    intro text m hpos hle
    simp [occurrences] at hle
    omega

/-- The id that is issued is the next one. -/
theorem isNext (h : Follows ids registry calls taken) (text : String) :
    IsNextId taken (registry.base text) (occurrences calls text + 1) (ids.issue text).1 := by
  obtain ⟨n, hn⟩ : ∃ n, n = firstFree ids.used (registry.base text) (ids.used.size + 1)
    (occurrences calls text + 1) := ⟨_, rfl⟩
  have hid : (ids.issue text).1 = Outline.numbered (registry.base text) n := by
    simp only [GivenIds.issue, h.registry_eq, SlugRegistry.base_spacedText, h.count, hn]
  refine ⟨?_, n, hn ▸ le_firstFree _ _, hid, fun m hpos hlt => ?_⟩
  · rw [← h.mem_used]
    exact ids.issue_not_mem_used text
  · rcases Nat.lt_or_ge (occurrences calls text) m with hm | hm
    · exact (h.mem_used _).mp (mem_of_lt_firstFree hm (hn ▸ hlt))
    · exact h.numbered text m hpos hm

theorem hold (h : Follows ids registry calls taken) (id : String) :
    Follows (ids.hold id) registry (calls ++ [.hold id]) (taken ++ [id]) where
  registry_eq := h.registry_eq
  mem_used other := by
    rw [GivenIds.mem_used_hold, h.mem_used, List.mem_append, List.mem_singleton, or_comm]
  count text := by
    rw [occurrences, List.countP_append]
    exact h.count text
  numbered text m hpos hle := by
    rw [occurrences, List.countP_append] at hle
    exact List.mem_append_left _ (h.numbered text m hpos hle)

theorem occurrences_issue (calls : List IdCall) (text other : String) :
    occurrences (calls ++ [.issue text]) other =
      occurrences calls other + if spacedText text = spacedText other then 1 else 0 := by
  rw [occurrences, List.countP_append, List.countP_singleton]
  simp [occurrences]

theorem issue (h : Follows ids registry calls taken) (text : String) :
    Follows (ids.issue text).2 registry (calls ++ [.issue text]) (taken ++ [(ids.issue text).1]) where
  registry_eq := h.registry_eq
  mem_used other := by
    rw [GivenIds.mem_used_issue, h.mem_used, List.mem_append, List.mem_singleton, or_comm]
  count other := by
    rw [occurrences_issue]
    simp only [GivenIds.issue, Std.TreeMap.getD_insert, Std.LawfulEqOrd.compare_eq_iff_eq]
    split
    · rw [h.count text]
      simp only [occurrences, ‹spacedText text = spacedText other›]
    · exact h.count other
  numbered other m hpos hle := by
    rw [occurrences_issue] at hle
    rw [List.mem_append, List.mem_singleton]
    split at hle
    · rename_i hsame
      -- texts of one spacing have one base and one count
      have hbase : registry.base other = registry.base text := by
        rw [← registry.base_spacedText other, ← hsame, registry.base_spacedText]
      have hcount : occurrences calls other = occurrences calls text := by
        simp only [occurrences, hsame]
      obtain ⟨n, hn, hid, hbelow⟩ := (h.isNext text).first
      rw [hbase]
      rcases Nat.lt_or_ge m n with hlt | hge
      · exact .inl (hbelow m hpos hlt)
      · obtain rfl : m = n := by omega
        exact .inr hid.symm
    · exact .inl (h.numbered other m hpos hle)

theorem call (h : Follows ids registry calls taken) :
    ∀ c : IdCall, Follows (ids.call c) registry (calls ++ [c]) (taken ++ [ids.takes c])
  | .hold id => h.hold id
  | .issue text => h.issue text

theorem run (registry : SlugRegistry) (calls : List IdCall) :
    Follows ((GivenIds.start registry).after calls) registry calls
      ((GivenIds.start registry).taken calls) := by
  induction calls using List.reverseRecOn with
  | nil => exact start registry
  | append_singleton calls c ih =>
    rw [GivenIds.after_concat, GivenIds.taken_concat]
    exact ih.call c

end Follows

/-! ### Headings -/

/-- The id that the author has given to a heading of a list. -/
def givenAt (headings : List Heading) (i : Nat) : Option String := headings[i]?.bind (·.explicitId)

theorem getElem?_issueFrom_of_givenAt {id : String} (headings : List Heading) :
    ∀ (ids : GivenIds) (i : Nat), givenAt headings i = some id →
      (issueFrom ids headings)[i]? = some id := by
  induction headings with
  | nil => exact fun _ _ h => nomatch h
  | cons x rest ih =>
    intro ids i h
    rw [issueFrom]
    cases i with
    | zero =>
      have hx : x.explicitId = some id := h
      rw [hx]
      rfl
    | succ i =>
      cases x.explicitId with
      | some given => exact ih ids i h
      | none => exact ih (ids.issue x.text).2 i h

/-- The id of a heading is the one that the author has given, or it was free before. -/
theorem givenAt_or_not_mem_used {id : String} (headings : List Heading) :
    ∀ (ids : GivenIds) (i : Nat), (issueFrom ids headings)[i]? = some id →
      givenAt headings i = some id ∨ id ∉ ids.used := by
  induction headings with
  | nil => exact fun _ _ h => nomatch h
  | cons x rest ih =>
    intro ids i h
    rw [issueFrom] at h
    cases hx : x.explicitId with
    | some given =>
      rw [hx] at h
      cases i with
      | zero => exact .inl (hx.trans h)
      | succ i => exact ih ids i h
    | none =>
      rw [hx] at h
      cases i with
      | zero =>
        obtain rfl : (ids.issue x.text).1 = id := Option.some.inj h
        exact .inr (ids.issue_not_mem_used x.text)
      | succ i =>
        exact (ih (ids.issue x.text).2 i h).imp_right fun hfree hmem =>
          hfree (GivenIds.mem_used_issue.mpr (.inr hmem))

/-- Once the ids that the author has given are used, a later heading has the id of an earlier one only
if both were given it. -/
theorem givenAt_of_lt {id : String} (headings : List Heading) :
    ∀ (ids : GivenIds) {i j : Nat}, (∀ k given, givenAt headings k = some given → given ∈ ids.used) →
      i < j → (issueFrom ids headings)[i]? = some id → (issueFrom ids headings)[j]? = some id →
        givenAt headings i = some id ∧ givenAt headings j = some id := by
  induction headings with
  | nil => exact fun _ _ _ _ _ h => nomatch h
  | cons x rest ih =>
    intro ids i j hgiven hlt hi hj
    obtain ⟨j, rfl⟩ : ∃ k, j = k + 1 := ⟨j - 1, by omega⟩
    have hrest : ∀ k given, givenAt rest k = some given → given ∈ ids.used := fun k => hgiven (k + 1)
    rw [issueFrom] at hi hj
    cases hx : x.explicitId with
    | some given =>
      rw [hx] at hi hj
      cases i with
      | zero =>
        have hself : givenAt (x :: rest) 0 = some id := hx.trans hi
        have hused := hgiven 0 id hself
        have hlater := (givenAt_or_not_mem_used rest ids j hj).resolve_right fun hfree => hfree hused
        exact ⟨hself, hlater⟩
      | succ i => exact ih ids hrest (Nat.lt_of_succ_lt_succ hlt) hi hj
    | none =>
      rw [hx] at hi hj
      cases i with
      | zero =>
        -- an id that was issued is neither given nor issued again
        obtain rfl : (ids.issue x.text).1 = id := Option.some.inj hi
        rcases givenAt_or_not_mem_used rest (ids.issue x.text).2 j hj with hlater | hfree
        · exact absurd (hrest j _ hlater) (ids.issue_not_mem_used x.text)
        · exact absurd (GivenIds.mem_used_issue.mpr (.inl rfl)) hfree
      | succ i =>
        exact ih (ids.issue x.text).2
          (fun k given hk => GivenIds.mem_used_issue.mpr (.inr (hrest k given hk)))
          (Nat.lt_of_succ_lt_succ hlt) hi hj

/-- Two headings have one id exactly if the author has given it to both. -/
theorem issueIds_eq_iff (headings : List Heading) (registry : SlugRegistry) {i j : Nat} (hij : i ≠ j)
    (id : String) :
    (issueIds headings registry)[i]? = some id ∧ (issueIds headings registry)[j]? = some id ↔
      givenAt headings i = some id ∧ givenAt headings j = some id := by
  constructor
  · rintro ⟨hi, hj⟩
    have hheld : ∀ k given, givenAt headings k = some given → given ∈
        ((headings.filterMap (·.explicitId)).foldl GivenIds.hold (GivenIds.start registry)).used := by
      intro k given hk
      obtain ⟨x, hx, hid⟩ := Option.bind_eq_some_iff.mp hk
      rw [GivenIds.mem_used_foldl_hold]
      exact .inl (List.mem_filterMap.mpr ⟨x, List.mem_of_getElem? hx, hid⟩)
    rcases Nat.lt_or_gt_of_ne hij with hlt | hgt
    · exact givenAt_of_lt headings _ hheld hlt hi hj
    · exact (givenAt_of_lt headings _ hheld hgt hj hi).symm
  · rintro ⟨hi, hj⟩
    exact ⟨getElem?_issueFrom_of_givenAt headings _ i hi, getElem?_issueFrom_of_givenAt headings _ j hj⟩

/-- **Ids are fresh**: after any run of calls the id that is issued for a text is the next one of its
base, free and with the first number that is free; and two headings of a document have one id exactly if
the author has given it to both. -/
theorem issue_fresh (registry : SlugRegistry) :
    (∀ (calls : List IdCall) (text : String),
      IsNextId ((GivenIds.start registry).taken calls) (registry.base text)
        (occurrences calls text + 1) (((GivenIds.start registry).after calls).issue text).1) ∧
    ∀ (headings : List Heading) (i j : Nat), i ≠ j → ∀ id : String,
      (issueIds headings registry)[i]? = some id ∧ (issueIds headings registry)[j]? = some id ↔
        givenAt headings i = some id ∧ givenAt headings j = some id :=
  ⟨fun calls text => (Follows.run registry calls).isNext text,
    fun headings _ _ hij id => issueIds_eq_iff headings registry hij id⟩

/-- A run in which the second and the third id of a text are the author's, and the second is also the
base of another text. -/
def introCalls : List IdCall :=
  [.hold "intro-2", .issue "Intro", .issue " Intro  2", .hold "intro-3"]

/-- The second heading of that text gets the fourth id, and an id that the author has given twice is on
both headings. -/
theorem issue_fresh_introCalls :
    (GivenIds.start .empty).taken introCalls = ["intro-2", "intro", "intro-2-2", "intro-3"] ∧
      IsNextId ["intro-2", "intro", "intro-2-2", "intro-3"] "intro" 2 "intro-4" ∧
      0 ≠ 2 ∧
      (issueIds [⟨2, "A", some "own"⟩, ⟨2, "Own", none⟩, ⟨3, "B", some "own"⟩] .empty)[0]? = some "own" ∧
      (issueIds [⟨2, "A", some "own"⟩, ⟨2, "Own", none⟩, ⟨3, "B", some "own"⟩] .empty)[2]? =
        some "own" := by
  have htaken : (GivenIds.start .empty).taken introCalls =
      ["intro-2", "intro", "intro-2-2", "intro-3"] := by decide +kernel
  have hbase : SlugRegistry.empty.base "Intro" = "intro" := by decide +kernel
  have hid : (((GivenIds.start .empty).after introCalls).issue "Intro").1 = "intro-4" := by
    decide +kernel
  have hcount : occurrences introCalls "Intro" = 1 := by decide +kernel
  have hnext := (issue_fresh .empty).1 introCalls "Intro"
  rw [htaken, hbase, hid, hcount] at hnext
  have hshared := ((issue_fresh .empty).2
    [⟨2, "A", some "own"⟩, ⟨2, "Own", none⟩, ⟨3, "B", some "own"⟩] 0 2 (by decide) "own").mpr
      ⟨rfl, rfl⟩
  exact ⟨htaken, hnext, by decide, hshared.1, hshared.2⟩

end Outline

end Folio
