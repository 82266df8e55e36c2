import Mathlib.Data.List.Nodup
import Folio.Proofs.PathSegments
import Folio.Proofs.PathTables
import Folio.Routing.AliasGraph

/-! # The entries of an alias graph

An alias puts the same slugs behind its short path and behind its target.  Expanding the aliases of a
manifest one after the other, and writing the declared ones last, comes to one sequence of insertions
(`expanded_build`): what is derived from each alias, then the aliases themselves.  So an entry of the
graph extends the two sides of one alias by the same slug, every slug has its entry, and nothing that is
derived hides a declared alias (`build_entries`).

Derived paths of different aliases meet, and paths with segments that are not names can be equal though
their segments are not.  Two extended paths are compared by what is written behind the root
(`extend_eq_extend_iff`), so nothing is asked of the names on disk. -/

namespace Folio

/-! ### Extended paths -/

namespace ContentPath

/-- What is written for the segments of a path behind the root. -/
def written (segments : List String) : List Char :=
  ((segments.map String.toList).filter (· ≠ [])).flatMap ('/' :: ·)

theorem written_append (a b : List String) : written (a ++ b) = written a ++ written b := by
  simp [written]

/-- A lone slash stands for no segments. -/
theorem written_ne_slash (segments : List String) : written segments ≠ ['/'] := by
  unfold written
  cases h : (segments.map String.toList).filter (· ≠ []) with
  | nil => simp
  | cons s rest =>
    have hmem : s ∈ (segments.map String.toList).filter (· ≠ []) := h ▸ List.mem_cons_self
    have hs : s ≠ [] := of_decide_eq_true (List.mem_filter.mp hmem).2
    simp [hs]

theorem text_ofSegments (segments : List String) :
    (ofSegments segments).text =
      String.ofList (if written segments = [] then ['/'] else written segments) := by
  rw [ofSegments, render, written]
  cases (segments.map String.toList).filter (· ≠ []) <;> simp

variable {a b c d : List String} {p q : ContentPath}

theorem ofSegments_eq_ofSegments_iff : ofSegments a = ofSegments b ↔ written a = written b := by
  have htext : ofSegments a = ofSegments b ↔ (ofSegments a).text = (ofSegments b).text :=
    ⟨congrArg text, fun h => congrArg ContentPath.mk h⟩
  rw [htext, text_ofSegments, text_ofSegments, String.ofList_inj]
  constructor
  · intro h
    split at h <;> split at h
    · simp [*]
    · exact absurd h.symm (written_ne_slash b)
    · exact absurd h (written_ne_slash a)
    · exact h
  · intro h
    rw [h]

theorem extend_eq_extend_iff :
    p.extend c = q.extend d ↔
      written p.segments ++ written c = written q.segments ++ written d := by
  rw [extend, extend, ofSegments_eq_ofSegments_iff, written_append, written_append]

/-- The same segments behind different paths lead to different paths. -/
theorem extend_left_cancel (h : p.extend c = q.extend c) : p.extend [] = q.extend [] := by
  rw [extend_eq_extend_iff] at h ⊢
  rw [List.append_cancel_right h]

theorem extend_nil_ofString (raw : String) : (ofString raw).extend [] = ofString raw := by
  rw [extend, List.append_nil, segments_ofString, ← ofString_eq_ofSegments]

end ContentPath

namespace AliasGraph

/-! ### Insertions -/

/-- The aliases of a manifest that do not point at themselves. -/
def entries (manifest : RawManifest) : List (ContentPath × ContentPath) :=
  (declared manifest).filter fun e => e.1 ≠ e.2

/-- The slugs of a walk that are put behind a short path; where the walk failed, only the empty one. -/
def keptSlugs (reserved : List String) (key : ContentPath) : Except TreeError (List Slug) → List Slug
  | .ok slugs => slugs.filter fun c => c = [] || !isReserved reserved (key.extend c)
  | .error _ => [[]]

section Expansion

variable (tree : ContentTree) (reserved : List String)

/-- The slugs that are put behind an alias; the empty one is the alias itself. -/
def suffixes (e : ContentPath × ContentPath) : List Slug :=
  keptSlugs reserved e.1 (tree.slugsUnder e.2)

/-- What is derived from an alias. -/
def derived (e : ContentPath × ContentPath) : List (ContentPath × ContentPath) :=
  (suffixes tree reserved e).map fun c => (e.1.extend c, e.2.extend c)

/-- A table with further entries, written one after the other. -/
def insertAll (table : PathMap) (l : List (ContentPath × ContentPath)) : PathMap :=
  l.foldl (fun m e => m.insert e.1 e.2) table

/-- Both sides of an alias are in normal form. -/
def Normal (e : ContentPath × ContentPath) : Prop := e.1.extend [] = e.1 ∧ e.2.extend [] = e.2

variable {tree reserved} {manifest : RawManifest} {e : ContentPath × ContentPath}

theorem normal_of_mem_declared (h : e ∈ declared manifest) : Normal e := by
  obtain ⟨raw, -, rfl⟩ := List.mem_map.mp h
  exact ⟨ContentPath.extend_nil_ofString raw.1, ContentPath.extend_nil_ofString raw.2⟩

theorem mem_entries_iff : e ∈ entries manifest ↔ e ∈ declared manifest ∧ e.1 ≠ e.2 := by
  simp [entries]

theorem normal_of_mem_entries (h : e ∈ entries manifest) : Normal e :=
  normal_of_mem_declared (mem_entries_iff.mp h).1

/-- The slugs below the target of an alias that are put behind it. -/
theorem mem_suffixes_iff {slugs : List Slug} (walked : tree.slugsUnder e.2 = .ok slugs) {c : Slug} :
    c ∈ suffixes tree reserved e ↔
      c ∈ slugs ∧ (c = [] ∨ isReserved reserved (e.1.extend c) = false) := by
  simp [suffixes, keptSlugs, walked]

/-- One slug after the other, all but the reserved ones are inserted. -/
theorem foldl_addSlug_eq (he : Normal e) (slugs : List Slug) (table : PathMap) :
    slugs.foldl (addSlug reserved e.1 e.2) table =
      insertAll table ((slugs.filter fun c => c = [] || !isReserved reserved (e.1.extend c)).map
        fun c => (e.1.extend c, e.2.extend c)) := by
  induction slugs generalizing table with
  | nil => rfl
  | cons c slugs ih =>
    rw [List.foldl_cons, ih, addSlug]
    by_cases hc : c = []
    · -- the alias itself, as it is in normal form
      subst hc
      simp [insertAll, he.1, he.2]
    · cases hr : isReserved reserved (e.1.extend c) <;> simp [insertAll, hc, hr]

variable (tree reserved)

/-- What expanding one alias does to the table. -/
theorem expandOne_fst (he : Normal e) (state : PathMap × List Diagnostic) :
    (expandOne tree reserved state e).1 =
      if e.1 ≠ e.2 then insertAll state.1 (derived tree reserved e) else state.1 := by
  obtain ⟨key, target⟩ := e
  by_cases hself : key = target
  · simp [expandOne, hself]
  · rw [expandOne, if_neg hself, if_pos hself, derived, suffixes]
    dsimp only
    cases tree.slugsUnder target with
    | ok slugs => exact foldl_addSlug_eq he slugs state.1
    | error err => simp [keptSlugs, insertAll, he.1, he.2]

theorem foldl_expandOne_fst (l : List (ContentPath × ContentPath)) (hl : ∀ e ∈ l, Normal e)
    (state : PathMap × List Diagnostic) :
    (l.foldl (expandOne tree reserved) state).1 =
      insertAll state.1 ((l.filter fun e => e.1 ≠ e.2).flatMap (derived tree reserved)) := by
  induction l generalizing state with
  | nil => rfl
  | cons e l ih =>
    have he := expandOne_fst tree reserved (hl e List.mem_cons_self) state
    rw [List.foldl_cons, ih fun e he => hl e (List.mem_cons_of_mem _ he), he]
    by_cases hself : e.1 = e.2
    · simp [hself]
    · simp [hself, insertAll, List.foldl_append]

variable (manifest)

/-- The table of a manifest: what is derived from its aliases, and the aliases over it. -/
theorem expanded_build :
    (build manifest tree reserved).1.expanded =
      insertAll ∅ ((entries manifest).flatMap (derived tree reserved) ++ entries manifest) := by
  have hfold := foldl_expandOne_fst tree reserved (declared manifest)
    (fun e he => normal_of_mem_declared he) (∅, [])
  calc (build manifest tree reserved).1.expanded
      = insertAll ((declared manifest).foldl (expandOne tree reserved) (∅, [])).1
          (entries manifest) := rfl
    _ = insertAll (insertAll ∅ ((entries manifest).flatMap (derived tree reserved)))
          (entries manifest) := congrArg (insertAll · (entries manifest)) hfold
    _ = _ := List.foldl_append.symm

/-! ### Short paths and their targets -/

variable {tree reserved manifest} {p t : ContentPath}

/-- Where the entries of a graph come from. -/
theorem exists_of_target?_build (h : (build manifest tree reserved).1.target? p = some t) :
    ∃ e ∈ entries manifest, ∃ c, (c = [] ∨ c ∈ suffixes tree reserved e) ∧
      p = e.1.extend c ∧ t = e.2.extend c := by
  rw [target?, expanded_build, insertAll] at h
  obtain ⟨a, ha, rfl, rfl⟩ :=
    (mem_or_of_getElem?_foldl_insert Prod.fst Prod.snd _ ∅ h).resolve_right (by simp)
  rcases List.mem_append.mp ha with ha | ha
  · obtain ⟨e, he, ha⟩ := List.mem_flatMap.mp ha
    obtain ⟨c, hc, rfl⟩ := List.mem_map.mp ha
    exact ⟨e, he, c, .inr hc, rfl, rfl⟩
  · have hnormal := normal_of_mem_entries ha
    exact ⟨a, ha, [], .inl rfl, hnormal.1.symm, hnormal.2.symm⟩

/-- The short paths of a graph are those of the aliases, with the slugs that are put behind them. -/
theorem isKey_build_iff :
    (build manifest tree reserved).1.isKey p = true ↔
      ∃ e ∈ entries manifest, ∃ c, (c = [] ∨ c ∈ suffixes tree reserved e) ∧ p = e.1.extend c := by
  have hsome : (build manifest tree reserved).1.isKey p = true ↔
      ∃ t, (build manifest tree reserved).1.target? p = some t := by
    rw [isKey, target?, Std.TreeMap.contains_eq_isSome_getElem?, Option.isSome_iff_exists]
  rw [hsome]
  constructor
  · rintro ⟨t, ht⟩
    obtain ⟨e, he, c, hc, hp, -⟩ := exists_of_target?_build ht
    exact ⟨e, he, c, hc, hp⟩
  · rintro ⟨e, he, c, hc, rfl⟩
    rw [← hsome, isKey, expanded_build, insertAll, Std.TreeMap.contains_iff_mem,
      mem_foldl_iff (fun e p => e.1 = p) (fun m e p => by simp [Std.TreeMap.mem_insert])]
    refine .inl ?_
    rcases hc with rfl | hc
    · exact ⟨e, List.mem_append_right _ he, (normal_of_mem_entries he).1.symm⟩
    · have hderived : (e.1.extend c, e.2.extend c) ∈ derived tree reserved e :=
        List.mem_map.mpr ⟨c, hc, rfl⟩
      exact ⟨_, List.mem_append_left _ (List.mem_flatMap.mpr ⟨e, he, hderived⟩), rfl⟩

/-- The two sides of an entry differ, as those of its alias do. -/
theorem ne_of_target?_build (h : (build manifest tree reserved).1.target? p = some t) : p ≠ t := by
  obtain ⟨e, he, c, -, rfl, rfl⟩ := exists_of_target?_build h
  obtain ⟨hkey, htarget⟩ := normal_of_mem_entries he
  intro hsame
  have := ContentPath.extend_left_cancel hsame
  rw [hkey, htarget] at this
  exact (mem_entries_iff.mp he).2 this

/-- A reserved short path is one that the manifest declares. -/
theorem exists_of_isReserved (hr : isReserved reserved p = true)
    (h : (build manifest tree reserved).1.isKey p = true) : ∃ e ∈ entries manifest, e.1 = p := by
  obtain ⟨e, he, c, hc, rfl⟩ := isKey_build_iff.mp h
  refine ⟨e, he, ?_⟩
  have hnil : c = [] := by
    rcases hc with hc | hc
    · exact hc
    · cases hwalk : tree.slugsUnder e.2 with
      | error err => simpa [suffixes, keptSlugs, hwalk] using hc
      | ok slugs => simpa [hr] using ((mem_suffixes_iff hwalk).mp hc).2
  rw [hnil, (normal_of_mem_entries he).1]

/-- Where the short paths of a manifest are distinct, an alias is alone with its own. -/
theorem target_eq_of_mem_entries (distinct : ((declared manifest).map Prod.fst).Nodup)
    {e' : ContentPath × ContentPath} (he : e ∈ entries manifest) (he' : e' ∈ entries manifest)
    (hkey : e'.1 = e.1) : e'.2 = e.2 := by
  have hsame : e' = e := List.inj_on_of_nodup_map distinct (mem_entries_iff.mp he').1
    (mem_entries_iff.mp he).1 hkey
  rw [hsame]

/-- An alias of the manifest is an entry if no other alias has its short path. -/
theorem target?_build_of_mem (he : e ∈ entries manifest)
    (distinct : ∀ e' ∈ entries manifest, e'.1 = e.1 → e'.2 = e.2) :
    (build manifest tree reserved).1.target? e.1 = some e.2 := by
  rw [target?, expanded_build, insertAll, List.foldl_append]
  exact getElem?_foldl_insert_of_mem Prod.fst Prod.snd (entries manifest) _ he distinct

/-- **Entries of an alias graph**: an entry leads from one path to another one, and the two are the sides
of an alias of the manifest with the same slug behind them, the empty one or one from below the target.
Every slug from below the target has its short path unless that is reserved, and a reserved short path is
declared.  Where the short paths of the manifest are distinct, each alias is an entry as it is
declared. -/
theorem build_entries (manifest : RawManifest) (tree : ContentTree) (reserved : List String) :
    let graph := (build manifest tree reserved).1
    (∀ p t, graph.target? p = some t → p ≠ t ∧ ∃ e ∈ entries manifest, ∃ c,
      (c = [] ∨ ∃ slugs, tree.slugsUnder e.2 = .ok slugs ∧ c ∈ slugs) ∧
        p = e.1.extend c ∧ t = e.2.extend c) ∧
    (∀ e ∈ entries manifest, ∀ slugs, tree.slugsUnder e.2 = .ok slugs → ∀ c ∈ slugs, c ≠ [] →
      isReserved reserved (e.1.extend c) = false → graph.isKey (e.1.extend c) = true) ∧
    (∀ p, isReserved reserved p = true → graph.isKey p = true → ∃ e ∈ entries manifest, e.1 = p) ∧
    (((declared manifest).map Prod.fst).Nodup →
      ∀ e ∈ entries manifest, graph.target? e.1 = some e.2) := by
  intro graph
  refine ⟨?sound, ?complete, fun p hr h => exists_of_isReserved hr h, ?declared⟩
  case sound =>
    intro p t h
    obtain ⟨e, he, c, hc, hp, ht⟩ := exists_of_target?_build h
    refine ⟨ne_of_target?_build h, e, he, c, ?_, hp, ht⟩
    rcases hc with hc | hc
    · exact .inl hc
    · cases hwalk : tree.slugsUnder e.2 with
      | error err => exact .inl (by simpa [suffixes, keptSlugs, hwalk] using hc)
      | ok slugs => exact .inr ⟨slugs, rfl, ((mem_suffixes_iff hwalk).mp hc).1⟩
  case complete =>
    intro e he slugs hwalk c hc _ hr
    exact isKey_build_iff.mpr ⟨e, he, c, .inr ((mem_suffixes_iff hwalk).mpr ⟨hc, .inr hr⟩), rfl⟩
  case declared =>
    intro distinct e he
    exact target?_build_of_mem he fun e' he' => target_eq_of_mem_entries distinct he he'

/-! ### Two aliases that meet -/

/-- A handbook with a guide, and notes. -/
def guideAndNotes : ContentTree :=
  ⟨⟨.dir "content" (.dir "handbook" (.dir "guides" (.file "one.md" (.text "One") .nil) .nil)
    (.dir "notes" (.file "two.md" (.text "Two") .nil) .nil)) .nil, []⟩, ⟨"content"⟩⟩

/-- A short path for the handbook, and one for the notes at the place of the guides. -/
def meetingAliases : RawManifest := .ofList [("/h", "handbook"), ("h/guides/", "/notes")]

/-- The guides of the handbook and the notes meet at one short path: it leads to the notes, as declared.
The reserved short path is left out. -/
theorem build_entries_meetingAliases :
    ((declared meetingAliases).map Prod.fst).Nodup ∧
    (entries meetingAliases).map (fun e => (e.1.text, e.2.text)) =
      [("/h", "/handbook"), ("/h/guides", "/notes")] ∧
    (∃ slugs, guideAndNotes.slugsUnder ⟨"/handbook"⟩ = .ok slugs ∧ ["guides"] ∈ slugs) ∧
    (∀ e ∈ entries meetingAliases,
      (build meetingAliases guideAndNotes ["h/guides/one"]).1.target? e.1 = some e.2) ∧
    (build meetingAliases guideAndNotes ["h/guides/one"]).1.isKey ⟨"/h/guides/two"⟩ = true ∧
    (build meetingAliases guideAndNotes ["h/guides/one"]).1.isKey ⟨"/h/guides/one"⟩ = false := by
  have hdeclared : declared meetingAliases =
      [(⟨"/h"⟩, ⟨"/handbook"⟩), (⟨"/h/guides"⟩, ⟨"/notes"⟩)] := by rfl
  have hnodup : ((declared meetingAliases).map Prod.fst).Nodup := by simp [hdeclared]
  obtain ⟨-, hcomplete, hreserved, hkept⟩ :=
    build_entries meetingAliases guideAndNotes ["h/guides/one"]
  refine ⟨hnodup, by simp [entries, hdeclared], ?_, hkept hnodup, ?_, ?_⟩
  · exact ⟨[["guides"], ["guides", "one"]], by rfl, by decide⟩
  · exact hcomplete (⟨"/h/guides"⟩, ⟨"/notes"⟩) (by simp [entries, hdeclared]) [["two"]] (by rfl)
      ["two"] (by decide) (by decide) (by rfl)
  · refine Bool.eq_false_iff.mpr fun h => ?_
    obtain ⟨e, he, hkey⟩ := hreserved ⟨"/h/guides/one"⟩ (by rfl) h
    simp only [entries, hdeclared] at he
    simp at he
    rcases he with rfl | rfl <;> simp at hkey

end Expansion

end AliasGraph

end Folio
