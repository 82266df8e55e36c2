import Folio.Proofs.SourceRoutes

/-! # Which source has a route

The walk of a content tree comes to every file once (`Listing.WellNamed.walkedFiles_nodup`), and different
files have different paths on disk (`Config.sourceOf_inj`).  The table of sources is a fold that
puts a file in the place of another if its rank is lower.  One step keeps the first of the lowest rank
(`Sources.Holds.offer`), so in the end a route belongs to the file that no other one outranks
(`Config.exists_first`). -/

namespace Folio

open DiskPath (IsStep)

/-! ### Visible files -/

namespace Listing

variable {l : Listing} {path : List String}

theorem find?_ne_none_of_mem_names {e : String × Bool} (h : e ∈ l.names) : l.find? e.1 ≠ none := by
  induction l with
  | nil => cases h
  | file n c next ih =>
    rw [find?]
    split
    · simp
    · rename_i hne
      exact ih (List.mem_of_ne_of_mem (fun he => hne (by rw [he])) h)
  | dir n i next _ ih | closed n i next _ ih =>
    rw [find?]
    split
    · simp
    · rename_i hne
      exact ih (List.mem_of_ne_of_mem (fun he => hne (by rw [he])) h)

/-- The first name on the way to a visible file is that of an entry. -/
theorem exists_mem_names_of_mem_visibleFiles (h : path ∈ l.visibleFiles []) :
    ∃ e ∈ l.names, ∃ rest, path = e.1 :: rest := by
  rcases mem_visibleFiles_iff.mp h with ⟨name, hname, rfl⟩ | ⟨name, inside, hdir, -, rest, -, rfl⟩
  · exact ⟨_, (mem_visible_iff.mp hname).1, [], rfl⟩
  · exact ⟨_, hdir.mem_names, rest, rfl⟩

theorem exists_cons_of_mem_visibleFiles (h : path ∈ l.visibleFiles []) :
    ∃ name rest, path = name :: rest ∧ l.find? name ≠ none := by
  obtain ⟨e, he, rest, rfl⟩ := exists_mem_names_of_mem_visibleFiles h
  exact ⟨e.1, rest, rfl, find?_ne_none_of_mem_names he⟩

/-- The names on the way to a visible file are steps down. -/
theorem WellNamed.isStep_of_mem_visibleFiles (hl : l.WellNamed) (h : path ∈ l.visibleFiles []) :
    ∀ s ∈ path, IsStep s.toList := by
  intro s hs
  obtain ⟨hname, hidden⟩ := hl.isName_of_mem_visibleFiles h s hs
  exact isStep_of_isHidden_eq_false hname hidden

end Listing

namespace Config

/-! ### Files as sources -/

/-- A file as a source. -/
def sourceOf (c : Config) (names : List String) : Source :=
  let path := ContentPath.ofString (relativeText names)
  ⟨path, path.route, c.contentDirectory.joinAll names, routeRank (names.getLastD "")⟩

variable {c : Config} {names names' : List String} {s : Source}

theorem route_sourceOf (c : Config) (names : List String) :
    (c.sourceOf names).route = (ContentPath.ofString (relativeText names)).route := by rw [sourceOf]

variable [Engines]

/-- A configuration asks for a file: it is markdown, no ignore pattern fits its path, and its route is not
excluded. -/
structure Admits (c : Config) (names : List String) : Prop where
  markdown : isMarkdownName (names.getLastD "") = true
  unmatched : ∀ p ∈ c.patterns, p (relativeText names) = false
  included : c.excludes (ContentPath.ofString (relativeText names)).route = false

theorem source?_eq_some_iff : c.source? c.patterns names = some s ↔ c.Admits names ∧ c.sourceOf names = s := by
  unfold source?
  dsimp only
  split
  · rename_i hout
    refine ⟨nofun, fun ⟨h, _⟩ => ?_⟩
    have hunmatched : c.patterns.any (· (relativeText names)) = false := by
      simpa using h.unmatched
    rw [h.markdown, hunmatched, h.included] at hout
    cases hout
  · rename_i hin
    simp only [Bool.or_eq_true, not_or, Bool.not_eq_true, Bool.not_eq_false', List.any_eq_false] at hin
    rw [Option.some.injEq]
    exact ⟨fun h => ⟨⟨hin.1.1, hin.1.2, hin.2⟩, h⟩, fun h => h.2⟩

/-- The candidates are the files that are walked to and asked for. -/
theorem mem_candidates {content : Listing} :
    s ∈ c.candidates content ↔ ∃ names ∈ content.walkedFiles, c.Admits names ∧ c.sourceOf names = s := by
  simp only [mem_candidates_iff, source?_eq_some_iff]

end Config

/-! ### The first of the lowest rank -/

/-- `IsFirst r w ss`: of the sources with the route `r`, `w` has the lowest rank and is the first that
has it. -/
def Sources.IsFirst (r : ContentPath) (w : Source) (ss : List Source) : Prop :=
  ∃ before after, ss = before ++ w :: after ∧ w.route = r ∧ (∀ t ∈ before, t.route = r → w.rank < t.rank) ∧
    ∀ t ∈ after, t.route = r → w.rank ≤ t.rank

/-- What a table holds after some sources: the first of the lowest rank for every route that one of them
has. -/
def Sources.Holds (sources : Sources) (ss : List Source) : Prop :=
  ∀ r, match sources[r]? with
    | some w => IsFirst r w ss
    | none => ∀ t ∈ ss, t.route ≠ r

namespace Sources

variable {sources : Sources} {ss : List Source} {s w : Source} {r : ContentPath}

/-- A source that comes later takes the place only of one of a higher rank. -/
theorem IsFirst.append_singleton (h : IsFirst r w ss) (hs : s.route = r → w.rank ≤ s.rank) :
    IsFirst r w (ss ++ [s]) := by
  obtain ⟨before, after, rfl, hroute, hbefore, hafter⟩ := h
  refine ⟨before, after ++ [s], by simp, hroute, hbefore, fun t ht => ?_⟩
  rcases List.mem_append.mp ht with ht | ht
  · exact hafter t ht
  · rw [List.mem_singleton.mp ht]
    exact hs

theorem IsFirst.rank_le (h : IsFirst r w ss) {t : Source} (ht : t ∈ ss) (hroute : t.route = r) :
    w.rank ≤ t.rank := by
  obtain ⟨before, after, rfl, -, hbefore, hafter⟩ := h
  rcases List.mem_append.mp ht with ht | ht
  · exact Nat.le_of_lt (hbefore t ht hroute)
  · rcases List.mem_cons.mp ht with rfl | ht
    · exact Nat.le_refl _
    · exact hafter t ht hroute

theorem isFirst_of_insert (hs : s.route = r) (h : ∀ t ∈ ss, t.route = r → s.rank < t.rank) :
    IsFirst r s (ss ++ [s]) := ⟨ss, [], rfl, hs, h, nofun⟩

/-- What a table holds is kept when a source is offered. -/
theorem Holds.offer (h : sources.Holds ss) (s : Source) : (sources.offer s).Holds (ss ++ [s]) := by
  -- a lookup after the offer, by what the route of the offered source holds
  intro r
  have hr := h r
  by_cases hroute : s.route = r
  · subst hroute
    unfold Sources.offer
    cases hheld : sources[s.route]? with
    | none =>
      rw [hheld] at hr
      have hfirst : IsFirst s.route s (ss ++ [s]) := isFirst_of_insert rfl fun t ht he => absurd he (hr t ht)
      simpa using hfirst
    | some held =>
      rw [hheld] at hr
      by_cases hle : held.rank ≤ s.rank
      · have hfirst : IsFirst s.route held (ss ++ [s]) := hr.append_singleton fun _ => hle
        simpa [hle, hheld] using hfirst
      · have hfirst : IsFirst s.route s (ss ++ [s]) := by
          refine isFirst_of_insert rfl fun t ht he => ?_
          have := hr.rank_le ht he
          omega
        simpa [hle] using hfirst
  · have hkept : (sources.offer s)[r]? = sources[r]? := by
      have hinsert : (sources.insert s.route s)[r]? = sources[r]? := by
        rw [Std.TreeMap.getElem?_insert, if_neg fun he => hroute (Std.LawfulEqCmp.eq_of_compare he)]
      unfold Sources.offer
      split
      · split
        · rfl
        · exact hinsert
      · exact hinsert
    rw [hkept]
    cases hheld : sources[r]? with
    | none =>
      rw [hheld] at hr
      intro t ht
      rcases List.mem_append.mp ht with ht | ht
      · exact hr t ht
      · rw [List.mem_singleton.mp ht]
        exact hroute
    | some held =>
      rw [hheld] at hr
      exact hr.append_singleton fun he => absurd he hroute

/-- The table of some sources holds the first of the lowest rank for every route. -/
theorem holds_ofList (ss : List Source) : (ofList ss).Holds ss := by
  have hrun : ∀ (after before : List Source) (sources : Sources), sources.Holds before →
      (after.foldl Sources.offer sources).Holds (before ++ after) := by
    intro after
    induction after with
    | nil =>
      intro before sources h
      simpa using h
    | cons s after ih =>
      intro before sources h
      rw [List.foldl_cons, List.append_cons]
      exact ih _ _ (h.offer s)
  have hempty : Sources.Holds ∅ [] := by
    intro r
    simp
  exact hrun ss [] ∅ hempty

end Sources

/-- Where the parts of a split list stand. -/
theorem mem_of_getElem?_append_cons {α : Type} {before after : List α} {a b : α} {j : Nat}
    (h : (before ++ a :: after)[j]? = some b) :
    (j < before.length ∧ b ∈ before) ∨ (j = before.length ∧ b = a) ∨ (before.length < j ∧ b ∈ after) := by
  rcases Nat.lt_trichotomy j before.length with hlt | rfl | hgt
  · rw [List.getElem?_append_left hlt] at h
    exact .inl ⟨hlt, List.mem_of_getElem? h⟩
  · exact .inr (.inl ⟨rfl, by simpa using h.symm⟩)
  · obtain ⟨n, rfl⟩ := Nat.exists_eq_add_of_lt hgt
    rw [List.getElem?_append_right (Nat.le_of_lt hgt)] at h
    have hindex : before.length + n + 1 - before.length = n + 1 := by omega
    rw [hindex, List.getElem?_cons_succ] at h
    exact .inr (.inr ⟨hgt, List.mem_of_getElem? h⟩)

namespace Config

/-- Of two files, each with its rank and its position in the walk, the first outranks the second: its rank
is lower, or the ranks are the same and it stands earlier. -/
def Outranks (a b : Nat × Nat) : Prop := a.1 < b.1 ∨ a.1 = b.1 ∧ a.2 < b.2

variable [Engines] {c : Config} {content : Listing} {r : ContentPath} {w : Source}

/-- The source of a route is a file that no other file with this route outranks: none has a lower rank, or
the same at an earlier position of the walk. -/
theorem exists_first (h : (Sources.ofList (c.candidates content))[r]? = some w) :
    w.route = r ∧ ∃ k names, content.walkedFiles[k]? = some names ∧ c.Admits names ∧
      c.sourceOf names = w ∧ ∀ j names', content.walkedFiles[j]? = some names' → c.Admits names' →
        (c.sourceOf names').route = r →
          ¬ Outranks ((c.sourceOf names').rank, j) (w.rank, k) := by
  have hheld := Sources.holds_ofList (c.candidates content) r
  rw [h] at hheld
  obtain ⟨before, after, hsplit, hroute, hbefore, hafter⟩ := hheld
  obtain ⟨early, late, hfiles, hearly, hlate⟩ := List.filterMap_eq_append_iff.mp hsplit
  obtain ⟨others, names, later, rfl, hothers, hnames, hlater⟩ := List.filterMap_eq_cons_iff.mp hlate
  obtain ⟨hadmits, hsource⟩ := source?_eq_some_iff.mp hnames
  refine ⟨hroute, (early ++ others).length, names, by simp [hfiles], hadmits, hsource, ?_⟩
  intro j names' hj hadmits' hroute' houtranks
  have hsource' := source?_eq_some_iff.mpr ⟨hadmits', rfl⟩
  dsimp only [Outranks] at houtranks
  rw [hfiles, ← List.append_assoc] at hj
  rcases mem_of_getElem?_append_cons hj with ⟨hlt, hmem⟩ | ⟨rfl, rfl⟩ | ⟨hgt, hmem⟩
  · -- an earlier file is among those that the table took before
    have hearlier : names' ∈ early := by
      refine (List.mem_append.mp hmem).resolve_right fun hm => ?_
      rw [hothers names' hm] at hsource'
      cases hsource'
    have := hbefore _ (hearly ▸ List.mem_filterMap.mpr ⟨names', hearlier, hsource'⟩) hroute'
    omega
  · rw [hsource] at houtranks
    omega
  · have := hafter _ (hlater ▸ List.mem_filterMap.mpr ⟨names', hmem, hsource'⟩) hroute'
    omega

end Config

/-- The table of a site is that of the files below its content directory. -/
theorem Site.sources_eq [Engines] {site : Site} {disk : Disk} {content : Listing} {root : DiskPath}
    (htree : site.tree = ⟨disk, root⟩) (hcontent : disk.dirAt? root = some content) :
    site.sources = Sources.ofList (site.config.candidates content) := by
  rw [sources, htree]
  dsimp only
  rw [hcontent]

end Folio
