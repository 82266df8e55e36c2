import Folio.Proofs.SourceTable
import Folio.Proofs.WrittenFiles

/-! # The order of the walk

The visible files of a content tree stand in the order of their names, compared one after the other
(`Listing.Ordered.visibleFiles_pairwise`), and they are the files that are found by names none of which is
hidden (`Listing.WellNamed.mem_visibleFiles_iff_fileAt?`).  The walk that looks for sources comes to those that
are no links (`Listing.WellNamed.mem_walkedFiles_iff`). -/

namespace Folio

namespace Listing

variable {l inside : Listing} {names dirs : List String} {name : String}

/-! ### Entries in order -/

theorem Ordered.descend? (hl : l.Ordered) (h : l.descend? dirs = some inside) : inside.Ordered :=
  of_descend? (fun hl hfind => hl.of_find? hfind) hl h

theorem Ordered.names_pairwise (hl : l.Ordered) : l.names.Pairwise fun a b => a.1 < b.1 := by
  induction l with
  | nil => exact .nil
  | file n c next ih => exact List.pairwise_cons.mpr ⟨hl.1, ih hl.2⟩
  | dir n i next _ ih | closed n i next _ ih => exact List.pairwise_cons.mpr ⟨hl.1, ih hl.2.2⟩

theorem Ordered.visible_pairwise (hl : l.Ordered) : l.visible.Pairwise fun a b => a.1 < b.1 :=
  hl.names_pairwise.filter _

/-- The visible files stand in the order of their names. -/
theorem Ordered.visibleFiles_pairwise (hl : l.Ordered) : (l.visibleFiles []).Pairwise (· < ·) := by
  -- behind an entry come those with greater first names
  have hlater : ∀ {name : String} {next : Listing} (rest : List String), (∀ e ∈ next.names, name < e.1) →
      ∀ b ∈ next.visibleFiles [], name :: rest < b := by
    intro name next rest hnext b hb
    obtain ⟨e, he, more, rfl⟩ := exists_mem_names_of_mem_visibleFiles hb
    exact List.cons_lt_cons_iff.mpr (.inl (hnext e he))
  induction l with
  | nil => exact .nil
  | file name c next ih =>
    obtain ⟨hnext, hordered⟩ := hl
    rw [visibleFiles]
    cases isHidden name with
    | true => exact ih hordered
    | false => exact List.pairwise_cons.mpr ⟨hlater [] hnext, ih hordered⟩
  | dir name inside next ihInside ih =>
    obtain ⟨hnext, hinside, hordered⟩ := hl
    rw [visibleFiles]
    cases isHidden name with
    | true => exact ih hordered
    | false =>
      rw [if_neg Bool.false_ne_true, visibleFiles_eq_map]
      refine List.pairwise_append.mpr ⟨?_, ih hordered, ?_⟩
      · refine List.pairwise_map.mpr ((ihInside hinside).imp fun hab => ?_)
        exact List.cons_lt_cons_iff.mpr (.inr ⟨rfl, hab⟩)
      · intro a ha b hb
        obtain ⟨rest, -, rfl⟩ := List.mem_map.mp ha
        exact hlater rest hnext b hb
  | closed name inside next _ ih => exact ih hl.2.2

/-- Of two files that the walk comes to, it comes first to the one with the smaller names. -/
theorem Ordered.lt_of_getElem?_walkedFiles (hl : l.Ordered) {names' : List String} {i j : Nat}
    (hi : l.walkedFiles[i]? = some names) (hj : l.walkedFiles[j]? = some names')
    (hlt : names < names') : i < j := by
  obtain ⟨hi', rfl⟩ := List.getElem?_eq_some_iff.mp hi
  obtain ⟨hj', rfl⟩ := List.getElem?_eq_some_iff.mp hj
  rcases Nat.lt_trichotomy i j with h | rfl | h
  · exact h
  · exact absurd hlt (List.lt_irrefl _)
  · have hwalked := hl.visibleFiles_pairwise.sublist l.walkedFiles_sublist
    have hgt := List.pairwise_iff_getElem.mp hwalked j i hj' hi' h
    exact absurd (List.lt_trans hlt hgt) (List.lt_irrefl _)

/-! ### Visible files by their names -/

theorem WellNamed.mem_names_iff (hl : l.WellNamed) :
    (name, false) ∈ l.names ↔ ∃ content, l.find? name = some (.file content) := by
  induction l with
  | nil => simp [names, find?]
  | file n c next ih =>
    obtain ⟨-, hnone, hnext⟩ := hl
    rw [names, List.mem_cons, ih hnext, find?]
    by_cases hn : n = name
    · subst hn
      simp
    · simp [hn, Ne.symm hn]
  | dir n i next _ ih =>
    obtain ⟨-, hnone, -, hnext⟩ := hl
    rw [names, List.mem_cons, ih hnext, find?]
    by_cases hn : n = name
    · subst hn
      simp [hnone]
    · simp [hn]
  | closed n i next _ ih =>
    obtain ⟨-, hnone, -, hnext⟩ := hl
    rw [names, List.mem_cons, ih hnext, find?]
    by_cases hn : n = name
    · subst hn
      simp [hnone]
    · simp [hn]

/-- The visible files are those that are found by names none of which is hidden. -/
theorem WellNamed.mem_visibleFiles_iff_fileAt? (hl : l.WellNamed) :
    names ∈ l.visibleFiles [] ↔ (l.fileAt? names).isSome ∧ ∀ n ∈ names, isHidden n = false := by
  induction names generalizing l with
  | nil =>
    refine ⟨fun h => ?_, fun h => nomatch h.1⟩
    obtain ⟨e, -, rest, he⟩ := exists_mem_names_of_mem_visibleFiles h
    cases he
  | cons n rest ih =>
    rw [mem_visibleFiles_iff, fileAt?, List.forall_mem_cons]
    constructor
    · rintro (⟨name, hname, he⟩ | ⟨name, inside, hdir, hn, rest', hrest, he⟩)
      · obtain ⟨rfl, rfl⟩ := List.cons.inj he
        obtain ⟨hmem, hn⟩ := mem_visible_iff.mp hname
        obtain ⟨content, hfind⟩ := hl.mem_names_iff.mp hmem
        simpa [hfind] using hn
      · obtain ⟨rfl, rfl⟩ := List.cons.inj he
        obtain ⟨hfile, hhidden⟩ := (ih (hl.of_hasDir hdir)).mp hrest
        rw [hl.find?_of_hasDir hdir]
        exact ⟨hfile, hn, hhidden⟩
    · rintro ⟨hfile, hn, hhidden⟩
      cases hfind : l.find? n with
      | none => simp [hfind] at hfile
      | some e =>
        rw [hfind] at hfile
        cases e with
        | file content =>
          obtain rfl : rest = [] := by simpa using hfile
          exact .inl ⟨n, mem_visible_iff.mpr ⟨hl.mem_names_iff.mpr ⟨content, hfind⟩, hn⟩, rfl⟩
        | closed inside => simp at hfile
        | dir inside =>
          have hdir := HasDir.of_find? hfind
          exact .inr ⟨n, inside, hdir, hn, rest, (ih (hl.of_hasDir hdir)).mpr ⟨hfile, hhidden⟩, rfl⟩

/-- A file lies in a directory. -/
theorem exists_descend?_of_fileAt? (h : (l.fileAt? (dirs ++ [name])).isSome) :
    ∃ inside, l.descend? dirs = some inside := by
  induction dirs generalizing l with
  | nil => exact ⟨l, rfl⟩
  | cons d dirs ih =>
    rw [List.cons_append, fileAt?] at h
    rw [descend?]
    cases hfind : l.find? d with
    | none => simp [hfind] at h
    | some e =>
      rw [hfind] at h
      cases e with
      | file content => simp at h
      | closed inside => simp at h
      | dir inside => exact ih h

/-- The visible files of a directory are those of the tree that lie in it. -/
theorem WellNamed.mem_visible_iff_mem_visibleFiles (hl : l.WellNamed) (hdirs : l.descend? dirs = some inside)
    (hhidden : ∀ d ∈ dirs, isHidden d = false) :
    (name, false) ∈ inside.visible ↔ dirs ++ [name] ∈ l.visibleFiles [] := by
  rw [mem_visible_iff, (hl.descend? hdirs).mem_names_iff, hl.mem_visibleFiles_iff_fileAt?,
    fileAt?_append hdirs, fileAt?]
  simp only [List.forall_mem_append, List.forall_mem_singleton]
  cases inside.find? name with
  | none => simp
  | some e =>
    cases e with
    | file content => simpa using fun _ => hhidden
    | dir inside => simp [fileAt?]
    | closed inside => simp

/-! ### Files that are walked to -/

/-- The visible files that are no links. -/
def regularFiles (l : Listing) : List (List String) :=
  (l.visibleFiles []).filter fun names => (l.fileAt? names).any (·.kind = .file)

/-- What is found behind the first entry is found without it, since no name stands twice. -/
theorem fileAt?_withEntry_of_mem {e : DiskEntry} {next : Listing} (hnone : next.find? name = none)
    (h : names ∈ next.visibleFiles []) : (withEntry name e next).fileAt? names = next.fileAt? names := by
  obtain ⟨n, rest, rfl, hfind⟩ := exists_cons_of_mem_visibleFiles h
  have hne : name ≠ n := by
    rintro rfl
    exact hfind hnone
  rw [fileAt?, fileAt?, find?_withEntry, if_neg hne]

/-- The regular files behind the first entry are those of the entries behind it. -/
theorem filter_visibleFiles_withEntry {next : Listing} (e : DiskEntry) (hnone : next.find? name = none) :
    ((next.visibleFiles []).filter fun names => ((withEntry name e next).fileAt? names).any (·.kind = .file)) =
      next.regularFiles :=
  List.filter_congr fun names hnames => by rw [fileAt?_withEntry_of_mem hnone hnames]

/-- The walk that looks for sources comes to the visible files that are no links. -/
theorem WellNamed.filesOf_walk (hl : l.WellNamed) (base : List String) :
    filesOf (l.walk base) = l.regularFiles.map (base ++ ·) := by
  induction l generalizing base with
  | nil => rfl
  | file name c next ih =>
    obtain ⟨-, hnone, hnext⟩ := hl
    have hrest := filter_visibleFiles_withEntry (.file c) hnone
    rw [withEntry] at hrest
    rw [regularFiles, walk, visibleFiles, filesOf_append, ih hnext base, List.filter_append, List.map_append, hrest]
    congr 1
    cases isHidden name with
    | true => rfl
    | false => cases c <;> simp [filesOf, WalkStep.found?, FileContent.kind, fileAt?, find?]
  | dir name inside next ihInside ih =>
    obtain ⟨-, hnone, hinside, hnext⟩ := hl
    have hrest := filter_visibleFiles_withEntry (.dir inside) hnone
    rw [withEntry] at hrest
    rw [regularFiles, walk, visibleFiles, filesOf_append, ih hnext base, List.filter_append, List.map_append, hrest]
    congr 1
    cases isHidden name with
    | true => rfl
    | false =>
      -- behind the name of the directory stands what is found in it
      have hbelow : ∀ names, (dir name inside next).fileAt? (name :: names) = inside.fileAt? names := by
        intro names
        rw [fileAt?, find?, if_pos rfl]
      rw [if_neg Bool.false_ne_true, if_neg Bool.false_ne_true, visibleFiles_eq_map, List.filter_map]
      refine (ihInside hinside (base ++ [name])).trans ?_
      simp [regularFiles, Function.comp_def, hbelow]
  | closed name inside next _ ih =>
    obtain ⟨-, hnone, -, hnext⟩ := hl
    have hrest := filter_visibleFiles_withEntry (.closed inside) hnone
    rw [withEntry] at hrest
    rw [regularFiles, walk, visibleFiles, filesOf_append, ih hnext base, hrest]
    cases isHidden name <;> rfl

/-- The walk that looks for sources comes to the files that are found by names none of which is hidden and
are no links. -/
theorem WellNamed.mem_walkedFiles_iff (hl : l.WellNamed) :
    names ∈ l.walkedFiles ↔
      (∃ content, l.fileAt? names = some content ∧ content.kind = .file) ∧ ∀ n ∈ names, isHidden n = false := by
  have hwalked : l.walkedFiles = l.regularFiles := (hl.filesOf_walk []).trans (List.map_id _)
  rw [hwalked, regularFiles, List.mem_filter, hl.mem_visibleFiles_iff_fileAt?]
  cases l.fileAt? names with
  | none => simp
  | some content => simpa using and_comm

/-! ### Files that are passed over -/

end Listing

end Folio
