import Folio.Proofs.Directories
import Folio.Proofs.DocumentNames
import Folio.Site.Source

/-! # The slugs of a content tree

A walk gives slugs relative to where it starts, so walking a directory and walking what is above it
differ by the names on the way (`entrySlugs_eq_map`).  The one exception is the second slug of a
directory with a `readme`: the directory where a walk starts registers nothing for itself.
`append_mem_entrySlugs_iff` says so for a walk at any depth.  Every visible file has its slug in the walk
and so has each directory above it (`exists_slugs_of_mem_visibleFiles`).  A link counts as a file there, and
what a closed directory holds is not visible; the walk that looks for sources leaves links out
(`walkedFiles_sublist`). -/

namespace Folio

open ContentPath (IsName IsClean)

/-! ### Slugs of directories -/

namespace DirectoryKind

variable {kind : DirectoryKind}

theorem mem_ownSlugs_iff {name : String} {slug : Slug} :
    slug ∈ kind.ownSlugs [name] ↔
      slug = [name] ∧ kind ≠ .empty ∨ slug = [name, "readme"] ∧ kind = .readme := by
  cases kind <;> simp [ownSlugs]

theorem ownSlugs_append {base : Slug} (h : base ≠ []) (above : Slug) :
    kind.ownSlugs (above ++ base) = (kind.ownSlugs base).map (above ++ ·) := by
  cases kind <;> simp [ownSlugs, h]

end DirectoryKind

namespace Listing

variable {l inside : Listing} {name : String} {slug : Slug}

theorem fileSlugs_eq_map (base : Slug) (name : String) :
    fileSlugs base name = (fileSlugs [] name).map (base ++ ·) := by
  unfold fileSlugs
  cases documentStem? name with
  | none => rfl
  | some stem =>
    dsimp only
    split <;> simp

/-- A walk that starts deeper puts the names on the way in front of every slug. -/
theorem entrySlugs_eq_map (base : Slug) (l : Listing) :
    l.entrySlugs base = (l.entrySlugs []).map (base ++ ·) := by
  induction l generalizing base with
  | nil => rfl
  | file name c next ih =>
    rw [entrySlugs, entrySlugs, ih base, List.map_append]
    cases isHidden name with
    | true => rfl
    | false => rw [fileSlugs_eq_map base]; rfl
  | dir name inside next ihInside ih =>
    rw [entrySlugs, entrySlugs, ih base, List.map_append]
    cases isHidden name with
    | true => rfl
    | false =>
      rw [ihInside (base ++ [name]), ihInside ([] ++ [name]),
        DirectoryKind.ownSlugs_append (by simp) base]
      simp
  | closed name inside next _ ih => exact ih base

theorem mem_visible_iff {e : String × Bool} : e ∈ l.visible ↔ e ∈ l.names ∧ isHidden e.1 = false := by
  simp [visible, List.mem_filter]

theorem exists_hasDir_dir_iff {next : Listing} {P : String → Listing → Prop} :
    (∃ n i, (dir name inside next).HasDir n i ∧ P n i) ↔
      P name inside ∨ ∃ n i, next.HasDir n i ∧ P n i := by
  constructor
  · rintro ⟨n, i, ⟨rfl, rfl⟩ | h, hp⟩
    · exact .inl hp
    · exact .inr ⟨n, i, h, hp⟩
  · rintro (hp | ⟨n, i, h, hp⟩)
    · exact ⟨name, inside, Or.inl ⟨rfl, rfl⟩, hp⟩
    · exact ⟨n, i, Or.inr h, hp⟩

/-- A slug is that of a visible file, an own slug of a visible directory, or one that the directory
holds, behind the name of the directory. -/
theorem mem_entrySlugs_iff :
    slug ∈ l.entrySlugs [] ↔
      (∃ name, (name, false) ∈ l.visible ∧ slug ∈ fileSlugs [] name) ∨
        ∃ name inside, l.HasDir name inside ∧ isHidden name = false ∧
          (slug ∈ inside.directoryKind.ownSlugs [name] ∨
            ∃ rest ∈ inside.entrySlugs [], name :: rest = slug) := by
  induction l with
  | nil => simp [entrySlugs, visible, names, HasDir]
  | file name c next ih =>
    rw [entrySlugs, List.mem_append, ih]
    cases hn : isHidden name <;>
      simp [mem_visible_iff, names, HasDir, hn, or_and_right, exists_or, or_assoc]
  | dir name inside next _ ih =>
    rw [entrySlugs, List.mem_append, ih, entrySlugs_eq_map ([] ++ [name]), exists_hasDir_dir_iff]
    cases hn : isHidden name <;> simp [mem_visible_iff, names, or_left_comm]
  | closed name inside next _ ih => simp [entrySlugs, ih, mem_visible_iff, names, HasDir]

/-! ### Slugs of parts of the tree -/

theorem slugs_eq (l : Listing) : l.slugs = l.entrySlugs [] := by
  cases h : l.directoryKind <;> simp [slugs, DirectoryKind.ownSlugs]

theorem mem_fileSlugs_iff :
    slug ∈ fileSlugs [] name ↔
      ∃ stem, documentStem? name = some stem ∧ isIndexStem stem = false ∧ slug = [stem] := by
  unfold fileSlugs
  cases documentStem? name with
  | none => simp
  | some stem => cases h : isIndexStem stem <;> simp [h]

theorem nil_notMem_entrySlugs (l : Listing) : [] ∉ l.entrySlugs [] := by
  intro h
  rcases mem_entrySlugs_iff.mp h with ⟨name, -, h⟩ | ⟨name, inside, -, -, h | ⟨rest, -, h⟩⟩
  · obtain ⟨stem, -, -, he⟩ := mem_fileSlugs_iff.mp h
    cases he
  · rcases DirectoryKind.mem_ownSlugs_iff.mp h with ⟨he, -⟩ | ⟨he, -⟩ <;> cases he
  · cases h

/-- What a walk finds behind a name is what it finds in the directory of that name; the second slug of
a directory with a readme apart. -/
theorem WellNamed.cons_mem_entrySlugs_iff (hl : l.WellNamed) {rest : Slug} (hrest : rest ≠ []) :
    name :: rest ∈ l.entrySlugs [] ↔
      ∃ inside, l.find? name = some (.dir inside) ∧ isHidden name = false ∧
        (rest ∈ inside.entrySlugs [] ∨ rest = ["readme"] ∧ inside.directoryKind = .readme) := by
  rw [mem_entrySlugs_iff]
  constructor
  · rintro (⟨file, -, h⟩ | ⟨n, inside, hdir, hn, h⟩)
    · obtain ⟨stem, -, -, he⟩ := mem_fileSlugs_iff.mp h
      exact absurd (List.cons.inj he).2 hrest
    · rcases h with h | ⟨rest', hmem, he⟩
      · rcases DirectoryKind.mem_ownSlugs_iff.mp h with ⟨he, -⟩ | ⟨he, hkind⟩
        · exact absurd (List.cons.inj he).2 hrest
        · obtain ⟨rfl, rfl⟩ := List.cons.inj he
          exact ⟨inside, hl.find?_of_hasDir hdir, hn, .inr ⟨rfl, hkind⟩⟩
      · obtain ⟨rfl, rfl⟩ := List.cons.inj he
        exact ⟨inside, hl.find?_of_hasDir hdir, hn, .inl hmem⟩
  · rintro ⟨inside, hfind, hn, h⟩
    refine .inr ⟨name, inside, .of_find? hfind, hn, ?_⟩
    rcases h with h | ⟨rfl, hkind⟩
    · exact .inr ⟨rest, h, rfl⟩
    · exact .inl (DirectoryKind.mem_ownSlugs_iff.mpr (.inr ⟨rfl, hkind⟩))

/-- The walk of a directory is the walk of the tree cut at the directory, at every depth: only the
second slug of a directory with a readme is missing where the walk starts in that directory. -/
theorem WellNamed.append_mem_entrySlugs_iff (hl : l.WellNamed) {path rest : Slug} (hpath : path ≠ [])
    (hdown : l.descend? path = some inside) (hrest : rest ≠ []) :
    path ++ rest ∈ l.entrySlugs [] ↔
      (∀ n ∈ path, isHidden n = false) ∧
        (rest ∈ inside.entrySlugs [] ∨ rest = ["readme"] ∧ inside.directoryKind = .readme) := by
  induction path generalizing l with
  | nil => exact absurd rfl hpath
  | cons n path ih =>
    obtain ⟨i, hfind, hi⟩ := descend?_cons_eq_some_iff.mp hdown
    rw [List.cons_append, hl.cons_mem_entrySlugs_iff (by simp [hrest])]
    simp only [hfind, Option.some.injEq, DiskEntry.dir.injEq, exists_eq_left', List.forall_mem_cons,
      and_assoc]
    cases path with
    | nil =>
      obtain rfl : i = inside := by simpa [Listing.descend?] using hi
      simp
    | cons m path =>
      -- two names or more are never the lone `readme` of a directory
      have hlong : m :: path ++ rest ≠ ["readme"] := by simp [hrest]
      have hin := ih (hl.of_hasDir (.of_find? hfind)) (by simp) hi
      simp only [hlong, false_and, or_false, hin]

/-- One of the entries is a directory of the name `readme` with something in it. -/
def HoldsReadmeDirectory (l : Listing) : Prop :=
  ∃ inside, l.HasDir "readme" inside ∧ inside.directoryKind ≠ .empty

/-- The slug `readme` is that of a directory with this name: a file of this name is an index. -/
theorem readme_mem_entrySlugs_iff : ["readme"] ∈ l.entrySlugs [] ↔ l.HoldsReadmeDirectory := by
  rw [mem_entrySlugs_iff]
  constructor
  · rintro (⟨file, -, h⟩ | ⟨n, inside, hdir, -, h⟩)
    · obtain ⟨stem, -, hstem, he⟩ := mem_fileSlugs_iff.mp h
      obtain rfl : "readme" = stem := (List.cons.inj he).1
      exact absurd hstem (by decide)
    · rcases h with h | ⟨rest, hmem, he⟩
      · rcases DirectoryKind.mem_ownSlugs_iff.mp h with ⟨he, hkind⟩ | ⟨he, -⟩
        · obtain rfl := (List.cons.inj he).1
          exact ⟨inside, hdir, hkind⟩
        · cases he
      · obtain ⟨rfl, rfl⟩ := List.cons.inj he
        exact absurd hmem (nil_notMem_entrySlugs inside)
  · rintro ⟨inside, hdir, hkind⟩
    refine .inr ⟨"readme", inside, hdir, by decide, .inl ?_⟩
    exact DirectoryKind.mem_ownSlugs_iff.mpr (.inl ⟨rfl, hkind⟩)

/-! ### Names on the way -/

theorem isName_of_documentStem? {stem : String} (h : IsName name.toList)
    (hs : documentStem? name = some stem) : IsName stem.toList := by
  obtain ⟨hne, ext, he⟩ := eq_of_documentStem? hs
  exact ⟨hne, fun hm => h.no_slash (he ▸ List.mem_append_left _ hm)⟩

/-- A document is hidden exactly if its stem is. -/
theorem isHidden_of_documentStem? {stem : String} (hs : documentStem? name = some stem) :
    isHidden stem = isHidden name := by
  obtain ⟨hne, ext, he⟩ := eq_of_documentStem? hs
  obtain ⟨c, cs, hcs⟩ := List.exists_cons_of_ne_nil hne
  rw [isHidden, isHidden, he, hcs]
  rfl

theorem WellNamed.isName_of_hasDir (hl : l.WellNamed) (h : l.HasDir name inside) :
    IsName name.toList := hl.isName_of_mem_names h.mem_names

/-- A slug is made of names that no entry would be hidden for. -/
theorem WellNamed.isShown_of_mem_entrySlugs (hl : l.WellNamed) (h : slug ∈ l.entrySlugs []) :
    ∀ s ∈ slug, IsName s.toList ∧ isHidden s = false := by
  induction slug generalizing l with
  | nil => simp
  | cons n rest ih =>
    rcases mem_entrySlugs_iff.mp h with ⟨file, hfile, h⟩ | ⟨m, inside, hdir, hshown, h⟩
    · obtain ⟨stem, hstem, -, he⟩ := mem_fileSlugs_iff.mp h
      obtain ⟨hmem, hshown⟩ := mem_visible_iff.mp hfile
      rw [he]
      simpa using ⟨isName_of_documentStem? (hl.isName_of_mem_names hmem) hstem,
        (isHidden_of_documentStem? hstem).trans hshown⟩
    · have hm := hl.isName_of_hasDir hdir
      rcases h with h | ⟨rest', hmem, he⟩
      · rcases DirectoryKind.mem_ownSlugs_iff.mp h with ⟨he, -⟩ | ⟨he, -⟩
        · rw [he]
          simpa using ⟨hm, hshown⟩
        · have hreadme : IsName "readme".toList ∧ isHidden "readme" = false := by decide
          rw [he]
          simpa [hm, hshown] using hreadme
      · obtain ⟨rfl, rfl⟩ := List.cons.inj he
        exact List.forall_mem_cons.mpr ⟨⟨hm, hshown⟩, ih (hl.of_hasDir hdir) hmem⟩

theorem WellNamed.isName_of_mem_entrySlugs (hl : l.WellNamed) (h : slug ∈ l.entrySlugs []) :
    ∀ s ∈ slug, IsName s.toList := fun s hs => (hl.isShown_of_mem_entrySlugs h s hs).1

/-! ### Visible files -/

/-- The visible files below a directory at `base`, by the names that lead to them. -/
def visibleFiles (base : List String) : Listing → List (List String)
  | nil => []
  | file name _ next => (if isHidden name then [] else [base ++ [name]]) ++ next.visibleFiles base
  | dir name inside next =>
    (if isHidden name then [] else inside.visibleFiles (base ++ [name])) ++ next.visibleFiles base
  | closed _ _ next => next.visibleFiles base

theorem visibleFiles_eq_map (base : List String) (l : Listing) :
    l.visibleFiles base = (l.visibleFiles []).map (base ++ ·) := by
  induction l generalizing base with
  | nil => rfl
  | file name c next ih =>
    rw [visibleFiles, visibleFiles, ih base, List.map_append]
    cases isHidden name <;> simp
  | dir name inside next ihInside ih =>
    rw [visibleFiles, visibleFiles, ih base, List.map_append]
    cases isHidden name with
    | true => rfl
    | false =>
      rw [ihInside (base ++ [name]), ihInside ([] ++ [name])]
      simp
  | closed name inside next _ ih => exact ih base

/-- The files among the steps of a walk. -/
def filesOf (steps : List WalkStep) : List (List String) :=
  ((steps.filterMap WalkStep.found?).filter (·.2 = .file)).map (·.1)

theorem filesOf_append (steps more : List WalkStep) : filesOf (steps ++ more) = filesOf steps ++ filesOf more := by
  simp [filesOf]

/-- The walk that looks for sources comes to visible files, in the same order. -/
theorem walkedFiles_sublist (l : Listing) : List.Sublist l.walkedFiles (l.visibleFiles []) := by
  suffices h : ∀ base, List.Sublist (filesOf (l.walk base)) (l.visibleFiles base) from h []
  induction l with
  | nil => exact fun base => .slnil
  | file name c next ih =>
    intro base
    rw [walk, visibleFiles, filesOf_append]
    refine .append ?_ (ih base)
    cases isHidden name with
    | true => exact .slnil
    | false => cases hkind : c.kind <;> simp [filesOf, WalkStep.found?]
  | dir name inside next ihInside ih =>
    intro base
    rw [walk, visibleFiles, filesOf_append]
    refine .append ?_ (ih base)
    cases isHidden name with
    | true => exact .slnil
    | false => exact ihInside (base ++ [name])
  | closed name inside next _ ih =>
    intro base
    rw [walk, visibleFiles, filesOf_append]
    have hnone : filesOf (if isHidden name then []
        else [.entry (base ++ [name]) .directory, .failure (base ++ [name])]) = [] := by
      cases isHidden name <;> rfl
    rw [hnone]
    exact ih base

variable {path : List String}

/-- A visible file lies in the directory itself or in a visible directory of it. -/
theorem mem_visibleFiles_iff :
    path ∈ l.visibleFiles [] ↔
      (∃ name, (name, false) ∈ l.visible ∧ path = [name]) ∨
        ∃ name inside, l.HasDir name inside ∧ isHidden name = false ∧
          ∃ rest ∈ inside.visibleFiles [], name :: rest = path := by
  induction l with
  | nil => simp [visibleFiles, visible, names, HasDir]
  | file name c next ih =>
    rw [visibleFiles, List.mem_append, ih]
    cases hn : isHidden name <;>
      simp [mem_visible_iff, names, HasDir, hn, or_and_right, exists_or, or_assoc]
  | dir name inside next _ ih =>
    rw [visibleFiles, List.mem_append, ih, visibleFiles_eq_map ([] ++ [name]), exists_hasDir_dir_iff]
    cases hn : isHidden name <;> simp [mem_visible_iff, names, or_left_comm]
  | closed name inside next _ ih => simp [visibleFiles, ih, mem_visible_iff, names, HasDir]

theorem visible_of_mem_visibleFiles (h : path ∈ l.visibleFiles []) : l.visible ≠ [] := by
  rcases mem_visibleFiles_iff.mp h with ⟨name, hname, -⟩ | ⟨name, inside, hdir, hn, -⟩
  · exact List.ne_nil_of_mem hname
  · exact List.ne_nil_of_mem (mem_visible_iff.mpr ⟨hdir.mem_names, hn⟩)

theorem directoryKind_ne_empty (h : l.visible ≠ []) : l.directoryKind ≠ .empty := by
  unfold directoryKind DirectoryKind.ofEntries
  dsimp only
  split
  · simp
  · split
    · simp
    · simp [h]

/-- The names on the way to a visible file are names, and no entry of them is hidden. -/
theorem WellNamed.isName_of_mem_visibleFiles (hl : l.WellNamed) (h : path ∈ l.visibleFiles []) :
    ∀ n ∈ path, IsName n.toList ∧ isHidden n = false := by
  induction path generalizing l with
  | nil => simp
  | cons n path ih =>
    rcases mem_visibleFiles_iff.mp h with ⟨name, hname, he⟩ | ⟨name, inside, hdir, hn, rest, hrest, he⟩
    · obtain ⟨hmem, hhidden⟩ := mem_visible_iff.mp hname
      rw [he]
      simpa using ⟨hl.isName_of_mem_names hmem, hhidden⟩
    · obtain ⟨rfl, rfl⟩ := List.cons.inj he
      exact List.forall_mem_cons.mpr ⟨⟨hl.isName_of_hasDir hdir, hn⟩, ih (hl.of_hasDir hdir) hrest⟩

/-- A visible file has its stem in the walk unless it is an index, and the directories above it are in
the walk. -/
theorem exists_slugs_of_mem_visibleFiles (h : path ∈ l.visibleFiles []) :
    ∃ dirs name, path = dirs ++ [name] ∧ (dirs ≠ [] → dirs ∈ l.entrySlugs []) ∧
      ∀ stem, documentStem? name = some stem → isIndexStem stem = false →
        dirs ++ [stem] ∈ l.entrySlugs [] := by
  induction path generalizing l with
  | nil =>
    rcases mem_visibleFiles_iff.mp h with ⟨name, -, he⟩ | ⟨name, inside, -, -, rest, -, he⟩
    · cases he
    · cases he
  | cons n path ih =>
    rcases mem_visibleFiles_iff.mp h with ⟨name, hname, he⟩ | ⟨name, inside, hdir, hn, rest, hrest, he⟩
    · refine ⟨[], name, he, fun h => absurd rfl h, fun stem hs hi => ?_⟩
      exact mem_entrySlugs_iff.mpr (.inl ⟨name, hname, mem_fileSlugs_iff.mpr ⟨stem, hs, hi, rfl⟩⟩)
    · obtain ⟨rfl, rfl⟩ := List.cons.inj he
      obtain ⟨dirs, file, rfl, hdirs, hstem⟩ := ih hrest
      refine ⟨name :: dirs, file, rfl, fun _ => ?_, fun stem hs hi => ?_⟩
      · refine mem_entrySlugs_iff.mpr (.inr ⟨name, inside, hdir, hn, ?_⟩)
        by_cases hd : dirs = []
        · -- a directory with something visible in it registers itself
          subst hd
          have hkind := directoryKind_ne_empty (visible_of_mem_visibleFiles hrest)
          exact .inl (DirectoryKind.mem_ownSlugs_iff.mpr (.inl ⟨rfl, hkind⟩))
        · exact .inr ⟨dirs, hdirs hd, rfl⟩
      · refine mem_entrySlugs_iff.mpr (.inr ⟨name, inside, hdir, hn, .inr ?_⟩)
        exact ⟨dirs ++ [stem], hstem stem hs hi, rfl⟩

end Listing

/-! ### Documents of a tree -/

/-- A test that a result passes shows that there is one. -/
theorem exists_ok_of_any {ε α : Type} (result : Except ε α) (test : α → Bool)
    (h : result.toOption.any test = true) : ∃ a, result = .ok a ∧ test a = true := by
  cases result with
  | error e => cases h
  | ok a => exact ⟨a, rfl, h⟩

namespace ContentTree

variable {tree : ContentTree} {documents : PathSet}

/-- The documents of a tree are the paths that the walk of its directory finds. -/
theorem documents_eq_ok_iff :
    tree.documents = .ok documents ↔
      ∃ content, tree.disk.dirAt? tree.root = some content ∧
        documents = Std.TreeSet.ofList ((content.entrySlugs []).map ContentPath.ofSegments) := by
  have hroot : tree.diskPath ContentPath.root = tree.root := rfl
  unfold ContentTree.documents walk slugsUnder
  rw [hroot]
  cases hdir : tree.disk.dirAt? tree.root with
  | none => cases tree.disk.isClosed tree.root <;> simp [ContentPath.isRoot, ContentPath.root, Except.map]
  | some content => simp [Except.map, Listing.slugs_eq, eq_comm]

theorem mem_ofList_documents {slugs : List Slug} {d : ContentPath} :
    d ∈ Std.TreeSet.ofList (slugs.map ContentPath.ofSegments) ↔
      ∃ slug ∈ slugs, ContentPath.ofSegments slug = d := by
  rw [Std.TreeSet.mem_ofList, List.contains_iff_mem, List.mem_map]

end ContentTree

end Folio
