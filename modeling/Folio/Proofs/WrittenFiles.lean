import Folio.Proofs.Places

/-! # Files after writing

Let the entries of every directory stand in the order of their names (`Listing.Ordered`).  Putting a file in
place and changing a directory both put one entry in place (`putEntry`), which leaves the other names alone
(`Ordered.find?_putEntry`).  So making directories changes no file (`Ordered.createFrom`), writing a file
changes this one alone (`Ordered.writeAt`), and no directory goes away.  What is read on a disk after a step is
therefore what was read before, but for the file that is written (`Disk.Ordered.createDirs`,
`Disk.Ordered.write`).  The order is kept, and these laws apply to one step after the other. -/

namespace Folio

namespace Listing

variable {l l' x : Listing} {name n : String} {e : DiskEntry} {content : FileContent}

/-! ### Ordered listings -/

/-- The entries of every directory stand in the order of their names. -/
def Ordered : Listing → Prop
  | nil => True
  | file name _ next => (∀ e ∈ next.names, name < e.1) ∧ next.Ordered
  | dir name inside next | closed name inside next =>
    (∀ e ∈ next.names, name < e.1) ∧ inside.Ordered ∧ next.Ordered

instance Ordered.decidable : (l : Listing) → Decidable l.Ordered
  | nil => .isTrue trivial
  | file name _ next =>
    have := Ordered.decidable next
    inferInstanceAs (Decidable ((∀ e ∈ next.names, name < e.1) ∧ next.Ordered))
  | dir name inside next | closed name inside next =>
    have := Ordered.decidable inside
    have := Ordered.decidable next
    inferInstanceAs (Decidable ((∀ e ∈ next.names, name < e.1) ∧ inside.Ordered ∧ next.Ordered))

/-- A listing with an entry before those that it has. -/
def withEntry (name : String) (e : DiskEntry) (next : Listing) : Listing :=
  match e with
  | .file content => file name content next
  | .dir inside => dir name inside next
  | .closed inside => closed name inside next

/-- What an entry holds, if it is a directory, is ordered. -/
def InsideOrdered : DiskEntry → Prop
  | .file _ => True
  | .dir inside | .closed inside => inside.Ordered

theorem induction_withEntry {P : Listing → Prop} (nil : P nil)
    (cons : ∀ name e next, P next → P (withEntry name e next)) (l : Listing) : P l := by
  induction l with
  | nil => exact nil
  | file name content next ih => exact cons name (.file content) next ih
  | dir name inside next _ ih => exact cons name (.dir inside) next ih
  | closed name inside next _ ih => exact cons name (.closed inside) next ih

theorem find?_withEntry (next : Listing) :
    (withEntry name e next).find? n = if name = n then some e else next.find? n := by
  cases e <;> rfl

theorem forall_names_withEntry {P : String → Prop} (next : Listing) :
    (∀ a ∈ (withEntry name e next).names, P a.1) ↔ P name ∧ ∀ a ∈ next.names, P a.1 := by
  cases e <;> simp [withEntry, names]

theorem ordered_withEntry (next : Listing) :
    (withEntry name e next).Ordered ↔
      (∀ a ∈ next.names, name < a.1) ∧ InsideOrdered e ∧ next.Ordered := by
  cases e <;> simp [withEntry, Ordered, InsideOrdered]

theorem find?_eq_none_of_lt (h : ∀ a ∈ l.names, name < a.1) : l.find? name = none := by
  induction l using induction_withEntry with
  | nil => rfl
  | cons m e next ih =>
    obtain ⟨hm, hnext⟩ := (forall_names_withEntry next).mp h
    rw [find?_withEntry, if_neg (fun he : m = name => String.lt_irrefl m (he ▸ hm)), ih hnext]

theorem Ordered.of_find? (hl : l.Ordered) (h : l.find? name = some e) : InsideOrdered e := by
  induction l using induction_withEntry with
  | nil => cases h
  | cons m e' next ih =>
    obtain ⟨-, he, hnext⟩ := (ordered_withEntry next).mp hl
    rw [find?_withEntry] at h
    split at h
    · exact Option.some.inj h ▸ he
    · exact ih hnext h

/-! ### One entry in its place -/

/-- An entry put in its place by name, made from the one of that name. -/
def putEntry (name : String) (g : Option DiskEntry → DiskEntry) : Listing → Listing
  | nil => withEntry name (g none) nil
  | file n content next =>
    if name = n then withEntry name (g (some (.file content))) next
    else if name < n then withEntry name (g none) (file n content next)
    else file n content (next.putEntry name g)
  | dir n inside next =>
    if name = n then withEntry name (g (some (.dir inside))) next
    else if name < n then withEntry name (g none) (dir n inside next)
    else dir n inside (next.putEntry name g)
  | closed n inside next =>
    if name = n then withEntry name (g (some (.closed inside))) next
    else if name < n then withEntry name (g none) (closed n inside next)
    else closed n inside (next.putEntry name g)

/-- What an open directory holds; all else holds nothing. -/
def insideOf : Option DiskEntry → Listing
  | some (.dir inside) => inside
  | _ => nil

theorem putFile_eq (name : String) (content : FileContent) (l : Listing) :
    l.putFile name content = l.putEntry name fun _ => .file content := by
  induction l with
  | nil => rfl
  | file m c next ih => simp only [putFile, putEntry, withEntry, ih]
  | dir m inside next _ ih | closed m inside next _ ih => simp only [putFile, putEntry, withEntry, ih]

theorem changeDir_eq (name : String) (f : Listing → Listing) (l : Listing) :
    l.changeDir name f = l.putEntry name fun e => .dir (f (insideOf e)) := by
  induction l with
  | nil => rfl
  | file m c next ih => simp only [changeDir, putEntry, withEntry, insideOf, ih]
  | dir m inside next _ ih | closed m inside next _ ih =>
    simp only [changeDir, putEntry, withEntry, insideOf, ih]

variable {g : Option DiskEntry → DiskEntry}

theorem putEntry_withEntry (next : Listing) :
    (withEntry n e next).putEntry name g =
      if name = n then withEntry name (g (some e)) next
      else if name < n then withEntry name (g none) (withEntry n e next)
      else withEntry n e (next.putEntry name g) := by
  cases e <;> rfl

/-- The entry is found under its name, and the others are as they were. -/
theorem Ordered.find?_putEntry (hl : l.Ordered) :
    (l.putEntry name g).find? n = if name = n then some (g (l.find? name)) else l.find? n := by
  induction l using induction_withEntry with
  | nil => rw [putEntry, find?_withEntry]; rfl
  | cons m e next ih =>
    obtain ⟨hm, -, hnext⟩ := (ordered_withEntry next).mp hl
    rw [putEntry_withEntry]
    split
    · subst m
      simp only [find?_withEntry, if_pos]
      split <;> rfl
    · rename_i hne
      have hskip : (withEntry m e next).find? name = next.find? name := by
        rw [find?_withEntry, if_neg (Ne.symm hne)]
      rw [hskip]
      split
      · -- the name is smaller than all that follow, so nothing had it
        rename_i hlt
        rw [find?_withEntry, find?_eq_none_of_lt fun a ha => String.lt_trans hlt (hm a ha)]
      · rw [find?_withEntry, ih hnext, find?_withEntry]
        by_cases hmn : m = n
        · rw [if_pos hmn, if_pos hmn, if_neg (hmn ▸ hne)]
        · rw [if_neg hmn, if_neg hmn]

theorem forall_names_putEntry {P : String → Prop} (hname : P name) (h : ∀ a ∈ l.names, P a.1) :
    ∀ a ∈ (l.putEntry name g).names, P a.1 := by
  induction l using induction_withEntry with
  | nil => exact (forall_names_withEntry nil).mpr ⟨hname, h⟩
  | cons m e next ih =>
    obtain ⟨hm, hnext⟩ := (forall_names_withEntry next).mp h
    rw [putEntry_withEntry]
    split
    · exact (forall_names_withEntry next).mpr ⟨hname, hnext⟩
    · split
      · exact (forall_names_withEntry _).mpr ⟨hname, h⟩
      · exact (forall_names_withEntry _).mpr ⟨hm, ih hnext⟩

theorem Ordered.putEntry (hl : l.Ordered) (hg : InsideOrdered (g (l.find? name))) :
    (l.putEntry name g).Ordered := by
  induction l using induction_withEntry with
  | nil => exact (ordered_withEntry nil).mpr ⟨nofun, hg, trivial⟩
  | cons m e next ih =>
    obtain ⟨hm, he, hnext⟩ := (ordered_withEntry next).mp hl
    rw [putEntry_withEntry]
    rw [find?_withEntry] at hg
    split
    · subst m
      rw [if_pos rfl] at hg
      exact (ordered_withEntry next).mpr ⟨hm, hg, hnext⟩
    · rename_i hne
      rw [if_neg (Ne.symm hne)] at hg
      split
      · rename_i hlt
        have hlater : ∀ a ∈ next.names, name < a.1 := fun a ha => String.lt_trans hlt (hm a ha)
        rw [find?_eq_none_of_lt hlater] at hg
        exact (ordered_withEntry _).mpr ⟨(forall_names_withEntry next).mpr ⟨hlt, hlater⟩, hg, hl⟩
      · rename_i hlt
        have hmn : m < name :=
          (Std.lt_trichotomy m name).resolve_right fun h => h.elim (Ne.symm hne) hlt
        exact (ordered_withEntry _).mpr ⟨forall_names_putEntry hmn hm, he, ih hnext hg⟩

/-! ### Directories below directories -/

/-- What is found below a name that is not that of a file. -/
def inDir (name : String) (l : Listing) : Listing := insideOf (l.find? name)

theorem Ordered.inDir (hl : l.Ordered) (name : String) : (l.inDir name).Ordered := by
  unfold Listing.inDir
  cases h : l.find? name with
  | none => trivial
  | some e =>
    cases e with
    | file content => trivial
    | closed inside => trivial
    | dir inside => exact hl.of_find? h

variable {f : Listing → Listing}

theorem Ordered.find?_changeDir (hl : l.Ordered) :
    (l.changeDir name f).find? n = if name = n then some (.dir (f (l.inDir name))) else l.find? n := by
  rw [changeDir_eq, hl.find?_putEntry]
  rfl

theorem Ordered.changeDir (hl : l.Ordered) (hf : (f (l.inDir name)).Ordered) :
    (l.changeDir name f).Ordered := by
  rw [changeDir_eq]
  exact hl.putEntry hf

theorem Ordered.putFile (hl : l.Ordered) : (l.putFile name content).Ordered := by
  rw [putFile_eq]
  exact hl.putEntry trivial

theorem Ordered.putUnder (hl : l.Ordered) (dirs : List String) :
    (l.putUnder dirs name content).Ordered := by
  induction dirs generalizing l with
  | nil => exact hl.putFile
  | cons d dirs ih => exact hl.changeDir (ih (hl.inDir d))

theorem Ordered.makeDirs (hl : l.Ordered) (dirs : List String) : (l.makeDirs dirs).Ordered := by
  induction dirs generalizing l with
  | nil => exact hl
  | cons d dirs ih => exact hl.changeDir (ih (hl.inDir d))

/-- Listings to which one file after the other is added are ordered. -/
theorem Ordered.add (hl : l.Ordered) (path : String) : (l.add path content).Ordered := by
  unfold Listing.add
  dsimp only
  split
  · exact hl.makeDirs _
  · split
    · exact hl
    · exact hl.putUnder _

/-! ### Putting files and directories in place -/

variable {names rest dirs : List String}

theorem fileAt?_nil : ∀ names : List String, nil.fileAt? names = none
  | [] => rfl
  | _ :: _ => rfl

/-- Below a name that is not that of a file. -/
theorem fileAt?_cons_of_not_file (h : ∀ content, l.find? name ≠ some (.file content)) :
    l.fileAt? (name :: rest) = (l.inDir name).fileAt? rest := by
  rw [fileAt?, inDir]
  cases hfind : l.find? name with
  | none => exact (fileAt?_nil rest).symm
  | some e =>
    cases e with
    | file content => exact absurd hfind (h content)
    | closed inside => exact (fileAt?_nil rest).symm
    | dir inside => rfl

theorem fileAt?_cons_congr (h : l.find? name = l'.find? name) :
    l.fileAt? (name :: rest) = l'.fileAt? (name :: rest) := by
  rw [fileAt?, fileAt?, h]

/-- No file stands in the way of a chain of directories. -/
def Clear : List String → Listing → Prop
  | [], _ => True
  | d :: dirs, l => (∀ content, l.find? d ≠ some (.file content)) ∧ (l.inDir d).Clear dirs

theorem find?_ne_file_of_descend? (h : (l.descend? (name :: rest)).isSome) :
    ∀ content, l.find? name ≠ some (.file content) := by
  intro content hfind
  rw [descend?, hfind] at h
  cases h

/-- Behind directories that are there, the way is clear if it is from the last of them. -/
theorem clear_append (h : l.descend? dirs = some x) (hx : x.Clear rest) : l.Clear (dirs ++ rest) := by
  induction dirs generalizing l with
  | nil =>
    obtain rfl := Option.some.inj h
    exact hx
  | cons d dirs ih =>
    obtain ⟨inside, hfind, hrest⟩ := descend?_cons_eq_some_iff.mp h
    refine ⟨find?_ne_file_of_descend? (by rw [h]; rfl), ?_⟩
    rw [inDir, hfind]
    exact ih hrest

/-- Directories that are made on a clear way change no file. -/
theorem Ordered.fileAt?_makeDirs (hl : l.Ordered) (hclear : l.Clear dirs) (names : List String) :
    (l.makeDirs dirs).fileAt? names = l.fileAt? names := by
  induction dirs generalizing l names with
  | nil => rfl
  | cons d dirs ih =>
    cases names with
    | nil => rfl
    | cons n rest =>
      by_cases hn : d = n
      · subst hn
        rw [fileAt?_cons_of_not_file hclear.1, ← ih (hl.inDir d) hclear.2, Listing.makeDirs, fileAt?,
          hl.find?_changeDir, if_pos rfl]
      · exact fileAt?_cons_congr (by rw [Listing.makeDirs, hl.find?_changeDir, if_neg hn])

theorem Ordered.descend?_makeDirs (hl : l.Ordered) (dirs : List String) :
    ((l.makeDirs dirs).descend? dirs).isSome := by
  induction dirs generalizing l with
  | nil => rfl
  | cons d dirs ih =>
    rw [Listing.makeDirs, descend?, hl.find?_changeDir, if_pos rfl]
    exact ih (hl.inDir d)

/-- A file that is put into a directory that is there, not in place of a directory, changes this file
alone. -/
theorem Ordered.fileAt?_putUnder (hl : l.Ordered) (hdirs : l.descend? dirs = some x)
    (hfree : ∀ inside, x.find? name ≠ some (.dir inside)) (names : List String) :
    (l.putUnder dirs name content).fileAt? names =
      if names = dirs ++ [name] then some content else l.fileAt? names := by
  induction dirs generalizing l names with
  | nil =>
    obtain rfl := Option.some.inj hdirs
    cases names with
    | nil => rfl
    | cons n rest =>
      rw [Listing.putUnder, putFile_eq, fileAt?, hl.find?_putEntry]
      by_cases hn : name = n
      · subst hn
        rw [if_pos rfl]
        by_cases hrest : rest = []
        · simp [hrest]
        · -- below a file nothing is found, and it replaces no directory
          cases hfind : l.find? name with
          | none => simp [hrest, fileAt?, hfind]
          | some e =>
            cases e with
            | dir inside => exact absurd hfind (hfree inside)
            | closed inside => simp [hrest, fileAt?, hfind]
            | file c => simp [hrest, fileAt?, hfind]
      · rw [if_neg hn, if_neg (by simp [Ne.symm hn]), fileAt?]
  | cons d dirs ih =>
    obtain ⟨inside, hfind, hrest⟩ := descend?_cons_eq_some_iff.mp hdirs
    cases names with
    | nil => rfl
    | cons n rest =>
      by_cases hn : d = n
      · subst hn
        have hin : l.inDir d = inside := by rw [Listing.inDir, hfind]; rfl
        have hinside := ih (hl.of_find? hfind) hrest rest
        rw [Listing.putUnder, fileAt?, hl.find?_changeDir, if_pos rfl, hin, fileAt?, hfind]
        simpa using hinside
      · rw [if_neg (by simp [Ne.symm hn])]
        exact fileAt?_cons_congr (by rw [Listing.putUnder, hl.find?_changeDir, if_neg hn])

/-! ### Directories that stay -/

theorem grows_of_find? (h : ∀ n inside, l.find? n = some (.dir inside) →
    ∃ inside', l'.find? n = some (.dir inside') ∧ inside.Grows inside') : l.Grows l' := by
  intro names hnames
  cases names with
  | nil => rfl
  | cons n rest =>
    obtain ⟨x, hx⟩ := Option.isSome_iff_exists.mp hnames
    obtain ⟨inside, hfind, hrest⟩ := descend?_cons_eq_some_iff.mp hx
    obtain ⟨inside', hfind', hgrows⟩ := h n inside hfind
    rw [descend?, hfind']
    exact hgrows rest (by rw [hrest]; rfl)

theorem Ordered.grows_changeDir (hl : l.Ordered) (hf : (l.inDir name).Grows (f (l.inDir name))) :
    l.Grows (l.changeDir name f) := by
  refine grows_of_find? fun n inside hfind => ?_
  rw [hl.find?_changeDir]
  by_cases hn : name = n
  · subst hn
    have hin : l.inDir name = inside := by rw [Listing.inDir, hfind]; rfl
    exact ⟨f (l.inDir name), if_pos rfl, hin ▸ hf⟩
  · exact ⟨inside, by rw [if_neg hn, hfind], .refl inside⟩

theorem Ordered.grows_makeDirs (hl : l.Ordered) (dirs : List String) : l.Grows (l.makeDirs dirs) := by
  induction dirs generalizing l with
  | nil => exact .refl l
  | cons d dirs ih => exact hl.grows_changeDir (ih (hl.inDir d))

theorem Ordered.grows_putUnder (hl : l.Ordered) (hdirs : l.descend? dirs = some x)
    (hfree : ∀ inside, x.find? name ≠ some (.dir inside)) : l.Grows (l.putUnder dirs name content) := by
  induction dirs generalizing l with
  | nil =>
    obtain rfl := Option.some.inj hdirs
    refine grows_of_find? fun n inside hfind => ⟨inside, ?_, .refl inside⟩
    have hn : name ≠ n := fun he => hfree inside (he ▸ hfind)
    rw [Listing.putUnder, putFile_eq, hl.find?_putEntry, if_neg hn, hfind]
  | cons d dirs ih =>
    obtain ⟨inside, hfind, hrest⟩ := descend?_cons_eq_some_iff.mp hdirs
    have hin : l.inDir d = inside := by rw [Listing.inDir, hfind]; rfl
    exact hl.grows_changeDir (ih (hl.inDir d) (hin ▸ hrest))

/-! ### Steps -/

/-- From `l` to `l'` no directory goes away, and the order is kept. -/
structure Advances (l l' : Listing) : Prop where
  ordered : l'.Ordered
  grows : l.Grows l'

theorem isSome_descend?_dropLast (h : (l.descend? dirs).isSome) :
    (l.descend? dirs.dropLast).isSome := by
  induction dirs generalizing l with
  | nil => exact h
  | cons d dirs ih =>
    cases dirs with
    | nil => rfl
    | cons d' dirs =>
      obtain ⟨x, hx⟩ := Option.isSome_iff_exists.mp h
      obtain ⟨inside, hfind, hrest⟩ := descend?_cons_eq_some_iff.mp hx
      rw [List.dropLast_cons_cons, descend?, hfind]
      exact ih (by rw [hrest]; rfl)

/-- Making the directories of a chain changes no file, from directories that are there. -/
theorem Ordered.createFrom (hl : l.Ordered) {done : List String} (hdone : (l.descend? done).isSome)
    (hup : ".." ∉ done) (h : l.createFrom done rest = .ok l') :
    l.Advances l' ∧ ∀ names, l'.fileAt? names = l.fileAt? names := by
  induction rest generalizing l done with
  | nil =>
    cases h
    exact ⟨⟨hl, .refl _⟩, fun _ => rfl⟩
  | cons name rest ih =>
    unfold Listing.createFrom at h
    split at h
    · exact ih hl (isSome_descend?_dropLast hdone) (fun hm => hup (List.dropLast_subset _ hm)) h
    · rename_i hname
      have hup' : ".." ∉ done ++ [name] := by simp [hup, Ne.symm hname]
      split at h
      · rename_i inside hentry
        exact ih hl (by rw [(entryAt_eq_dir_iff hup').mp hentry]; rfl) hup' h
      · cases h
        exact ⟨⟨hl, .refl _⟩, fun _ => rfl⟩
      · cases h
      · cases h
      · cases h
      · cases h
      · rename_i e _ hentry
        -- nothing has this name yet, so the way is clear
        obtain ⟨x, hx⟩ := Option.isSome_iff_exists.mp hdone
        have hfree : ∀ content, x.find? name ≠ some (.file content) := by
          intro content hfind
          have hfile : l.fileAt? (done ++ [name]) = some content := by
            rw [fileAt?_append hx]
            exact fileAt?_singleton_eq_some_iff.mpr hfind
          rw [(entryAt_eq_file_iff hup').mpr hfile] at hentry
          cases hentry
        have hclear : l.Clear (done ++ [name]) := clear_append hx ⟨hfree, trivial⟩
        obtain ⟨hadvances, hsame⟩ := ih (hl.makeDirs _) (hl.descend?_makeDirs _) hup' h
        exact ⟨⟨hadvances.ordered, (hl.grows_makeDirs _).trans hadvances.grows⟩,
          fun names => (hsame names).trans (hl.fileAt?_makeDirs hclear names)⟩

/-- The chain of directories that was made can be followed. -/
theorem Ordered.follow_createFrom (hl : l.Ordered) {done : List String} (hdone : (l.descend? done).isSome)
    (hup : ".." ∉ done) (h : l.createFrom done rest = .ok l') {above : List Listing}
    (hopened : l'.Opened done above x) :
    ∃ e, follow above x rest = .ok e := by
  induction rest generalizing l done above x with
  | nil => exact ⟨.dir x, rfl⟩
  | cons name rest ih =>
    unfold Listing.createFrom at h
    split at h
    · rename_i hname
      subst hname
      have hdone' := isSome_descend?_dropLast hdone
      cases hopened with
      | root => exact ih hl hdone' (by simp) h .root
      | down hopened hfind =>
        rw [List.dropLast_concat] at hdone' h
        exact ih hl hdone' (fun hm => hup (List.mem_append_left _ hm)) h hopened
    · rename_i hname
      have hup' : ".." ∉ done ++ [name] := by simp [hup, Ne.symm hname]
      rw [follow_cons hname]
      split at h
      · rename_i inside hentry
        have hthere : (l.descend? (done ++ [name])).isSome := by
          rw [(entryAt_eq_dir_iff hup').mp hentry]
          rfl
        obtain ⟨i, hfind⟩ := hopened.exists_find? ((hl.createFrom hthere hup' h).1.grows _ hthere)
        rw [hfind]
        exact ih hl hthere hup' h (hopened.down hfind)
      · rename_i inside hentry
        cases h
        rw [entryAt_concat hup' hopened.descend?] at hentry
        cases hfind : x.find? name with
        | none =>
          rw [hfind] at hentry
          cases hentry
        | some e =>
          rw [hfind] at hentry
          cases hentry
          exact ⟨.closed inside, rfl⟩
      · cases h
      · cases h
      · cases h
      · cases h
      · have hthere := hl.descend?_makeDirs (done ++ [name])
        have hmade := hl.makeDirs (done ++ [name])
        obtain ⟨i, hfind⟩ := hopened.exists_find? ((hmade.createFrom hthere hup' h).1.grows _ hthere)
        rw [hfind]
        exact ih hmade hthere hup' h (hopened.down hfind)

/-- Writing a file changes this file alone, in a directory that is there. -/
theorem Ordered.writeAt (hl : l.Ordered) (hup : ".." ∉ names) {text : String}
    (h : l.writeAt names text = .ok l') :
    l.Advances l' ∧ (l.descend? names.dropLast).isSome ∧
      ∀ other, l'.fileAt? other = if other = names then some (.text text) else l.fileAt? other := by
  unfold Listing.writeAt at h
  split at h
  case h_8 hnotdir hfile hdenied hclosed herror hfree hfree' =>
    -- what is left of the guards: the directory is there, and no directory stands in the place
    obtain rfl := Except.ok.inj h
    obtain rfl | ⟨dirs, name, rfl⟩ := names.eq_nil_or_concat
    · exact (hfree l rfl).elim
    · simp only [List.concat_eq_append, List.dropLast_concat, List.getLastD_concat] at *
      have hdirs : ".." ∉ dirs := fun hm => hup (List.mem_append_left _ hm)
      obtain ⟨x, hx⟩ : ∃ x, l.descend? dirs = some x := by
        cases hentry : l.entryAt dirs with
        | error e => exact (herror e hentry).elim
        | ok e =>
          cases e with
          | file content => exact (hfile content hentry).elim
          | closed inside => exact (hclosed inside hentry).elim
          | dir x => exact ⟨x, (entryAt_eq_dir_iff hdirs).mp hentry⟩
      have hplace : ∀ inside, x.find? name ≠ some (.dir inside) := by
        intro inside hfind
        refine hfree inside ?_
        rw [entryAt_concat hup hx, hfind]
        rfl
      refine ⟨⟨hl.putUnder _, hl.grows_putUnder hx hplace⟩, by rw [hx]; rfl, fun other => ?_⟩
      rw [hl.fileAt?_putUnder hx hplace]
  all_goals cases h

end Listing

/-! ### Steps on a disk -/

namespace Disk

variable {d d' : Disk} {path other dir : DiskPath} {text text' : String}

/-- The entries of every directory stand in the order of their names. -/
def Ordered (d : Disk) : Prop := d.root.Ordered

instance (d : Disk) : Decidable d.Ordered := inferInstanceAs (Decidable d.root.Ordered)

theorem Ordered.dirAt? {x : Listing} (hd : d.Ordered) (h : d.dirAt? path = some x) : x.Ordered :=
  of_dirAt? (fun hl hfind => hl.of_find? hfind) hd h

/-- From `d` to `d'` no directory goes away, and the order and the working directory are kept. -/
structure Advances (d d' : Disk) : Prop where
  root : d.root.Advances d'.root
  here : d'.here = d.here

theorem Advances.place (h : d.Advances d') (path : DiskPath) : d'.place path = d.place path := by
  rw [Disk.place, Disk.place, way, way, h.here]

theorem Advances.dirAt? (h : d.Advances d') (hdir : (d.dirAt? path).isSome) : (d'.dirAt? path).isSome := by
  obtain ⟨x, hx⟩ := Option.isSome_iff_exists.mp hdir
  obtain ⟨hpath, hfollow⟩ := dirAt?_eq_some_iff.mp hx
  obtain ⟨x', hx'⟩ := Listing.Opened.root.exists_follow_of_grows h.root.grows .root hfollow
  have hway : d'.way path = d.way path := by rw [way, way, h.here]
  rw [dirAt?_eq_some_iff.mpr ⟨hpath, hway ▸ hx'⟩]
  rfl

theorem Advances.refl (hd : d.Ordered) : d.Advances d := ⟨⟨hd, .refl _⟩, rfl⟩

theorem Advances.ordered (h : d.Advances d') : d'.Ordered := h.root.ordered

theorem Advances.trans {d'' : Disk} (h : d.Advances d') (h' : d'.Advances d'') : d.Advances d'' :=
  ⟨⟨h'.root.ordered, h.root.grows.trans h'.root.grows⟩, h'.here.trans h.here⟩

/-- From `d` to `d'` a file that can be read stays one, and what it holds may change only at the places of the
paths in `written`. -/
structure KeepsBut (written : DiskPath → Prop) (d d' : Disk) : Prop where
  advances : d.Advances d'
  read : ∀ path text, d.read path = .ok text → ∃ text', d'.read path = .ok text' ∧
    ((∀ q, written q → d.place q ≠ d.place path) → text' = text)

namespace KeepsBut

variable {written written' : DiskPath → Prop} {d'' : Disk}

theorem refl (hd : d.Ordered) : KeepsBut written d d := ⟨.refl hd, fun _ text h => ⟨text, h, fun _ => rfl⟩⟩

theorem mono (h : KeepsBut written d d') (hle : ∀ q, written q → written' q) : KeepsBut written' d d' := by
  refine ⟨h.advances, fun path text hread => ?_⟩
  obtain ⟨text', hread', hsame⟩ := h.read path text hread
  exact ⟨text', hread', fun hapart => hsame fun q hq => hapart q (hle q hq)⟩

theorem trans (h : KeepsBut written d d') (h' : KeepsBut written d' d'') : KeepsBut written d d'' := by
  refine ⟨h.advances.trans h'.advances, fun path text hread => ?_⟩
  obtain ⟨text', hread', hsame⟩ := h.read path text hread
  obtain ⟨text'', hread'', hsame'⟩ := h'.read path text' hread'
  refine ⟨text'', hread'', fun hapart => (hsame' fun q hq => ?_).trans (hsame hapart)⟩
  rw [h.advances.place, h.advances.place]
  exact hapart q hq

end KeepsBut

theorem of_createDirs (h : d.createDirs path = .ok d') :
    d.root.createFrom [] (d.way path) = .ok d'.root ∧ d'.here = d.here := by
  unfold Disk.createDirs at h
  cases hroot : d.root.createFrom [] (d.way path) with
  | error e =>
    rw [hroot] at h
    cases h
  | ok root =>
    rw [hroot] at h
    cases h
    exact ⟨rfl, rfl⟩

theorem of_write (h : d.write path text = .ok d') :
    d.root.writeAt (d.place path) text = .ok d'.root ∧ d'.here = d.here := by
  unfold Disk.write at h
  cases hroot : d.root.writeAt (d.place path) text with
  | error e =>
    rw [hroot] at h
    cases h
  | ok root =>
    rw [hroot] at h
    cases h
    exact ⟨rfl, rfl⟩

/-- Making a directory and those that it lies in changes nothing that can be read, and the path leads to the
directory if there is an open one at its place. -/
theorem Ordered.createDirs (hd : d.Ordered) (h : d.createDirs path = .ok d') :
    d.KeepsBut (fun _ => False) d' ∧
      (path.text ≠ "" → (d'.root.descend? (d'.place path)).isSome → (d'.dirAt? path).isSome) := by
  obtain ⟨hroot, hhere⟩ := of_createDirs h
  have hnil : (d.root.descend? []).isSome := rfl
  have hway : d'.way path = d.way path := by rw [way, way, hhere]
  obtain ⟨hadvances, hsame⟩ := Listing.Ordered.createFrom hd hnil (by simp) hroot
  refine ⟨⟨⟨hadvances, hhere⟩, fun other text hread => ?_⟩, fun hpath hthere => ?_⟩
  · obtain ⟨content, hfile, hcontent⟩ := exists_fileAt?_of_read hread
    exact ⟨text, read_of_grows hhere hadvances.grows hread ((hsame _).trans hfile) hcontent, fun _ => rfl⟩
  · obtain ⟨e, hfollow⟩ := Listing.Ordered.follow_createFrom hd hnil (by simp) hroot .root
    suffices hdir : ∃ x, e = .dir x by
      obtain ⟨x, rfl⟩ := hdir
      rw [dirAt?_eq_some_iff.mpr ⟨hpath, hway ▸ hfollow⟩]
      rfl
    by_contra hne
    -- what is no open directory is none that names lead down to
    obtain ⟨dirs, name, x, hcomps, hname, hdirs, hfind⟩ :=
      Listing.exists_of_follow_ne_dir hfollow fun x hx => hne ⟨x, hx⟩
    obtain ⟨above, hopened⟩ := Listing.Opened.root.of_follow hdirs
    rw [place, hway, hcomps, List.foldl_append, List.foldl_cons, List.foldl_nil, takeStep,
      if_neg hname] at hthere
    obtain ⟨inside, hinside⟩ := hopened.exists_find? hthere
    exact hne ⟨inside, Option.some.inj (hfind.symm.trans hinside)⟩

/-- Writing a file changes nothing else that can be read, and the file lies in a directory. -/
theorem Ordered.write (hd : d.Ordered) (h : d.write path text = .ok d') :
    d.KeepsBut (· = path) d' ∧ (d.root.descend? (d.place path).dropLast).isSome ∧
      d'.root.fileAt? (d.place path) = some (.text text) := by
  obtain ⟨hroot, hhere⟩ := of_write h
  obtain ⟨hadvances, hdir, hfiles⟩ := Listing.Ordered.writeAt hd (d.not_mem_place path) hroot
  refine ⟨⟨⟨hadvances, hhere⟩, fun other text' hread => ?_⟩, hdir, by rw [hfiles, if_pos rfl]⟩
  have hfile := hfiles (d.place other)
  by_cases hsame : d.place other = d.place path
  · rw [if_pos hsame] at hfile
    exact ⟨text, read_of_grows hhere hadvances.grows hread hfile rfl,
      fun hapart => absurd hsame.symm (hapart path rfl)⟩
  · obtain ⟨content, hbefore, hcontent⟩ := exists_fileAt?_of_read hread
    rw [if_neg hsame, hbefore] at hfile
    exact ⟨text', read_of_grows hhere hadvances.grows hread hfile hcontent, fun _ => rfl⟩

end Disk

end Folio
