import Folio.Disk.Write
import Folio.Proofs.Directories

/-! # The places of paths

The place of a path is what is left of its way from the root when the steps back are taken.  A path that leads
to a directory or to a file leads to the one at its place (`Disk.descend?_place`, `Disk.fileAt?_place`), since
a step back leaves the directory that was gone down into.  For the converse the directories on the way have to
be there as well, those that are left again included; so what is read at a path is found on another disk that
has all directories of the first, if there is a file at the place (`Disk.read_of_grows`). -/

namespace Folio

open DiskPath (IsStep)

/-! ### Taking steps back -/

theorem foldl_takeStep_of_steps {names : List String} (h : ".." ∉ names) (done : List String) :
    names.foldl takeStep done = done ++ names := by
  induction names generalizing done with
  | nil => exact (List.append_nil done).symm
  | cons s names ih =>
    obtain ⟨hs, hnames⟩ := not_or.mp (List.mem_cons.not.mp h)
    rw [List.foldl_cons, takeStep, if_neg (Ne.symm hs), ih hnames, List.append_assoc, List.singleton_append]

theorem not_mem_foldl_takeStep {done : List String} (hdone : ".." ∉ done) (comps : List String) :
    ".." ∉ comps.foldl takeStep done := by
  induction comps generalizing done with
  | nil => exact hdone
  | cons c comps ih =>
    refine ih ?_
    rw [takeStep]
    split
    · exact fun hm => hdone (List.dropLast_subset _ hm)
    · rename_i hc
      simp [hdone, Ne.symm hc]

theorem not_mem_of_steps {names : List String} (h : ∀ s ∈ names, IsStep s.toList) : ".." ∉ names :=
  fun hm => (h _ hm).ne_dots (by decide)

namespace Listing

variable {l l' x x' y inside : Listing} {done names rest dirs comps : List String} {name : String}
  {above above' : List Listing} {content content' : FileContent}

/-! ### Files by their names -/

/-- The content of the file that a chain of names leads to. -/
def fileAt? : List String → Listing → Option FileContent
  | [], _ => none
  | name :: rest, l =>
    match l.find? name with
    | some (.dir inside) => inside.fileAt? rest
    | some (.file content) => if rest = [] then some content else none
    | some (.closed _) | none => none

theorem fileAt?_append (h : l.descend? dirs = some x) (rest : List String) :
    l.fileAt? (dirs ++ rest) = x.fileAt? rest := by
  induction dirs generalizing l with
  | nil => rw [Option.some.inj h]; rfl
  | cons d dirs ih =>
    obtain ⟨inside, hfind, hrest⟩ := descend?_cons_eq_some_iff.mp h
    rw [List.cons_append, fileAt?, hfind, ← ih hrest]

theorem descend?_append (h : l.descend? dirs = some x) (rest : List String) :
    l.descend? (dirs ++ rest) = x.descend? rest := by
  induction dirs generalizing l with
  | nil => rw [Option.some.inj h]; rfl
  | cons d dirs ih =>
    obtain ⟨inside, hfind, hrest⟩ := descend?_cons_eq_some_iff.mp h
    rw [List.cons_append, descend?, hfind, ← ih hrest]

theorem fileAt?_singleton_eq_some_iff : l.fileAt? [name] = some content ↔ l.find? name = some (.file content) := by
  rw [fileAt?]
  cases l.find? name with
  | none => simp
  | some e => cases e <;> simp [fileAt?]

/-- Names that do not lead upwards lead to a file exactly if it is found below them. -/
theorem follow_eq_file_iff (h : ".." ∉ names) :
    follow above l names = .ok (.file content) ↔ l.fileAt? names = some content := by
  induction names generalizing l above with
  | nil => simp [follow, fileAt?]
  | cons name rest ih =>
    obtain ⟨hname, hrest⟩ := not_or.mp (List.mem_cons.not.mp h)
    rw [follow_cons (Ne.symm hname), fileAt?]
    cases l.find? name with
    | none => simp
    | some e =>
      cases e with
      | file c => cases rest <;> simp
      | closed i => cases rest <;> simp
      | dir inside => exact ih hrest

theorem entryAt_eq_file_iff (h : ".." ∉ names) :
    l.entryAt names = .ok (.file content) ↔ l.fileAt? names = some content := follow_eq_file_iff h

theorem entryAt_eq_dir_iff (h : ".." ∉ names) : l.entryAt names = .ok (.dir x) ↔ l.descend? names = some x :=
  follow_eq_dir_iff h

/-- What a chain of names leads to is what its last name leads to in the directory of the others. -/
theorem entryAt_concat (hup : ".." ∉ dirs ++ [name]) (hdirs : l.descend? dirs = some x) :
    l.entryAt (dirs ++ [name]) = (x.find? name).elim (.error .notFound) .ok := by
  have hname : name ≠ ".." := fun he => hup (by simp [he])
  have hdir : l.entryAt dirs = .ok (.dir x) :=
    (entryAt_eq_dir_iff fun hm => hup (List.mem_append_left _ hm)).mpr hdirs
  obtain ⟨above, hdown⟩ := exists_follow_append hdir
  rw [entryAt, hdown, follow_cons hname]
  cases x.find? name with
  | none => rfl
  | some e => cases e <;> rfl

/-- A path that leads to what is no open directory leads to the directory of that first. -/
theorem exists_of_follow_ne_dir {e : DiskEntry} (h : follow above l comps = .ok e) (he : ∀ x, e ≠ .dir x) :
    ∃ dirs name x, comps = dirs ++ [name] ∧ name ≠ ".." ∧ follow above l dirs = .ok (.dir x) ∧
      x.find? name = some e := by
  induction comps generalizing l above with
  | nil => exact absurd (Except.ok.inj h).symm (he l)
  | cons name rest ih =>
    by_cases hname : name = ".."
    · subst hname
      cases above with
      | nil =>
        obtain ⟨dirs, n, x, rfl, hn, hx, hfind⟩ := ih h
        exact ⟨".." :: dirs, n, x, rfl, hn, hx, hfind⟩
      | cons up above =>
        obtain ⟨dirs, n, x, rfl, hn, hx, hfind⟩ := ih h
        exact ⟨".." :: dirs, n, x, rfl, hn, hx, hfind⟩
    · rw [follow_cons hname] at h
      cases hfind : l.find? name with
      | none => simp [hfind] at h
      | some e' =>
        rw [hfind] at h
        cases e' with
        | closed i =>
          cases rest with
          | cons n rest => cases h
          | nil => exact ⟨[], name, l, rfl, hname, rfl, hfind.trans (congrArg some (Except.ok.inj h))⟩
        | file c =>
          cases rest with
          | cons n rest => cases h
          | nil => exact ⟨[], name, l, rfl, hname, rfl, hfind.trans (congrArg some (Except.ok.inj h))⟩
        | dir inside =>
          obtain ⟨dirs, n, x, rfl, hn, hx, hfile⟩ := ih h
          refine ⟨name :: dirs, n, x, rfl, hn, ?_, hfile⟩
          rw [follow_cons hname, hfind]
          exact hx

/-- A name that does not lead upwards, behind a path to a directory. -/
theorem follow_concat (h : follow above l dirs = .ok (.dir x)) (hname : name ≠ "..")
    (hfind : x.find? name = some (.file content)) : follow above l (dirs ++ [name]) = .ok (.file content) := by
  obtain ⟨above', hdown⟩ := exists_follow_append h
  rw [hdown, follow_cons hname, hfind]

/-! ### Going down and up again -/

/-- `l.Opened done above x`: the names `done` lead down from `l` to the directory `x`, through those in
`above`. -/
inductive Opened (l : Listing) : List String → List Listing → Listing → Prop
  | root : l.Opened [] [] l
  | down {done : List String} {above : List Listing} {x inside : Listing} {name : String}
      (h : l.Opened done above x) (hfind : x.find? name = some (.dir inside)) :
      l.Opened (done ++ [name]) (x :: above) inside

theorem Opened.descend? (h : l.Opened done above x) : l.descend? done = some x := by
  induction h with
  | root => rfl
  | down h hfind ih =>
    rw [descend?_append ih, Listing.descend?, hfind]
    rfl

theorem Opened.exists_find? (h : l.Opened done above x) (hdir : (l.descend? (done ++ [name])).isSome) :
    ∃ inside, x.find? name = some (.dir inside) := by
  obtain ⟨inside, hinside⟩ := Option.isSome_iff_exists.mp hdir
  rw [descend?_append h.descend?] at hinside
  obtain ⟨i, hfind, -⟩ := descend?_cons_eq_some_iff.mp hinside
  exact ⟨i, hfind⟩

/-- A path to a directory leads down to its place. -/
theorem Opened.of_follow (h : l.Opened done above x) (hdir : follow above x comps = .ok (.dir y)) :
    ∃ above', l.Opened (comps.foldl takeStep done) above' y := by
  induction comps generalizing done above x with
  | nil =>
    obtain rfl : x = y := by simpa [follow] using hdir
    exact ⟨above, h⟩
  | cons name rest ih =>
    rw [List.foldl_cons, takeStep]
    by_cases hname : name = ".."
    · subst hname
      rw [if_pos rfl]
      cases h with
      | root => exact ih .root hdir
      | down h hfind =>
        rw [List.dropLast_concat]
        exact ih h hdir
    · rw [follow_cons hname] at hdir
      rw [if_neg hname]
      cases hfind : x.find? name with
      | none => simp [hfind] at hdir
      | some e =>
        rw [hfind] at hdir
        cases e with
        | closed i => cases rest <;> cases hdir
        | file c => cases rest <;> cases hdir
        | dir inside => exact ih (h.down hfind) hdir

/-- A path to a file leads to the one that is found at its place. -/
theorem Opened.fileAt?_of_follow (h : l.Opened done above x) (hfile : follow above x comps = .ok (.file content)) :
    l.fileAt? (comps.foldl takeStep done) = some content := by
  obtain ⟨dirs, name, y, rfl, hname, hdir, hfind⟩ := exists_of_follow_ne_dir hfile (by simp)
  obtain ⟨above', hopened⟩ := h.of_follow hdir
  rw [List.foldl_append, List.foldl_cons, List.foldl_nil, takeStep, if_neg hname,
    fileAt?_append hopened.descend?]
  exact fileAt?_singleton_eq_some_iff.mpr hfind

/-- `l'` has a directory wherever `l` has one. -/
def Grows (l l' : Listing) : Prop := ∀ names, (l.descend? names).isSome → (l'.descend? names).isSome

theorem Grows.refl (l : Listing) : l.Grows l := fun _ h => h

theorem Grows.trans (h : l.Grows l') (h' : l'.Grows x) : l.Grows x := fun names hn => h' names (h names hn)

/-- A path to a directory leads to one where no directory has gone away. -/
theorem Opened.exists_follow_of_grows (hgrows : l.Grows l') (h : l.Opened done above x)
    (h' : l'.Opened done above' x') (hdir : follow above x comps = .ok (.dir y)) :
    ∃ y', follow above' x' comps = .ok (.dir y') := by
  induction comps generalizing done above x above' x' with
  | nil => exact ⟨x', rfl⟩
  | cons name rest ih =>
    by_cases hname : name = ".."
    · subst hname
      -- both ways end at the root, or both have come down by one name
      cases h with
      | root =>
        generalize hnil : ([] : List String) = none' at h'
        cases h' with
        | root => exact ih .root .root hdir
        | down => simp at hnil
      | @down done _ _ _ n h hfind =>
        generalize hlast : done ++ [n] = done' at h'
        cases h' with
        | root => simp at hlast
        | down h' hfind' =>
          obtain ⟨rfl, -⟩ := List.append_inj' hlast rfl
          exact ih h h' hdir
    · rw [follow_cons hname] at hdir ⊢
      cases hfind : x.find? name with
      | none => simp [hfind] at hdir
      | some e =>
        rw [hfind] at hdir
        cases e with
        | closed i => cases rest <;> cases hdir
        | file c => cases rest <;> cases hdir
        | dir inside =>
          have hthere := hgrows (done ++ [name]) (by rw [(h.down hfind).descend?]; rfl)
          obtain ⟨inside', hfind'⟩ := h'.exists_find? hthere
          rw [hfind']
          exact ih (h.down hfind) (h'.down hfind') hdir

end Listing

/-! ### Places on a disk -/

namespace Disk

variable {d d' : Disk} {path dir : DiskPath} {x : Listing} {content : FileContent} {names : List String}
  {name text : String}

theorem not_mem_place (d : Disk) (path : DiskPath) : ".." ∉ d.place path :=
  not_mem_foldl_takeStep (by simp) _

/-- Joined steps lead on from the place of the path. -/
theorem place_joinAll (hpath : path.text ≠ "") (hnames : ∀ s ∈ names, IsStep s.toList) :
    d.place (path.joinAll names) = d.place path ++ names := by
  rw [place, way_joinAll hpath hnames, List.foldl_append, foldl_takeStep_of_steps (not_mem_of_steps hnames)]
  rfl

/-- A path that stays below the working directory has its place there. -/
theorem place_of_inside? (hhere : ".." ∉ d.here) (h : path.inside? = some names) :
    d.place path = d.here ++ names := by
  unfold DiskPath.inside? at h
  split at h
  · cases h
  · rename_i hrel
    have hsteps : ∀ {comps done : List String}, comps.foldlM (fun (done : List String) c =>
        if c = ".." ∧ done = [] then none else some (takeStep done c)) done = some names →
          comps.foldl takeStep (d.here ++ done) = d.here ++ names := by
      intro comps
      induction comps with
      | nil => exact fun h => congrArg _ (Option.some.inj h)
      | cons c comps ih =>
        intro done h
        rw [List.foldlM_cons] at h
        obtain ⟨done', hstep, hrest⟩ := Option.bind_eq_some_iff.mp h
        split at hstep
        · cases hstep
        · rename_i hdown
          have hdone : takeStep (d.here ++ done) c = d.here ++ done' := by
            rw [← Option.some.inj hstep, takeStep, takeStep]
            split
            · rename_i hup
              exact List.dropLast_append_of_ne_nil fun hnil => hdown ⟨hup, hnil⟩
            · exact List.append_assoc _ _ _
          rw [List.foldl_cons, hdone]
          exact ih hrest
    rw [place, way, if_neg hrel, List.foldl_append, foldl_takeStep_of_steps hhere, List.nil_append]
    simpa using hsteps h

theorem lookUp_eq_file_iff :
    d.lookUp path = .ok (.file content) ↔ path.text ≠ "" ∧ path.demandsDirectory = false ∧
      Listing.follow [] d.root (d.way path) = .ok (.file content) := by
  unfold lookUp
  by_cases hpath : path.text = ""
  · simp [hpath]
  · rw [if_neg hpath]
    cases hfollow : Listing.follow [] d.root (d.way path) with
    | error e => simp
    | ok e =>
      cases e with
      | dir y => simp
      | closed i => simp
      | file c => cases path.demandsDirectory <;> simp [hpath]

/-- A path to a file leads to the one at its place. -/
theorem fileAt?_place (h : d.lookUp path = .ok (.file content)) :
    d.root.fileAt? (d.place path) = some content :=
  Listing.Opened.root.fileAt?_of_follow (lookUp_eq_file_iff.mp h).2.2

/-! ### Reading -/

theorem read_eq_ok_iff :
    d.read path = .ok text ↔ ∃ content, d.lookUp path = .ok (.file content) ∧ content.read = .ok text := by
  unfold read
  cases d.lookUp path with
  | error e => simp
  | ok e => cases e <;> simp

/-- What is read stands at the place of the path. -/
theorem exists_fileAt?_of_read (h : d.read path = .ok text) :
    ∃ content, d.root.fileAt? (d.place path) = some content ∧ content.read = .ok text := by
  obtain ⟨content, hlook, hcontent⟩ := read_eq_ok_iff.mp h
  exact ⟨content, fileAt?_place hlook, hcontent⟩

/-- Where no directory has gone away, a path that was read leads to the file that is at its place now. -/
theorem read_of_grows (hhere : d'.here = d.here) (hgrows : d.root.Grows d'.root) {text' : String}
    (hread : d.read path = .ok text') (hfile : d'.root.fileAt? (d.place path) = some content)
    (hcontent : content.read = .ok text) : d'.read path = .ok text := by
  obtain ⟨content', hlook, -⟩ := read_eq_ok_iff.mp hread
  obtain ⟨hpath, hdemands, hfollow⟩ := lookUp_eq_file_iff.mp hlook
  obtain ⟨dirs, name, y, hway, hname, hdir, -⟩ := Listing.exists_of_follow_ne_dir hfollow (by simp)
  have hway' : d'.way path = dirs ++ [name] := by
    rw [← hway, way, way, hhere]
  obtain ⟨y', hdir'⟩ := Listing.Opened.root.exists_follow_of_grows hgrows .root hdir
  obtain ⟨above, hopened⟩ := Listing.Opened.root.of_follow hdir'
  rw [place, hway, List.foldl_append, List.foldl_cons, List.foldl_nil, takeStep, if_neg hname,
    Listing.fileAt?_append hopened.descend?, Listing.fileAt?_singleton_eq_some_iff] at hfile
  have hfollow' := Listing.follow_concat hdir' hname hfile
  exact read_eq_ok_iff.mpr ⟨content, lookUp_eq_file_iff.mpr ⟨hpath, hdemands, hway' ▸ hfollow'⟩, hcontent⟩

end Disk

end Folio
