import Folio.Content.Tree
import Folio.Proofs.PathSegments

/-! # Going down directories

In a listing as a file system gives it (`Listing.WellNamed`), names are texts without slashes and a name
stands once in a directory.  A path on disk that is joined from clean segments leads where going down the
directories of these names leads (`Disk.dirAt?_joinAll`), and what is found that way is well named again.
No way leads down into a closed directory. -/

namespace Folio

open ContentPath (IsName IsClean)

/-! ### Listings as file systems give them -/

instance (s : List Char) : Decidable (IsName s) :=
  decidable_of_iff (s ≠ [] ∧ '/' ∉ s) ⟨fun h => ⟨h.1, h.2⟩, fun h => ⟨h.1, h.2⟩⟩

namespace Listing

/-- No name is empty or holds a slash, and none stands twice in a directory. -/
def WellNamed : Listing → Prop
  | nil => True
  | file name _ next => IsName name.toList ∧ next.find? name = none ∧ next.WellNamed
  | dir name inside next | closed name inside next =>
    IsName name.toList ∧ next.find? name = none ∧ inside.WellNamed ∧ next.WellNamed

instance WellNamed.decidable : (l : Listing) → Decidable l.WellNamed
  | nil => .isTrue trivial
  | file name _ next =>
    have := WellNamed.decidable next
    inferInstanceAs (Decidable (IsName name.toList ∧ next.find? name = none ∧ next.WellNamed))
  | dir name inside next | closed name inside next =>
    have := WellNamed.decidable inside
    have := WellNamed.decidable next
    inferInstanceAs (Decidable
      (IsName name.toList ∧ next.find? name = none ∧ inside.WellNamed ∧ next.WellNamed))

/-- `l.HasDir name inside`: one of the entries is an open directory of that name that holds `inside`. -/
def HasDir : Listing → String → Listing → Prop
  | nil, _, _ => False
  | file _ _ next, name, inside | closed _ _ next, name, inside => next.HasDir name inside
  | dir n i next, name, inside => (n = name ∧ i = inside) ∨ next.HasDir name inside

variable {l inside : Listing} {name : String}

theorem HasDir.find?_ne_none (h : l.HasDir name inside) : l.find? name ≠ none := by
  induction l with
  | nil => exact h.elim
  | file n c next ih =>
    rw [find?]
    split
    · simp
    · exact ih h
  | dir n i next _ ih =>
    rw [find?]
    split
    · simp
    · rename_i hn
      exact ih (Or.resolve_left h fun e => hn e.1)
  | closed n i next _ ih =>
    rw [find?]
    split
    · simp
    · exact ih h

theorem HasDir.of_find? (h : l.find? name = some (.dir inside)) : l.HasDir name inside := by
  induction l with
  | nil => cases h
  | file n c next ih =>
    rw [find?] at h
    split at h
    · cases h
    · exact ih h
  | dir n i next _ ih =>
    rw [find?] at h
    split at h
    · rename_i hn
      cases h
      exact Or.inl ⟨hn, rfl⟩
    · exact Or.inr (ih h)
  | closed n i next _ ih =>
    rw [find?] at h
    split at h
    · cases h
    · exact ih h

/-- A directory that stands among the entries is the one that its name leads to. -/
theorem WellNamed.find?_of_hasDir (hl : l.WellNamed) (h : l.HasDir name inside) :
    l.find? name = some (.dir inside) := by
  induction l with
  | nil => exact h.elim
  | file n c next ih =>
    obtain ⟨-, hnone, hnext⟩ := hl
    rw [find?, if_neg]
    · exact ih hnext h
    · rintro rfl
      exact HasDir.find?_ne_none (l := next) h hnone
  | dir n i next _ ih =>
    obtain ⟨-, hnone, -, hnext⟩ := hl
    rcases h with ⟨rfl, rfl⟩ | h
    · rw [find?, if_pos rfl]
    · rw [find?, if_neg]
      · exact ih hnext h
      · rintro rfl
        exact HasDir.find?_ne_none h hnone
  | closed n i next _ ih =>
    obtain ⟨-, hnone, -, hnext⟩ := hl
    rw [find?, if_neg]
    · exact ih hnext h
    · rintro rfl
      exact HasDir.find?_ne_none (l := next) h hnone

theorem WellNamed.of_hasDir (hl : l.WellNamed) (h : l.HasDir name inside) : inside.WellNamed := by
  induction l with
  | nil => exact h.elim
  | file n c next ih => exact ih hl.2.2 h
  | dir n i next _ ih =>
    rcases h with ⟨rfl, rfl⟩ | h
    · exact hl.2.2.1
    · exact ih hl.2.2.2 h
  | closed n i next _ ih => exact ih hl.2.2.2 h

theorem WellNamed.isName_of_mem_names {e : String × Bool} (hl : l.WellNamed) (h : e ∈ l.names) :
    IsName e.1.toList := by
  induction l with
  | nil => cases h
  | file n c next ih =>
    rcases List.mem_cons.mp h with rfl | h
    · exact hl.1
    · exact ih hl.2.2 h
  | dir n i next _ ih | closed n i next _ ih =>
    rcases List.mem_cons.mp h with rfl | h
    · exact hl.1
    · exact ih hl.2.2.2 h

theorem HasDir.mem_names (h : l.HasDir name inside) : (name, true) ∈ l.names := by
  induction l with
  | nil => exact h.elim
  | file n c next ih | closed n i next _ ih => exact List.mem_cons_of_mem _ (ih h)
  | dir n i next _ ih =>
    rcases h with ⟨rfl, rfl⟩ | h
    · exact List.mem_cons_self
    · exact List.mem_cons_of_mem _ (ih h)

/-! ### Following components -/

/-- Goes down the directories of the given names. -/
def descend? : List String → Listing → Option Listing
  | [], l => some l
  | name :: rest, l =>
    match l.find? name with
    | some (.dir inside) => inside.descend? rest
    | _ => none

theorem descend?_cons_eq_some_iff {rest : List String} {x : Listing} :
    l.descend? (name :: rest) = some x ↔
      ∃ inside, l.find? name = some (.dir inside) ∧ inside.descend? rest = some x := by
  rw [descend?]
  cases l.find? name with
  | none => simp
  | some e => cases e <;> simp

/-- What holds inside of every directory for which it holds is kept by going down. -/
theorem of_descend? {P : Listing → Prop} {names : List String} {x : Listing}
    (step : ∀ {l name inside}, P l → l.find? name = some (.dir inside) → P inside) (hl : P l)
    (h : l.descend? names = some x) : P x := by
  induction names generalizing l with
  | nil =>
    cases h
    exact hl
  | cons name rest ih =>
    obtain ⟨inside, hfind, hrest⟩ := descend?_cons_eq_some_iff.mp h
    exact ih (step hl hfind) hrest

theorem WellNamed.descend? {names : List String} {x : Listing} (hl : l.WellNamed)
    (h : l.descend? names = some x) : x.WellNamed :=
  of_descend? (fun hl hfind => hl.of_hasDir (.of_find? hfind)) hl h

section Follow

variable {above : List Listing} {comps rest : List String} {x : Listing}

theorem follow_cons (h : name ≠ "..") (above : List Listing) (rest : List String) :
    follow above l (name :: rest) =
      match l.find? name, rest with
      | none, _ => .error .notFound
      | some (.dir inside), _ => follow (l :: above) inside rest
      | some (.file content), [] => .ok (.file content)
      | some (.file _), _ :: _ => .error .notDirectory
      | some (.closed inside), [] => .ok (.closed inside)
      | some (.closed _), _ :: _ => .error .denied := by
  cases hfind : l.find? name with
  | none => simp [follow, hfind]
  | some e =>
    cases e with
    | dir inside => simp [follow, hfind]
    | file c => cases rest <;> simp [follow, hfind]
    | closed i => cases rest <;> simp [follow, hfind]

/-- Components that never lead upwards lead down. -/
theorem follow_eq_dir_iff (h : ".." ∉ comps) :
    follow above l comps = .ok (.dir x) ↔ l.descend? comps = some x := by
  induction comps generalizing l above with
  | nil => simp [follow, descend?]
  | cons name rest ih =>
    obtain ⟨hname, hrest⟩ := not_or.mp (List.mem_cons.not.mp h)
    rw [follow_cons (Ne.symm hname), descend?]
    cases l.find? name with
    | none => simp
    | some e =>
      cases e with
      | file c => cases rest <;> simp
      | closed i => cases rest <;> simp
      | dir inside => exact ih hrest

/-- What comes behind a path to a directory is followed from the directory. -/
theorem exists_follow_append (h : follow above l comps = .ok (.dir x)) :
    ∃ above', ∀ down, follow above l (comps ++ down) = follow above' x down := by
  induction comps generalizing l above with
  | nil =>
    obtain rfl : l = x := by simpa [follow] using h
    exact ⟨above, fun _ => rfl⟩
  | cons name rest ih =>
    by_cases hname : name = ".."
    · subst hname
      cases above with
      | nil => exact ih h
      | cons up above => exact ih h
    · rw [follow_cons hname] at h
      cases hfind : l.find? name with
      | none => simp [hfind] at h
      | some e =>
        cases e with
        | file c => cases rest <;> simp [hfind] at h
        | closed i => cases rest <;> simp [hfind] at h
        | dir inside =>
          rw [hfind] at h
          obtain ⟨above', hdown⟩ := ih h
          refine ⟨above', fun down => ?_⟩
          rw [List.cons_append, follow_cons hname, hfind]
          exact hdown down

/-- What holds inside of every directory for which it holds is kept by following components. -/
theorem of_follow {P : Listing → Prop}
    (step : ∀ {l name inside}, P l → l.find? name = some (.dir inside) → P inside)
    (habove : ∀ k ∈ above, P k) (hl : P l) (h : follow above l comps = .ok (.dir x)) : P x := by
  induction comps generalizing l above with
  | nil =>
    simp only [Listing.follow, Except.ok.injEq, DiskEntry.dir.injEq] at h
    exact h ▸ hl
  | cons name rest ih =>
    by_cases hname : name = ".."
    · subst hname
      cases above with
      | nil => exact ih habove hl h
      | cons up above =>
        obtain ⟨hup, habove⟩ := List.forall_mem_cons.mp habove
        exact ih habove hup h
    · rw [follow_cons hname] at h
      cases hfind : l.find? name with
      | none => simp [hfind] at h
      | some e =>
        cases e with
        | file c => cases rest <;> simp [hfind] at h
        | closed i => cases rest <;> simp [hfind] at h
        | dir inside =>
          rw [hfind] at h
          exact ih (List.forall_mem_cons.mpr ⟨hl, habove⟩) (step hl hfind) h

end Follow

end Listing

/-! ### Joined paths -/

/-- A name that leads one step down on disk; clean names do, and so do names with quotation marks. -/
structure DiskPath.IsStep (s : List Char) : Prop extends IsName s where
  ne_dot : s ≠ ['.']
  ne_dots : s ≠ ['.', '.']

theorem ContentPath.IsClean.isStep {s : List Char} (h : IsClean s) : DiskPath.IsStep s :=
  ⟨h.isName, h.ne_dot, h.ne_dots⟩

namespace DiskPath

variable {p : DiskPath} {s : String}

theorem toList_join (hp : p.text ≠ "") (hs : IsStep s.toList) :
    ∃ front, (p.join s).text.toList = front ++ '/' :: s.toList ∧
      (p.text.toList = front ∨ p.text.toList = front ++ ['/']) := by
  have hhead : s.toList.head? ≠ some '/' := fun h => hs.no_slash (List.mem_of_mem_head? h)
  rw [join, if_neg (by simp [hhead, hp])]
  split
  · rename_i hlast
    obtain ⟨front, hfront⟩ := List.getLast?_eq_some_iff.mp hlast
    exact ⟨front, by simp [hfront], .inr hfront⟩
  · exact ⟨p.text.toList, by simp, .inl rfl⟩

theorem text_join_ne (hp : p.text ≠ "") (hs : IsStep s.toList) : (p.join s).text ≠ "" := by
  obtain ⟨front, htext, -⟩ := toList_join hp hs
  intro h
  simp [h] at htext

theorem isAbsolute_join (hp : p.text ≠ "") (hs : IsStep s.toList) :
    (p.join s).isAbsolute = p.isAbsolute := by
  obtain ⟨front, htext, hfront⟩ := toList_join hp hs
  rw [isAbsolute, isAbsolute, htext]
  cases front with
  | nil =>
    rcases hfront with h | h
    · exact absurd (String.toList_eq_nil_iff.mp h) hp
    · simp [h]
  | cons c front => rcases hfront with h | h <;> simp [h]

theorem components_join (hp : p.text ≠ "") (hs : IsStep s.toList) :
    (p.join s).components = p.components ++ [s] := by
  obtain ⟨front, htext, hfront⟩ := toList_join hp hs
  have hpieces : Text.pieces ContentPath.isSlash (p.join s).text.toList =
      Text.pieces ContentPath.isSlash front ++ [s.toList] := by
    rw [htext, Text.pieces_append (by decide), ContentPath.pieces_name hs.toIsName]
  rw [components, components, hpieces]
  rcases hfront with h | h
  · simp [h, hs.ne_nil, hs.ne_dot]
  · rw [h, Text.pieces_append (by decide)]
    simp [Text.pieces, hs.ne_nil, hs.ne_dot]

variable {segs : List String}

theorem joinAll_of_steps (hp : p.text ≠ "") (h : ∀ s ∈ segs, IsStep s.toList) :
    (p.joinAll segs).text ≠ "" ∧ (p.joinAll segs).isAbsolute = p.isAbsolute ∧
      (p.joinAll segs).components = p.components ++ segs := by
  induction segs generalizing p with
  | nil => exact ⟨hp, rfl, (List.append_nil _).symm⟩
  | cons s segs ih =>
    obtain ⟨hs, hsegs⟩ := List.forall_mem_cons.mp h
    obtain ⟨htext, habs, hcomps⟩ := ih (text_join_ne hp hs) hsegs
    refine ⟨htext, habs.trans (isAbsolute_join hp hs), hcomps.trans ?_⟩
    rw [components_join hp hs, List.append_assoc, List.singleton_append]

end DiskPath

/-! ### Directories at a path -/

namespace Disk

variable {d : Disk} {x content : Listing} {path : DiskPath} {segs : List String}

/-- A disk whose listings are well named. -/
def WellNamed (d : Disk) : Prop := d.root.WellNamed

instance (d : Disk) : Decidable d.WellNamed := inferInstanceAs (Decidable d.root.WellNamed)

theorem dirAt?_eq_some_iff :
    d.dirAt? path = some x ↔ path.text ≠ "" ∧ Listing.follow [] d.root (d.way path) = .ok (.dir x) := by
  unfold dirAt? at? lookUp
  by_cases hpath : path.text = ""
  · rw [if_pos hpath]
    simp [Except.toOption, hpath]
  · rw [if_neg hpath]
    cases hfollow : Listing.follow [] d.root (d.way path) with
    | error e => simp [Except.toOption]
    | ok e =>
      cases e with
      | dir y => simp [Except.toOption, hpath]
      | closed i => simp [Except.toOption]
      | file c => cases path.demandsDirectory <;> simp [Except.toOption]

theorem of_dirAt? {P : Listing → Prop}
    (step : ∀ {l name inside}, P l → l.find? name = some (.dir inside) → P inside) (hroot : P d.root)
    (h : d.dirAt? path = some x) : P x :=
  Listing.of_follow step (by simp) hroot (dirAt?_eq_some_iff.mp h).2

theorem WellNamed.dirAt? (hd : d.WellNamed) (h : d.dirAt? path = some x) : x.WellNamed :=
  of_dirAt? (fun hl hfind => hl.of_hasDir (.of_find? hfind)) hd h

/-- Joined steps are taken one after the other. -/
theorem way_joinAll (hpath : path.text ≠ "") (hsegs : ∀ s ∈ segs, DiskPath.IsStep s.toList) :
    d.way (path.joinAll segs) = d.way path ++ segs := by
  obtain ⟨-, habs, hcomps⟩ := DiskPath.joinAll_of_steps hpath hsegs
  rw [way, way, habs, hcomps]
  split
  · rfl
  · exact (List.append_assoc _ _ _).symm

/-- Joined steps lead down from the directory that they are joined to. -/
theorem dirAt?_joinAll_of_steps (h : d.dirAt? path = some content)
    (hsegs : ∀ s ∈ segs, DiskPath.IsStep s.toList) :
    d.dirAt? (path.joinAll segs) = content.descend? segs := by
  obtain ⟨hpath, hfollow⟩ := dirAt?_eq_some_iff.mp h
  have hdown : ".." ∉ segs := fun hm => (hsegs _ hm).ne_dots (by decide)
  obtain ⟨above, habove⟩ := Listing.exists_follow_append hfollow
  ext x
  rw [dirAt?_eq_some_iff, way_joinAll hpath hsegs, habove, Listing.follow_eq_dir_iff hdown]
  exact and_iff_right (DiskPath.joinAll_of_steps hpath hsegs).1

/-- Joined clean segments lead down as well. -/
theorem dirAt?_joinAll (h : d.dirAt? path = some content) (hsegs : ∀ s ∈ segs, IsClean s.toList) :
    d.dirAt? (path.joinAll segs) = content.descend? segs :=
  dirAt?_joinAll_of_steps h fun s hs => (hsegs s hs).isStep

end Disk

end Folio
