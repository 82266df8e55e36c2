import Folio.Content.Tree
import Folio.Proofs.Places

/-! # Files of content paths

A content path is looked up by paths on disk: first a file beside it that has its name and a markdown
extension, then the index of the directory there.  Told by names, this is `Listing.found?`, which goes down
the content directory and knows nothing of how paths are written (`ContentTree.fileOf?_ofSegments`). -/

namespace Folio

open ContentPath (IsName)
open DiskPath (IsStep)

/-! ### Paths on disk -/

namespace DiskPath

variable {p q dir : DiskPath} {s : String}

/-- Two paths that lead to one place, however they are written. -/
structure SamePlace (p q : DiskPath) : Prop where
  absolute : p.isAbsolute = q.isAbsolute
  components : p.components = q.components

theorem SamePlace.refl (p : DiskPath) : p.SamePlace p := ⟨rfl, rfl⟩

theorem SamePlace.join (h : p.SamePlace q) (hp : p.text ≠ "") (hq : q.text ≠ "") (hs : IsStep s.toList) :
    (p.join s).SamePlace (q.join s) where
  absolute := by rw [isAbsolute_join hp hs, isAbsolute_join hq hs, h.absolute]
  components := by rw [components_join hp hs, components_join hq hs, h.components]

theorem getLast?_dropFiller {cs : List Char} {c : Char} (h : cs.getLast? = some c) (hc : c ≠ '/') :
    (dropFiller cs).getLast? = some c := by
  fun_induction dropFiller cs with
  | case1 rest ih =>
    cases rest with
    | nil => exact absurd (Option.some.inj h).symm hc
    | cons d rest => exact ih (by simpa using h)
  | case2 rest ih => exact ih (by simpa using h)
  | case3 rest => exact h

/-- Slashes and lone dots at the end of a path are no components. -/
theorem components_dropFiller (cs : List Char) :
    (⟨String.ofList (dropFiller cs).reverse⟩ : DiskPath).components =
      (⟨String.ofList cs.reverse⟩ : DiskPath).components := by
  have hslash : ∀ (rest piece : List Char), '/' ∉ piece → (piece = [] ∨ piece = ['.']) →
      (⟨String.ofList (rest.reverse ++ '/' :: piece)⟩ : DiskPath).components =
        (⟨String.ofList rest.reverse⟩ : DiskPath).components := by
    intro rest piece hpiece hfiller
    have hpieces : Text.pieces ContentPath.isSlash piece = [piece] :=
      Text.pieces_of_forall_not fun c hc =>
        (ContentPath.isSlash_eq_false_iff c).mpr fun e => hpiece (e ▸ hc)
    simp only [components, String.toList_ofList]
    rw [Text.pieces_append (by decide), hpieces]
    rcases hfiller with rfl | rfl <;> simp
  fun_induction dropFiller cs with
  | case1 rest ih =>
    rw [ih, List.reverse_cons]
    exact (hslash rest [] (by simp) (.inl rfl)).symm
  | case2 rest ih =>
    rw [ih, List.reverse_cons, List.reverse_cons, List.reverse_cons, List.append_assoc]
    exact (hslash rest [] (by simp) (.inl rfl)).trans (hslash rest ['.'] (by decide) (.inr rfl)).symm
  | case3 rest => rfl

/-- A step at the end of a text is neither filler nor the end of a path that can only name a directory. -/
theorem reverse_append_ne (hs : IsStep s.toList) (rest more : List Char) :
    s.toList.reverse ++ rest ≠ '/' :: more ∧ s.toList.reverse ++ rest ≠ '.' :: '/' :: more := by
  cases hrev : s.toList.reverse with
  | nil => exact absurd (List.reverse_eq_nil_iff.mp hrev) hs.ne_nil
  | cons c cs =>
    have hmem : ∀ d ∈ c :: cs, d ≠ '/' := by
      intro d hd he
      rw [← hrev, List.mem_reverse, he] at hd
      exact hs.no_slash hd
    refine ⟨fun he => hmem c List.mem_cons_self (List.cons.inj he).1, fun he => ?_⟩
    obtain ⟨rfl, htail⟩ := List.cons.inj he
    cases cs with
    | nil => exact hs.ne_dot (List.reverse_eq_cons_iff.mp hrev)
    | cons d cs => exact hmem d (by simp) (List.cons.inj htail).1

theorem dropFiller_reverse_append (hs : IsStep s.toList) (rest : List Char) :
    dropFiller (s.toList.reverse ++ rest) = s.toList.reverse ++ rest := by
  rw [dropFiller]
  · exact fun more => (reverse_append_ne hs rest more).1
  · exact fun more => (reverse_append_ne hs rest more).2

theorem demandsDirectory_join (hp : p.text ≠ "") (hs : IsStep s.toList) :
    (p.join s).demandsDirectory = false := by
  obtain ⟨front, htext, -⟩ := toList_join hp hs
  have hback : (p.join s).text.toList.reverse = s.toList.reverse ++ '/' :: front.reverse := by
    rw [htext]
    simp
  unfold demandsDirectory
  rw [hback]
  split
  · rename_i more he
    exact absurd he (reverse_append_ne hs _ more).1
  · rename_i more he
    exact absurd he (reverse_append_ne hs _ more).2
  · rfl

theorem dropFiller_suffix (cs : List Char) : dropFiller cs <:+ cs := by
  fun_induction dropFiller cs with
  | case1 rest ih => exact ih.trans (List.suffix_cons _ _)
  | case2 rest ih => exact ih.trans (List.suffix_cons _ _)
  | case3 rest => exact List.suffix_rfl

/-- What holds a path that is joined from a directory and a step is the directory. -/
theorem parent?_join (hp : p.text ≠ "") (hs : IsStep s.toList) :
    ∃ dir, (p.join s).parent? = some dir ∧ dir.text ≠ "" ∧ dir.SamePlace p := by
  obtain ⟨front, htext, hfront⟩ := toList_join hp hs
  have hstop : ∀ c ∈ s.toList.reverse, decide (c ≠ '/') = true := fun c hc =>
    decide_eq_true fun e => hs.no_slash (e ▸ List.mem_reverse.mp hc)
  have hbody : (p.join s).text.toList.reverse = s.toList.reverse ++ '/' :: front.reverse := by
    rw [htext]
    simp
  have hne : s.toList.reverse ++ '/' :: front.reverse ≠ [] := by simp
  have hcomps : (⟨String.ofList (front ++ ['/'])⟩ : DiskPath).components = p.components := by
    rw [components, components, String.toList_ofList]
    rcases hfront with h | h
    · rw [h, Text.pieces_append (by decide)]
      simp [Text.pieces]
    · rw [h]
  have hparent : (p.join s).parent? =
      if dropFiller ('/' :: front.reverse) = [] then some ⟨"/"⟩
      else some ⟨String.ofList (dropFiller ('/' :: front.reverse)).reverse⟩ := by
    rw [parent?, hbody, dropFiller_reverse_append hs]
    dsimp only
    rw [if_neg hne, List.dropWhile_append_of_pos hstop, List.dropWhile_cons_of_neg (by decide),
      if_neg (List.cons_ne_nil _ _)]
    cases dropFiller ('/' :: front.reverse) <;> rfl
  -- both paths start with one character, if something is left
  have hhead : ('/' :: front.reverse).getLast? = p.text.toList.head? := by
    rw [← List.head?_reverse, List.reverse_cons, List.reverse_reverse]
    cases front with
    | nil => exact (hfront.resolve_left fun h => hp (String.toList_eq_nil_iff.mp h)) ▸ rfl
    | cons c front => rcases hfront with h | h <;> simp [h]
  have hback := components_dropFiller ('/' :: front.reverse)
  rw [List.reverse_cons, List.reverse_reverse, hcomps] at hback
  cases hdropped : dropFiller ('/' :: front.reverse) with
  | nil =>
    -- only slashes and lone dots stand before the step
    rw [hdropped] at hparent hback
    refine ⟨_, hparent, by simp, ?_, hback⟩
    obtain ⟨c, hc⟩ : ∃ c, ('/' :: front.reverse).getLast? = some c :=
      ⟨_, List.getLast?_eq_some_getLast (List.cons_ne_nil _ _)⟩
    obtain rfl : c = '/' := by
      by_contra hne
      have hlast := getLast?_dropFiller hc hne
      rw [hdropped] at hlast
      cases hlast
    rw [isAbsolute, isAbsolute, ← hhead, hc]
    rfl
  | cons c cs =>
    rw [hdropped] at hparent hback
    refine ⟨_, hparent, by simp, ?_, hback⟩
    obtain ⟨dropped, hsplit⟩ := dropFiller_suffix ('/' :: front.reverse)
    rw [hdropped] at hsplit
    rw [isAbsolute, isAbsolute, ← hhead, String.toList_ofList, List.head?_reverse, ← hsplit]
    simp

end DiskPath

/-- A document name is a step if what stands before the extension is a name. -/
theorem ContentPath.IsName.isStep_document {name ext : String} (h : IsName name.toList)
    (hext : ext ∈ markdownExtensions) : IsStep (name ++ "." ++ ext).toList := by
  have hext' : '/' ∉ ext.toList ∧ 2 ≤ ext.toList.length := by
    revert ext
    decide
  have hlist : (name ++ "." ++ ext).toList = name.toList ++ '.' :: ext.toList := by simp
  have hlength : 4 ≤ (name ++ "." ++ ext).toList.length := by
    have hpos := List.length_pos_iff.mpr h.ne_nil
    rw [hlist, List.length_append, List.length_cons]
    omega
  refine ⟨⟨?_, ?_⟩, ?_, ?_⟩
  · exact List.length_pos_iff.mp (by omega)
  · rw [hlist]
    simp [h.no_slash, hext'.1]
  · intro e
    simp [e] at hlength
  · intro e
    simp [e] at hlength

/-! ### Files below a directory -/

/-- A path that is joined from a directory and a step leads to a file if the names do. -/
theorem Disk.isFile_join {d : Disk} {content : Listing} {dirs : List String} {s : String} {root dir : DiskPath}
    (h : d.dirAt? root = some content) (hdirs : ∀ s ∈ dirs, IsStep s.toList) (hdir : dir.text ≠ "")
    (hsame : dir.SamePlace (root.joinAll dirs)) (hs : IsStep s.toList) :
    d.isFile (dir.join s) = (content.fileAt? (dirs ++ [s])).isSome := by
  obtain ⟨hroot, hfollow⟩ := dirAt?_eq_some_iff.mp h
  have hsteps : ∀ n ∈ dirs ++ [s], IsStep n.toList :=
    List.forall_mem_append.mpr ⟨hdirs, by simpa using hs⟩
  obtain ⟨-, habs, hcomps⟩ := DiskPath.joinAll_of_steps hroot hdirs
  have hway : d.way (dir.join s) = d.way root ++ (dirs ++ [s]) := by
    rw [way, way, DiskPath.isAbsolute_join hdir hs, DiskPath.components_join hdir hs, hsame.absolute,
      hsame.components, habs, hcomps]
    split <;> simp
  obtain ⟨above, habove⟩ := Listing.exists_follow_append hfollow
  have hfile : ∀ c, d.lookUp (dir.join s) = .ok (.file c) ↔ content.fileAt? (dirs ++ [s]) = some c := by
    intro c
    rw [lookUp_eq_file_iff, hway, habove, Listing.follow_eq_file_iff (not_mem_of_steps hsteps)]
    simp [DiskPath.text_join_ne hdir hs, DiskPath.demandsDirectory_join hdir hs]
  rw [Bool.eq_iff_iff, Option.isSome_iff_exists]
  simp only [← hfile]
  rw [isFile, at?]
  cases d.lookUp (dir.join s) with
  | error e => simp [Except.toOption]
  | ok e => cases e <;> simp [Except.toOption]

/-! ### The lookup by names -/

namespace Listing

variable {l : Listing} {dirs : List String}

/-- The name of the index file of a directory. -/
def index? (l : Listing) : Option String :=
  indexStems.findSome? fun stem => (l.visible.find? fun e => !e.2 && isIndexFile stem e.1).map Prod.fst

/-- The name of the file in the directory at `dirs` that carries a name with a markdown extension. -/
def document? (l : Listing) (dirs : List String) (name : String) : Option String :=
  (markdownExtensions.map fun ext => name ++ "." ++ ext).find? fun file => (l.fileAt? (dirs ++ [file])).isSome

theorem exists_of_document? {name found : String} (h : l.document? dirs name = some found) :
    ∃ ext ∈ markdownExtensions, name ++ "." ++ ext = found :=
  List.mem_map.mp (List.mem_of_find?_eq_some h)

/-- The names that lead to the file of a content path with the given segments. -/
def found? (l : Listing) (segs : List String) : Option (List String) :=
  match segs.getLast?.bind (l.document? segs.dropLast) with
  | some found => some (segs.dropLast ++ [found])
  | none => ((l.descend? segs).bind index?).map fun name => segs ++ [name]

end Listing

namespace ContentTree

variable {t : ContentTree} {content : Listing} {dirs segs : List String} {name : String}

theorem diskPath_ofSegments (h : ∀ s ∈ segs, IsName s.toList) :
    t.diskPath (.ofSegments segs) = t.root.joinAll segs := by
  rw [diskPath, ContentPath.segments_ofSegments h]

theorem sibling?_ofSegments (h : t.disk.dirAt? t.root = some content)
    (hsegs : ∀ s ∈ dirs ++ [name], IsStep s.toList) :
    ∃ dir : DiskPath, dir.text ≠ "" ∧ dir.SamePlace (t.root.joinAll dirs) ∧
      t.sibling? (.ofSegments (dirs ++ [name])) = (content.document? dirs name).map dir.join := by
  have hnames : ∀ s ∈ dirs ++ [name], IsName s.toList := fun s hs => (hsegs s hs).toIsName
  have hdirs : ∀ s ∈ dirs, IsStep s.toList := fun s hs => hsegs s (List.mem_append_left _ hs)
  have hname : IsStep name.toList := hsegs name (by simp)
  obtain ⟨hroot, -⟩ := Disk.dirAt?_eq_some_iff.mp h
  obtain ⟨htext, -, -⟩ := DiskPath.joinAll_of_steps hroot hdirs
  obtain ⟨dir, hparent, hdir, hsame⟩ := DiskPath.parent?_join htext hname
  have hpath : t.diskPath (.ofSegments (dirs ++ [name])) = (t.root.joinAll dirs).join name := by
    rw [diskPath_ofSegments hnames, DiskPath.joinAll, List.foldl_append]
    rfl
  refine ⟨dir, hdir, hsame, ?_⟩
  have htest : ∀ ext ∈ markdownExtensions, t.disk.isFile (dir.join (name ++ "." ++ ext)) =
      (content.fileAt? (dirs ++ [name ++ "." ++ ext])).isSome := fun ext hext =>
    Disk.isFile_join h hdirs hdir hsame (hname.toIsName.isStep_document hext)
  have hmd := htest "md" (by decide)
  have hmdx := htest "mdx" (by decide)
  simp only [sibling?, hpath, hparent, ContentPath.fileName?_ofSegments_append hnames, Listing.document?,
    markdownExtensions, List.map_cons, List.map_nil, List.find?_cons, List.find?_nil, hmd, hmdx]
  split
  · rfl
  · split <;> rfl

theorem indexFile?_ofSegments (h : t.disk.dirAt? t.root = some content)
    (hsegs : ∀ s ∈ segs, IsStep s.toList) :
    t.indexFile? (.ofSegments segs) =
      ((content.descend? segs).bind Listing.index?).map (t.root.joinAll segs).join := by
  have hpath := diskPath_ofSegments (t := t) fun s hs => (hsegs s hs).toIsName
  rw [← Disk.dirAt?_joinAll_of_steps h hsegs, Disk.dirAt?, indexFile?, hpath, entriesAt]
  cases t.disk.at? (t.root.joinAll segs) with
  | none => rfl
  | some e =>
    cases e with
    | file c => rfl
    | closed inside => rfl
    | dir inside =>
      dsimp only
      rw [Option.bind_some, Listing.index?, List.map_findSome?]
      congr 1
      funext stem
      rw [Function.comp_apply, Option.map_map]
      rfl

/-- **Files of content paths**: a path is looked up by its names. -/
theorem fileOf?_ofSegments (h : t.disk.dirAt? t.root = some content)
    (hsegs : ∀ s ∈ segs, IsStep s.toList) :
    match content.found? segs with
    | none => t.fileOf? (.ofSegments segs) = none
    | some names => ∃ f, t.fileOf? (.ofSegments segs) = some f ∧ f.SamePlace (t.root.joinAll names) := by
  have hindex := indexFile?_ofSegments h hsegs
  obtain ⟨hroot, -⟩ := Disk.dirAt?_eq_some_iff.mp h
  -- without a document of the name, the index of the directory is what both find
  have hrest : segs.getLast?.bind (content.document? segs.dropLast) = none →
      t.fileOf? (.ofSegments segs) = t.indexFile? (.ofSegments segs) →
      match content.found? segs with
      | none => t.fileOf? (.ofSegments segs) = none
      | some names => ∃ f, t.fileOf? (.ofSegments segs) = some f ∧ f.SamePlace (t.root.joinAll names) := by
    intro hnone hfile
    rw [hfile, hindex, Listing.found?, hnone]
    cases (content.descend? segs).bind Listing.index? with
    | none => rfl
    | some name =>
      refine ⟨_, rfl, ?_⟩
      rw [DiskPath.joinAll, DiskPath.joinAll, List.foldl_append]
      exact .refl _
  obtain rfl | ⟨dirs, name, rfl⟩ := segs.eq_nil_or_concat
  · exact hrest rfl rfl
  · rw [List.concat_eq_append] at *
    have hdirs : ∀ s ∈ dirs, IsStep s.toList := fun s hs => hsegs s (List.mem_append_left _ hs)
    obtain ⟨dir, hdir, hsame, hsibling⟩ := sibling?_ofSegments h hsegs
    have hroot' : (ContentPath.ofSegments (dirs ++ [name])).isRoot = false := by
      rw [← Bool.not_eq_true, ContentPath.isRoot_ofSegments fun s hs => (hsegs s hs).toIsName]
      simp
    have hfile : t.fileOf? (.ofSegments (dirs ++ [name])) =
        ((content.document? dirs name).map dir.join).or (t.indexFile? (.ofSegments (dirs ++ [name]))) := by
      rw [fileOf?, hroot', if_neg Bool.false_ne_true, hsibling]
      cases (content.document? dirs name).map dir.join with
      | none => exact Option.none_or.symm
      | some file => exact Option.some_or.symm
    cases hdocument : content.document? dirs name with
    | none =>
      rw [hdocument, Option.map_none, Option.none_or] at hfile
      exact hrest (by simpa using hdocument) hfile
    | some found =>
      obtain ⟨ext, hext, rfl⟩ := Listing.exists_of_document? hdocument
      have hname : IsName name.toList := (hsegs name (by simp)).toIsName
      rw [hdocument, Option.map_some, Option.some_or] at hfile
      rw [hfile, Listing.found?, List.getLast?_concat, List.dropLast_concat, Option.bind_some, hdocument]
      refine ⟨_, rfl, ?_⟩
      rw [DiskPath.joinAll, List.foldl_append]
      exact hsame.join hdir (DiskPath.joinAll_of_steps hroot hdirs).1 (hname.isStep_document hext)

end ContentTree

end Folio
