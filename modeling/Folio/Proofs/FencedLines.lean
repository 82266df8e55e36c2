import Folio.Proofs.PreparedSource
import Mathlib.Data.List.TakeWhile

/-! # Which lines are fenced code

A fenced block opens at a line that begins, behind three spaces at most, with at least three tildes, or
with at least three backquotes and no further one in the line.  It goes up to the first later line that
begins with at least as many of the same character and has nothing but blanks behind them, or to the end
of the text.  `Marked Opens` says this of the lines of a text, without walking over them with a state,
and there is one way to mark them (`Marked.unique`, `exists_marked`).

Lines are cut at line feeds only, and blanks are the characters with the property White_Space.  CommonMark also
ends a line at a carriage return that no line feed follows, and behind a closing fence it allows nothing but
spaces and tabs.

The walk over the lines takes every run of backquotes or tildes for an opening (`Begins`): it does not
look for further backquotes.  So its chunks are those of the rule exactly if no line outside of fenced
code begins with such a run and has another backquote further on (`fencedChunks_marked`). -/

namespace Folio.Markup

open Folio.Unicode

/-! ### The rule -/

/-- A line that begins with a fence: `length` times the character `char`, behind three spaces at most,
and `rest` behind the whole run. -/
structure IsFence (line : List Char) (char : Char) (length : Nat) (rest : List Char) : Prop where
  spelled : ∃ indent ≤ 3,
    line = List.replicate indent ' ' ++ (List.replicate length char ++ rest)
  char_eq : char = '\x60' ∨ char = '~'
  three_le : 3 ≤ length
  run_ends : rest.head? ≠ some char

/-- A line that begins with a fence, whatever stands behind it. -/
def Begins (line : List Char) (char : Char) (length : Nat) : Prop :=
  ∃ rest, IsFence line char length rest

/-- A fence that opens a block: behind backquotes no further one follows. -/
def Opens (line : List Char) (char : Char) (length : Nat) : Prop :=
  ∃ rest, IsFence line char length rest ∧ (char = '\x60' → '\x60' ∉ rest)

/-- A line that begins with a fence of backquotes and has a further backquote. -/
def IsFalseFence (line : List Char) : Prop :=
  ∃ length rest, IsFence line '\x60' length rest ∧ '\x60' ∈ rest

/-- A fence that closes a block that `length` times the character `char` have opened.  Behind it stand
characters of White_Space only, the line end among them. -/
def Closes (line : List Char) (char : Char) (length : Nat) : Prop :=
  ∃ run rest, IsFence line char run rest ∧ length ≤ run ∧ ∀ c ∈ rest, isBlank c = true

/-- The lines of a text, each up to a line feed, those of fenced blocks marked: a block goes from a line that
opens it up to the first line that closes it, or to the end. -/
inductive Marked (opens : List Char → Char → Nat → Prop) : List (List Char) → List Bool → Prop
  | nil : Marked opens [] []
  | outside {line : List Char} {rest : List (List Char)} {marks : List Bool}
      (h : ∀ char length, ¬ opens line char length) (hrest : Marked opens rest marks) :
      Marked opens (line :: rest) (false :: marks)
  | closed {line last : List Char} {inner rest : List (List Char)} {char : Char} {length : Nat}
      {marks : List Bool} (h : opens line char length)
      (hinner : ∀ l ∈ inner, ¬ Closes l char length) (hlast : Closes last char length)
      (hrest : Marked opens rest marks) :
      Marked opens (line :: (inner ++ last :: rest))
        (true :: (inner.map (fun _ => true) ++ true :: marks))
  | unclosed {line : List Char} {inner : List (List Char)} {char : Char} {length : Nat}
      (h : opens line char length) (hinner : ∀ l ∈ inner, ¬ Closes l char length) :
      Marked opens (line :: inner) (true :: inner.map fun _ => true)

/-! ### Reading a fence -/

theorem takeWhile_run {c : Char} (n : Nat) {rest : List Char} (h : rest.head? ≠ some c) :
    (List.replicate n c ++ rest).takeWhile (· = c) = List.replicate n c := by
  induction n with
  | zero =>
    cases rest with
    | nil => rfl
    | cons d rest => exact List.takeWhile_cons_of_neg (by simpa using h)
  | succ n ih => simpa [List.replicate_succ] using ih

theorem dropWhile_run {c : Char} (n : Nat) {rest : List Char} (h : rest.head? ≠ some c) :
    (List.replicate n c ++ rest).dropWhile (· = c) = rest := by
  have hsplit := List.takeWhile_append_dropWhile (p := (· = c)) (l := List.replicate n c ++ rest)
  rw [takeWhile_run n h] at hsplit
  exact List.append_cancel_left hsplit

/-- A text is the run of a character that it starts with, and the rest. -/
theorem eq_run_append (c : Char) (cs : List Char) :
    cs = List.replicate (cs.takeWhile (· = c)).length c ++ cs.dropWhile (· = c) := by
  have hrun : cs.takeWhile (· = c) = List.replicate (cs.takeWhile (· = c)).length c :=
    List.eq_replicate_of_mem fun d hd => by simpa using List.mem_takeWhile_imp hd
  rw [← hrun, List.takeWhile_append_dropWhile]

theorem head?_dropWhile_ne (c : Char) (cs : List Char) : (cs.dropWhile (· = c)).head? ≠ some c := by
  intro h
  have := List.head?_dropWhile_not (· = c) cs
  simp [h] at this

variable {line rest : List Char} {char : Char} {length : Nat}

/-- No space stands at the start of the run. -/
theorem IsFence.head?_run_ne (h : IsFence line char length rest) :
    (List.replicate length char ++ rest).head? ≠ some ' ' := by
  obtain ⟨n, rfl⟩ : ∃ n, length = n + 1 := ⟨length - 1, by have := h.three_le; omega⟩
  rw [List.replicate_succ, List.cons_append, List.head?_cons]
  intro he
  obtain rfl := Option.some.inj he
  exact absurd h.char_eq (by decide)

/-- What stands behind a fence is found by passing over the spaces and the run. -/
theorem IsFence.rest_eq (h : IsFence line char length rest) :
    rest = (line.dropWhile (· = ' ')).dropWhile (· = char) := by
  obtain ⟨indent, -, hline⟩ := h.spelled
  rw [hline, dropWhile_run indent h.head?_run_ne, dropWhile_run length h.run_ends]

/-- A fence is read with its whole run. -/
theorem IsFence.fenceMark?_eq (h : IsFence line char length rest) :
    fenceMark? line = some ⟨char, length, Text.trim (rest.takeWhile (· ≠ '\n')) = []⟩ := by
  have hspace := h.head?_run_ne
  obtain ⟨⟨indent, hindent, rfl⟩, hchar, hlength, hends⟩ := h
  obtain ⟨n, rfl⟩ : ∃ n, length = n + 1 := ⟨length - 1, by omega⟩
  unfold fenceMark?
  rw [takeWhile_run indent hspace, dropWhile_run indent hspace, List.replicate_succ, List.cons_append]
  dsimp only
  rw [takeWhile_run n hends, dropWhile_run n hends, List.length_replicate, List.length_replicate,
    Nat.add_comm 1 n, if_pos ⟨hindent, hchar, hlength⟩]

theorem exists_isFence {mark : FenceMark} (h : fenceMark? line = some mark) :
    ∃ rest, IsFence line mark.char mark.length rest := by
  have hindent := eq_run_append ' ' line
  unfold fenceMark? at h
  split at h
  · cases h
  · rename_i c cs hcs
    rw [hcs] at hindent
    dsimp only at h
    split at h
    · rename_i hfence
      obtain rfl := (Option.some.inj h).symm
      refine ⟨cs.dropWhile (· = c), ⟨_, hfence.1, ?_⟩, hfence.2.1, hfence.2.2, head?_dropWhile_ne c cs⟩
      have hrun := eq_run_append c cs
      rw [Nat.add_comm, List.replicate_succ, List.cons_append, ← hrun]
      exact hindent
    · cases h

/-- A line has no fence exactly if the walk reads none in it. -/
theorem fenceMark?_eq_none_iff : fenceMark? line = none ↔ ∀ char length, ¬ Begins line char length := by
  constructor
  · rintro h char length ⟨rest, hfence⟩
    rw [hfence.fenceMark?_eq] at h
    cases h
  · intro h
    cases hmark : fenceMark? line with
    | none => rfl
    | some mark => exact absurd (exists_isFence hmark) (h mark.char mark.length)

/-! ### Lines -/

/-- A text in which nothing stands behind a line feed. -/
def IsLine (line : List Char) : Prop := ∀ before after, line = before ++ '\n' :: after → after = []

theorem IsLine.of_suffix (h : IsLine line) (hrest : rest <:+ line) : IsLine rest := by
  obtain ⟨start, rfl⟩ := hrest
  intro before after he
  apply h (start ++ before) after
  rw [he, List.append_assoc]

/-- A text is empty, a line without a line feed, or a line with one in front of a text. -/
theorem line_induction {P : List Char → Prop} (nil : P [])
    (last : ∀ line, line ≠ [] → '\n' ∉ line → P line)
    (line : ∀ body rest, '\n' ∉ body → P rest → P (body ++ '\n' :: rest)) (cs : List Char) : P cs := by
  induction hlen : cs.length using Nat.strongRecOn generalizing cs with
  | ind n ih =>
  subst hlen
  by_cases hfeed : '\n' ∈ cs
  · obtain ⟨body, rest, rfl, hbody⟩ := List.eq_append_cons_of_mem hfeed
    exact line body rest hbody (ih rest.length (by simp; omega) rest rfl)
  · by_cases hne : cs = []
    · rw [hne]
      exact nil
    · exact last cs hne hfeed

theorem rawLines_of_not_mem (hne : line ≠ []) (h : '\n' ∉ line) : Text.rawLines line = [line] := by
  simpa [Text.rawLines] using rawLines_append hne h []

theorem rawLines_line {body : List Char} (h : '\n' ∉ body) (rest : List Char) :
    Text.rawLines (body ++ '\n' :: rest) = (body ++ ['\n']) :: Text.rawLines rest := by
  have hfeed : Text.rawLines ('\n' :: rest) = ['\n'] :: Text.rawLines rest := rfl
  by_cases hne : body = []
  · rw [hne]
    exact hfeed
  · rw [rawLines_append hne h, hfeed]

theorem isLine_of_mem_rawLines (cs : List Char) : ∀ l ∈ Text.rawLines cs, IsLine l := by
  induction cs using line_induction with
  | nil => simp [Text.rawLines]
  | last line hne h =>
    rw [rawLines_of_not_mem hne h, List.forall_mem_singleton]
    intro before after he
    exact absurd (by simp [he]) h
  | line body rest h ih =>
    rw [rawLines_line h, List.forall_mem_cons]
    refine ⟨fun before after he => ?_, ih⟩
    obtain ⟨tail, rfl, htail⟩ | ⟨tail, rfl, htail⟩ := List.append_eq_append_iff.mp he
    · have hlen := congrArg List.length htail
      rw [List.length_append, List.length_cons, List.length_cons, List.length_nil] at hlen
      exact List.eq_nil_of_length_eq_zero (by omega)
    · cases tail with
      | nil => exact (List.cons.inj htail).2
      | cons c tail =>
        obtain ⟨rfl, -⟩ := List.cons.inj htail
        exact absurd (by simp) h

theorem trim_eq_nil_iff (cs : List Char) : Text.trim cs = [] ↔ ∀ c ∈ cs, isBlank c = true := by
  have hend : ∀ ds, Text.trimEnd ds = [] ↔ ∀ d ∈ ds, isBlank d = true := by
    intro ds
    rw [Text.trimEnd, List.reverse_eq_nil_iff, List.dropWhile_eq_nil_iff]
    simp
  rw [Text.trim, hend]
  constructor
  · intro h
    rw [← List.takeWhile_append_dropWhile (p := isBlank) (l := cs)]
    intro c hc
    obtain hc | hc := List.mem_append.mp hc
    · exact List.mem_takeWhile_imp hc
    · exact h c hc
  · exact fun h c hc => h c ((List.dropWhile_suffix _).subset hc)

/-- What a line has up to its line feed is blank exactly if all of it is. -/
theorem IsLine.trim_eq_nil_iff (hline : IsLine rest) :
    Text.trim (rest.takeWhile (· ≠ '\n')) = [] ↔ ∀ c ∈ rest, isBlank c = true := by
  rw [Markup.trim_eq_nil_iff]
  constructor
  · intro hblank
    have hsplit := List.takeWhile_append_dropWhile (p := (· ≠ '\n')) (l := rest)
    cases hdrop : rest.dropWhile (· ≠ '\n') with
    | nil =>
      rw [hdrop, List.append_nil] at hsplit
      rwa [hsplit] at hblank
    | cons d ds =>
      have hfeed : d = '\n' := by
        have hhead := List.head?_dropWhile_not (· ≠ '\n') rest
        rw [hdrop] at hhead
        simpa using hhead
      rw [hdrop, hfeed] at hsplit
      obtain rfl := hline _ _ hsplit.symm
      rw [← hsplit]
      intro c hc
      obtain hc | hc := List.mem_append.mp hc
      · exact hblank c hc
      · obtain rfl := List.mem_singleton.mp hc
        decide +kernel
  · exact fun hblank c hc => hblank c ((List.takeWhile_prefix _).subset hc)

theorem IsFence.suffix (h : IsFence line char length rest) : rest <:+ line := by
  obtain ⟨indent, -, rfl⟩ := h.spelled
  exact (List.suffix_append _ _).trans (List.suffix_append _ _)

/-- The walk closes a block at the lines that close it. -/
theorem closes_iff (hline : IsLine line) {mark opened : FenceMark} (h : fenceMark? line = some mark) :
    mark.closes opened = true ↔ Closes line opened.char opened.length := by
  have hmark : ∀ {char length rest}, IsFence line char length rest →
      mark.char = char ∧ mark.length = length ∧ (mark.bare = true ↔ ∀ c ∈ rest, isBlank c = true) := by
    intro char length rest hfence
    rw [hfence.fenceMark?_eq] at h
    rw [← Option.some.inj h]
    exact ⟨rfl, rfl, decide_eq_true_iff.trans (hline.of_suffix hfence.suffix).trim_eq_nil_iff⟩
  rw [FenceMark.closes, Bool.and_eq_true, Bool.and_eq_true, beq_iff_eq, decide_eq_true_eq]
  constructor
  · rintro ⟨⟨hchar, hlength⟩, hblank⟩
    obtain ⟨rest, hfence⟩ := exists_isFence h
    exact ⟨mark.length, rest, hchar ▸ hfence, hlength, (hmark hfence).2.2.mp hblank⟩
  · rintro ⟨run, rest, hfence, hlength, hblank⟩
    obtain ⟨hchar, hrun, hbare⟩ := hmark hfence
    exact ⟨⟨hchar, hrun ▸ hlength⟩, hbare.mpr hblank⟩

/-! ### One way to mark -/

/-- A property of lines fails at all of them, or there is a first line that has it. -/
theorem exists_first (p : List Char → Prop) (lines : List (List Char)) :
    (∀ l ∈ lines, ¬ p l) ∨
      ∃ inner last rest, lines = inner ++ last :: rest ∧ (∀ l ∈ inner, ¬ p l) ∧ p last := by
  induction lines with
  | nil => exact .inl (by simp)
  | cons line lines ih =>
    by_cases h : p line
    · exact .inr ⟨[], line, lines, rfl, by simp, h⟩
    · obtain hnone | ⟨inner, last, rest, rfl, hinner, hlast⟩ := ih
      · exact .inl (List.forall_mem_cons.mpr ⟨h, hnone⟩)
      · exact .inr ⟨line :: inner, last, rest, rfl, List.forall_mem_cons.mpr ⟨h, hinner⟩, hlast⟩

/-- The first line that has a property splits the lines in one way. -/
theorem first_unique {p : List Char → Prop} {inner inner' rest rest' : List (List Char)}
    {last last' : List Char} (hinner : ∀ l ∈ inner, ¬ p l) (hlast : p last)
    (hinner' : ∀ l ∈ inner', ¬ p l) (hlast' : p last')
    (h : inner ++ last :: rest = inner' ++ last' :: rest') :
    inner = inner' ∧ last = last' ∧ rest = rest' := by
  induction inner generalizing inner' with
  | nil =>
    cases inner' with
    | nil => simpa using h
    | cons l inner' =>
      obtain ⟨rfl, -⟩ := List.cons.inj h
      exact absurd hlast (hinner' _ List.mem_cons_self)
  | cons l inner ih =>
    cases inner' with
    | nil =>
      obtain ⟨rfl, -⟩ := List.cons.inj h
      exact absurd hlast' (hinner _ List.mem_cons_self)
    | cons l' inner' =>
      obtain ⟨rfl, htail⟩ := List.cons.inj h
      obtain ⟨rfl, hsame⟩ := ih (fun l hl => hinner l (List.mem_cons_of_mem _ hl))
        (fun l hl => hinner' l (List.mem_cons_of_mem _ hl)) htail
      exact ⟨rfl, hsame⟩

theorem Begins.unique {char' : Char} {length' : Nat} (h : Begins line char length)
    (h' : Begins line char' length') : char = char' ∧ length = length' := by
  obtain ⟨rest, h⟩ := h
  obtain ⟨rest', h'⟩ := h'
  have hmark := h.fenceMark?_eq.symm.trans h'.fenceMark?_eq
  simp only [Option.some.injEq, FenceMark.mk.injEq] at hmark
  exact ⟨hmark.1, hmark.2.1⟩

theorem Opens.begins (h : Opens line char length) : Begins line char length := h.imp fun _ h => h.1

/-- A false fence opens no block. -/
theorem IsFalseFence.not_opens (h : IsFalseFence line) : ¬ Opens line char length := by
  rintro ⟨rest', hfence', hnone⟩
  obtain ⟨run, rest, hfence, hmem⟩ := h
  obtain ⟨rfl, -⟩ := Begins.unique ⟨rest, hfence⟩ ⟨rest', hfence'⟩
  rw [hfence.rest_eq.trans hfence'.rest_eq.symm] at hmem
  exact hnone rfl hmem

section Marking

variable {opens : List Char → Char → Nat → Prop} {lines : List (List Char)} {marks : List Bool}

/-- Every list of lines can be marked. -/
theorem exists_marked (opens : List Char → Char → Nat → Prop) (lines : List (List Char)) :
    ∃ marks, Marked opens lines marks := by
  -- by induction on the number of lines: a block is passed over as a whole
  induction hlen : lines.length using Nat.strongRecOn generalizing lines with
  | ind n ih =>
  subst hlen
  cases lines with
  | nil => exact ⟨[], .nil⟩
  | cons line lines =>
    by_cases hopens : ∃ char length, opens line char length
    · obtain ⟨char, length, hopens⟩ := hopens
      obtain hnone | ⟨inner, last, rest, rfl, hinner, hlast⟩ := exists_first (Closes · char length) lines
      · exact ⟨_, .unclosed hopens hnone⟩
      · obtain ⟨marks, hmarks⟩ := ih rest.length (by simp; omega) rest rfl
        exact ⟨_, .closed hopens hinner hlast hmarks⟩
    · obtain ⟨marks, hmarks⟩ := ih lines.length (by simp) lines rfl
      exact ⟨_, .outside (fun char length h => hopens ⟨char, length, h⟩) hmarks⟩

/-- There is one way to mark lines, if a line opens one kind of block at most. -/
theorem Marked.unique (hone : ∀ line char length, opens line char length → Begins line char length)
    {marks' : List Bool} (h : Marked opens lines marks) (h' : Marked opens lines marks') :
    marks = marks' := by
  induction h generalizing marks' with
  | nil =>
    cases h'
    rfl
  | outside h _ ih =>
    cases h' with
    | outside _ hrest' => rw [ih hrest']
    | closed h' => exact absurd h' (h _ _)
    | unclosed h' => exact absurd h' (h _ _)
  | @closed line last inner rest char length marks h hinner hlast hrest ih =>
    generalize hlines : line :: (inner ++ last :: rest) = lines at h'
    cases h' with
    | nil => cases hlines
    | outside h' =>
      obtain ⟨rfl, -⟩ := List.cons.inj hlines
      exact absurd h (h' _ _)
    | closed h' hinner' hlast' hrest' =>
      obtain ⟨rfl, htail⟩ := List.cons.inj hlines
      obtain ⟨rfl, rfl⟩ := (hone _ _ _ h).unique (hone _ _ _ h')
      obtain ⟨rfl, rfl, rfl⟩ := first_unique hinner hlast hinner' hlast' htail
      rw [ih hrest']
    | unclosed h' hinner' =>
      obtain ⟨rfl, rfl⟩ := List.cons.inj hlines
      obtain ⟨rfl, rfl⟩ := (hone _ _ _ h).unique (hone _ _ _ h')
      exact absurd hlast (hinner' last (by simp))
  | @unclosed line inner char length h hinner =>
    cases h' with
    | outside h' => exact absurd h (h' _ _)
    | closed h' hinner' hlast' hrest' =>
      obtain ⟨rfl, rfl⟩ := (hone _ _ _ h).unique (hone _ _ _ h')
      exact absurd hlast' (hinner _ (by simp))
    | unclosed => rfl

/-- Outside of blocks no line opens one. -/
theorem Marked.not_opens (h : Marked opens lines marks) (hmem : (line, false) ∈ lines.zip marks) :
    ¬ opens line char length := by
  induction h with
  | nil => cases hmem
  | outside h _ ih =>
    rw [List.zip_cons_cons] at hmem
    obtain he | hmem := List.mem_cons.mp hmem
    · obtain ⟨rfl, -⟩ := Prod.mk.inj he
      exact h char length
    · exact ih hmem
  | @closed _ _ inner _ _ _ _ _ _ _ _ ih =>
    rw [List.zip_cons_cons, List.zip_append (by simp), List.zip_cons_cons] at hmem
    obtain he | hmem := List.mem_cons.mp hmem
    · cases he
    · obtain hmem | hmem := List.mem_append.mp hmem
      · simpa using (List.of_mem_zip hmem).2
      · obtain he | hmem := List.mem_cons.mp hmem
        · cases he
        · exact ih hmem
  | unclosed _ _ => simpa using (List.of_mem_zip hmem).2

/-- Where no false fence stands outside of blocks, the rule does not need to look for them. -/
theorem Marked.begins (h : Marked Opens lines marks)
    (hnone : ∀ line, (line, false) ∈ lines.zip marks → ¬ IsFalseFence line) :
    Marked Begins lines marks := by
  induction h with
  | nil => exact .nil
  | @outside line rest marks h _ ih =>
    rw [List.zip_cons_cons] at hnone
    refine .outside ?_ (ih fun l hl => hnone l (List.mem_cons_of_mem _ hl))
    rintro char length ⟨tail, hfence⟩
    refine h char length ⟨tail, hfence, ?_⟩
    rintro rfl hmem
    exact hnone line List.mem_cons_self ⟨length, tail, hfence, hmem⟩
  | closed h hinner hlast _ ih =>
    rw [List.zip_cons_cons, List.zip_append (by simp), List.zip_cons_cons] at hnone
    refine .closed h.begins hinner hlast (ih fun l hl => hnone l ?_)
    exact List.mem_cons_of_mem _ (List.mem_append_right _ (List.mem_cons_of_mem _ hl))
  | unclosed h hinner => exact .unclosed h.begins hinner

end Marking

/-! ### The walk -/

/-- Which lines of a list the walk takes for fenced code, a fence being open or not. -/
def fencedFrom (opened : Option FenceMark) : List (List Char) → List Bool
  | [] => []
  | line :: rest => (fenceStep opened line).1 :: fencedFrom (fenceStep opened line).2 rest

/-- Inside of a block the walk takes lines that do not close it for code. -/
theorem fencedFrom_inner {opened : FenceMark} {inner : List (List Char)} (rest : List (List Char))
    (hlines : ∀ l ∈ inner, IsLine l) (h : ∀ l ∈ inner, ¬ Closes l opened.char opened.length) :
    fencedFrom (some opened) (inner ++ rest) =
      inner.map (fun _ => true) ++ fencedFrom (some opened) rest := by
  induction inner with
  | nil => rfl
  | cons line inner ih =>
    have hstep : fenceStep (some opened) line = (true, some opened) := by
      unfold fenceStep
      cases hmark : fenceMark? line with
      | none => rfl
      | some mark =>
        have hopen : ¬ mark.closes opened = true := fun hcloses =>
          h line List.mem_cons_self ((closes_iff (hlines line List.mem_cons_self) hmark).mp hcloses)
        dsimp only
        rw [if_neg hopen]
    rw [List.cons_append, fencedFrom, hstep]
    exact congrArg (true :: ·) (ih (fun l hl => hlines l (List.mem_cons_of_mem line hl))
      (fun l hl => h l (List.mem_cons_of_mem line hl)))

/-- The line that closes a block belongs to it, and none is open behind it. -/
theorem fenceStep_of_closes {opened : FenceMark} (hline : IsLine line)
    (h : Closes line opened.char opened.length) : fenceStep (some opened) line = (true, none) := by
  obtain ⟨run, rest, hfence, -⟩ := id h
  have hmark := hfence.fenceMark?_eq
  unfold fenceStep
  rw [hmark]
  dsimp only
  rw [if_pos ((closes_iff hline hmark).mpr h)]

theorem fenceStep_of_begins (h : Begins line char length) :
    ∃ mark : FenceMark, mark.char = char ∧ mark.length = length ∧
      fenceStep none line = (true, some mark) := by
  obtain ⟨rest, hfence⟩ := h
  have hstep : fenceStep none line =
      (true, some ⟨char, length, Text.trim (rest.takeWhile (· ≠ '\n')) = []⟩) := by
    unfold fenceStep
    rw [hfence.fenceMark?_eq]
  exact ⟨_, rfl, rfl, hstep⟩

/-- The walk marks lines by the rule without the look for further backquotes. -/
theorem Marked.fencedFrom_eq {lines : List (List Char)} {marks : List Bool}
    (h : Marked Begins lines marks) (hlines : ∀ l ∈ lines, IsLine l) : fencedFrom none lines = marks := by
  induction h with
  | nil => rfl
  | @outside line rest marks h _ ih =>
    have hstep : fenceStep none line = (false, none) := by
      unfold fenceStep
      rw [fenceMark?_eq_none_iff.mpr h]
    rw [fencedFrom, hstep, ih fun l hl => hlines l (List.mem_cons_of_mem line hl)]
  | @closed line last inner rest char length marks h hinner hlast _ ih =>
    obtain ⟨mark, rfl, rfl, hstep⟩ := fenceStep_of_begins h
    have hmem : ∀ l ∈ inner ++ last :: rest, IsLine l := fun l hl =>
      hlines l (List.mem_cons_of_mem line hl)
    rw [List.forall_mem_append, List.forall_mem_cons] at hmem
    obtain ⟨hin, hend, hrest⟩ := hmem
    rw [fencedFrom, hstep, fencedFrom_inner _ hin hinner, fencedFrom, fenceStep_of_closes hend hlast,
      ih hrest]
  | @unclosed line inner char length h hinner =>
    obtain ⟨mark, rfl, rfl, hstep⟩ := fenceStep_of_begins h
    have hrun := fencedFrom_inner [] (fun l hl => hlines l (List.mem_cons_of_mem line hl)) hinner
    rw [List.append_nil] at hrun
    rw [fencedFrom, hstep, hrun]
    simp [fencedFrom]

/-! ### Chunks -/

/-- The lines of chunks, with whether the chunk of a line is fenced code. -/
def markedLines (chunks : List Chunk) : List (List Char × Bool) :=
  chunks.flatMap fun chunk => (Text.rawLines chunk.text).map (·, chunk.fenced)

/-- A line with its line feed stays a line of its own in front of chunks. -/
theorem markedLines_consLine {body : List Char} (h : '\n' ∉ body) (fenced : Bool) (chunks : List Chunk) :
    markedLines (consLine fenced (body ++ ['\n']) chunks) =
      (body ++ ['\n'], fenced) :: markedLines chunks := by
  have hline := rawLines_line h
  cases chunks with
  | nil => simp [consLine, markedLines, hline, Text.rawLines]
  | cons chunk chunks =>
    rw [consLine]
    split
    · rename_i hsame
      simp [markedLines, hline, hsame]
    · simp [markedLines, hline, Text.rawLines]

/-- The lines of the chunks of a text are those of the text, marked as the walk goes. -/
theorem markedLines_chunksFrom (opened : Option FenceMark) (cs : List Char) :
    markedLines (chunksFrom opened (Text.rawLines cs)) =
      (Text.rawLines cs).zip (fencedFrom opened (Text.rawLines cs)) := by
  induction cs using line_induction generalizing opened with
  | nil => rfl
  | last line hne h =>
    have hraw := rawLines_of_not_mem hne h
    rw [hraw]
    simp [chunksFrom, fencedFrom, consLine, markedLines, hraw]
  | line body rest h ih =>
    rw [rawLines_line h, chunksFrom, markedLines_consLine h, ih, fencedFrom, List.zip_cons_cons]

/-- The chunks of a source make it up, and their lines, cut at line feeds only, are marked by the rule without
the look for further backquotes.  This is the rule itself exactly if no line outside of fenced code begins with a
fence of backquotes and has a further backquote. -/
theorem fencedChunks_marked (source : List Char) :
    (fencedChunks source).flatMap Chunk.text = source ∧
      ∃ taken marks, Marked Begins (Text.rawLines source) taken ∧
        markedLines (fencedChunks source) = (Text.rawLines source).zip taken ∧
        Marked Opens (Text.rawLines source) marks ∧
        (∀ other, Marked Opens (Text.rawLines source) other → other = marks) ∧
        (markedLines (fencedChunks source) = (Text.rawLines source).zip marks ↔
          ∀ line, (line, false) ∈ (Text.rawLines source).zip marks → ¬ IsFalseFence line) := by
  obtain ⟨taken, htaken⟩ := exists_marked Begins (Text.rawLines source)
  obtain ⟨marks, hmarks⟩ := exists_marked Opens (Text.rawLines source)
  have hlines : markedLines (fencedChunks source) = (Text.rawLines source).zip taken := by
    rw [fencedChunks, markedLines_chunksFrom, htaken.fencedFrom_eq (isLine_of_mem_rawLines source)]
  refine ⟨flatMap_text_fencedChunks source, taken, marks, htaken, hlines, hmarks,
    fun other hother => hother.unique (fun _ _ _ h => h.begins) hmarks, ?_⟩
  rw [hlines]
  constructor
  · intro hsame line hmem hfalse
    obtain ⟨length, rest, hfence, -⟩ := hfalse
    rw [← hsame] at hmem
    exact htaken.not_opens hmem ⟨rest, hfence⟩
  · intro hnone
    rw [htaken.unique (fun _ _ _ h => h) (hmarks.begins hnone)]

/-- A line of inline code that begins with three backquotes opens no block, but the chunks take it and
all that follows for code, and the amount behind it stays as it is. -/
theorem exists_inline_code_taken_for_fence :
    ∃ source : String,
      Marked Opens (Text.rawLines source.toList) [false, false] ∧
        fencedChunks source.toList = [⟨true, source.toList⟩] ∧
        prepareSource source = source ∧
        maskCurrency "$5".toList ≠ "$5".toList ∧ "$5".toList <:+: source.toList := by
  refine ⟨"\x60\x60\x60 a\x60b\n$5\n", ?_, by decide +kernel, by decide +kernel, by decide +kernel, ?_⟩
  · have hfalse : IsFalseFence "\x60\x60\x60 a\x60b\n".toList :=
      ⟨3, " a\x60b\n".toList, ⟨⟨0, by omega, by decide⟩, .inl rfl, by omega, by decide⟩, by decide⟩
    have hplain : ∀ char length, ¬ Begins "$5\n".toList char length :=
      fenceMark?_eq_none_iff.mp (by decide +kernel)
    exact .outside (fun _ _ => hfalse.not_opens)
      (.outside (fun char length h => hplain char length h.begins) .nil)
  · exact ⟨"\x60\x60\x60 a\x60b\n".toList, "\n".toList, by decide⟩

end Folio.Markup
