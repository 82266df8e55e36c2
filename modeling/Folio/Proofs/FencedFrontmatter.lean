import Mathlib.Data.List.TakeWhile
import Folio.Document.Frontmatter
import Folio.Engines.Standard
import Folio.Proofs.NormalForm

/-! # Frontmatter between fences

Where frontmatter ends is found character by character: the text in front of a line break that a closing
line follows.  Read line by line this is the first fence behind the first line
(`splitAtFence_line`), so lines that are put between two fences are taken as they are, and what comes
after the second fence is the body (`ofText_fenced`).  The first line is never looked at: with no line
between the fences the second fence is itself taken for frontmatter, and the closing line is looked for in
the body (`ofText_fenced_nil`). -/

namespace Folio

/-! ### Lines -/

/-- Whether a character is a space or a tab. -/
def isSpaceOrTab (c : Char) : Bool := c == ' ' || c == '\t'

/-- A line without the carriage return that it ends with. -/
def withoutReturn : List Char → List Char
  | [] => []
  | c :: cs => if c = '\r' ∧ cs = [] then [] else c :: withoutReturn cs

/-- Whether a line is three hyphens with spaces and tabs behind them; a carriage return at its end does
not count. -/
def isFenceLine : List Char → Bool
  | '-' :: '-' :: '-' :: rest => (withoutReturn rest).all isSpaceOrTab
  | _ => false

/-- Lines with the line feeds that end them. -/
def linesText (lines : List String) : String := String.join (lines.map (· ++ "\n"))

/-- A document of frontmatter lines between two fences and a body. -/
def fenced (lines : List String) (body : String) : String :=
  "---\n" ++ linesText lines ++ "---\n" ++ body

/-- The frontmatter that some lines write: the line end of the last one is no part of it. -/
def frontText (lines : List String) : String :=
  String.ofList (withoutReturn (Text.joinWith ['\n'] (lines.map String.toList)))

theorem withoutReturn_cons {c : Char} {cs : List Char} (h : c = '\r' → cs ≠ []) :
    withoutReturn (c :: cs) = c :: withoutReturn cs := by
  rw [withoutReturn, if_neg fun ⟨hc, hcs⟩ => h hc hcs]

theorem withoutReturn_append_line (line cs : List Char) :
    withoutReturn (line ++ '\n' :: cs) = line ++ '\n' :: withoutReturn cs := by
  induction line with
  | nil => exact withoutReturn_cons fun h => absurd h (by decide)
  | cons c line ih => rw [List.cons_append, withoutReturn_cons fun _ => by simp, ih]; rfl

/-! ### Closing lines -/

/-- What follows a fence that a text starts with: nothing, or what is behind its line end. -/
def afterFenceLine? (cs : List Char) : Option (List Char) :=
  (afterFence? cs).bind fun rest => if rest = [] then some [] else afterBreak? rest

theorem closedBody?_eq (cs : List Char) : closedBody? cs = (afterBreak? cs).bind afterFenceLine? := rfl

theorem afterBreak?_of_ne {c : Char} {cs : List Char} (hc : c ≠ '\n')
    (hcs : c = '\r' → cs.head? ≠ some '\n') : afterBreak? (c :: cs) = none := by
  unfold afterBreak?
  split
  · rename_i heq
    obtain ⟨rfl, rfl⟩ := List.cons.inj heq
    exact absurd rfl (hcs rfl)
  · rename_i heq
    exact absurd (List.cons.inj heq).1 hc
  · rfl

theorem head?_append_break {line : List Char} (hne : line ≠ []) (hline : '\n' ∉ line)
    (rest : List Char) : (line ++ '\n' :: rest).head? ≠ some '\n' := by
  cases line with
  | nil => exact absurd rfl hne
  | cons c line =>
    intro h
    exact hline (Option.some.inj h ▸ List.mem_cons_self)

/-- Behind the hyphens of a fence only blanks may stand, with a carriage return behind them or not. -/
theorem afterBreak?_dropWhile {line : List Char} (hline : '\n' ∉ line) (rest : List Char) :
    afterBreak? ((line ++ '\n' :: rest).dropWhile isSpaceOrTab) =
      if (withoutReturn line).all isSpaceOrTab then some rest else none := by
  induction line with
  | nil => rfl
  | cons c line ih =>
    obtain ⟨hc, hrest⟩ := List.ne_and_not_mem_of_not_mem_cons hline
    rw [List.cons_append, List.dropWhile_cons]
    by_cases hblank : isSpaceOrTab c
    · have hreturn : c ≠ '\r' := fun heq => absurd hblank (by rw [heq]; decide)
      rw [if_pos hblank, ih hrest, withoutReturn_cons fun h => absurd h hreturn, List.all_cons, hblank,
        Bool.true_and]
    · rw [if_neg hblank]
      by_cases hend : c = '\r' ∧ line = []
      · obtain ⟨rfl, rfl⟩ := hend
        rfl
      · have hkept : c = '\r' → line ≠ [] := fun hr hnil => hend ⟨hr, hnil⟩
        rw [withoutReturn_cons hkept, List.all_cons, Bool.eq_false_iff.mpr hblank, Bool.false_and,
          afterBreak?_of_ne hc.symm fun hr => head?_append_break (hkept hr) hrest rest]
        rfl

/-- A line closes frontmatter exactly if it is a fence. -/
theorem afterFenceLine?_line {line : List Char} (hline : '\n' ∉ line) (rest : List Char) :
    afterFenceLine? (line ++ '\n' :: rest) = if isFenceLine line then some rest else none := by
  unfold isFenceLine
  split
  · rename_i tail
    have htail : '\n' ∉ tail := fun h => hline (by simp [h])
    have hne : (tail ++ '\n' :: rest).dropWhile isSpaceOrTab ≠ [] := by
      intro hnil
      have hbreak := List.dropWhile_eq_nil_iff.mp hnil '\n' (by simp)
      exact absurd hbreak (by decide)
    rw [← afterBreak?_dropWhile htail rest]
    exact if_neg hne
  · rename_i hno
    suffices hnone : afterFence? (line ++ '\n' :: rest) = none by
      rw [afterFenceLine?, hnone]
      rfl
    unfold afterFence?
    split
    · rename_i tail heq
      -- a line of fewer than three characters has its line feed where a hyphen would stand
      rcases line with _ | ⟨a, _ | ⟨b, _ | ⟨c, after⟩⟩⟩
      · cases heq
      · cases heq
      · cases heq
      · simp only [List.cons_append, List.cons.injEq] at heq
        obtain ⟨rfl, rfl, rfl, -⟩ := heq
        exact absurd rfl (hno after)
    · rfl

theorem mem_of_mem_withoutReturn {d : Char} {line : List Char} (h : d ∈ withoutReturn line) : d ∈ line := by
  fun_induction withoutReturn line with
  | case1 => exact h
  | case2 c cs hend => cases h
  | case3 c cs hkept ih =>
    exact List.mem_cons.mpr ((List.mem_cons.mp h).imp_right ih)

theorem afterBreak?_of_not_mem {cs : List Char} (h : '\n' ∉ cs) : afterBreak? cs = none := by
  cases cs with
  | nil => rfl
  | cons c cs =>
    obtain ⟨hc, hcs⟩ := List.ne_and_not_mem_of_not_mem_cons h
    exact afterBreak?_of_ne hc.symm fun _ hhead => hcs (List.mem_of_mem_head? hhead)

/-- A last line that is no fence closes nothing. -/
theorem afterFenceLine?_of_not_mem {line : List Char} (hline : '\n' ∉ line)
    (hfence : isFenceLine line = false) : afterFenceLine? line = none := by
  unfold isFenceLine at hfence
  split at hfence
  · rename_i tail
    have hne : tail.dropWhile isSpaceOrTab ≠ [] := by
      intro hnil
      have hall : (withoutReturn tail).all isSpaceOrTab = true := List.all_eq_true.mpr fun d hd =>
        List.dropWhile_eq_nil_iff.mp hnil d (mem_of_mem_withoutReturn hd)
      rw [hall] at hfence
      cases hfence
    have hrest : '\n' ∉ tail.dropWhile isSpaceOrTab := fun h =>
      hline (by simp [(List.dropWhile_sublist _).subset h])
    exact (if_neg hne).trans (afterBreak?_of_not_mem hrest)
  · rename_i hno
    suffices hnone : afterFence? line = none by
      rw [afterFenceLine?, hnone]
      rfl
    unfold afterFence?
    split
    · exact absurd rfl (hno _)
    · rfl

/-! ### Splitting line by line -/

/-- Frontmatter ends with a line that a fence follows. -/
theorem splitAtFence_line {line : List Char} (hline : '\n' ∉ line) (rest : List Char) :
    splitAtFence (line ++ '\n' :: rest) =
      match afterFenceLine? rest with
      | some body => some (withoutReturn line, body)
      | none => (splitAtFence rest).map fun split => (line ++ '\n' :: split.1, split.2) := by
  induction line with
  | nil =>
    have hclosed : closedBody? ('\n' :: rest) = afterFenceLine? rest := rfl
    rw [List.nil_append, splitAtFence, hclosed]
    cases afterFenceLine? rest <;> rfl
  | cons c line ih =>
    obtain ⟨hc, hrest⟩ := List.ne_and_not_mem_of_not_mem_cons hline
    rw [List.cons_append, splitAtFence, ih hrest]
    by_cases hend : c = '\r' ∧ line = []
    · obtain ⟨rfl, rfl⟩ := hend
      have hclosed : closedBody? ('\r' :: ([] ++ '\n' :: rest)) = afterFenceLine? rest := rfl
      rw [hclosed]
      cases afterFenceLine? rest with
      | some body => rfl
      | none => cases splitAtFence rest <;> rfl
    · have hkept : c = '\r' → line ≠ [] := fun hr hnil => hend ⟨hr, hnil⟩
      have hopen : closedBody? (c :: (line ++ '\n' :: rest)) = none := by
        rw [closedBody?_eq, afterBreak?_of_ne hc.symm fun hr =>
          head?_append_break (hkept hr) hrest rest]
        rfl
      rw [hopen, withoutReturn_cons hkept]
      cases afterFenceLine? rest with
      | some body => rfl
      | none => cases splitAtFence rest <;> rfl

theorem splitAtFence_of_closed {line rest body : List Char} (hline : '\n' ∉ line)
    (h : afterFenceLine? rest = some body) :
    splitAtFence (line ++ '\n' :: rest) = some (withoutReturn line, body) := by
  rw [splitAtFence_line hline, h]

theorem splitAtFence_of_open {line rest : List Char} (hline : '\n' ∉ line)
    (h : afterFenceLine? rest = none) :
    splitAtFence (line ++ '\n' :: rest) =
      (splitAtFence rest).map fun split => (line ++ '\n' :: split.1, split.2) := by
  rw [splitAtFence_line hline, h]

theorem splitAtFence_of_not_mem {line : List Char} (hline : '\n' ∉ line) : splitAtFence line = none := by
  induction line with
  | nil => rfl
  | cons c line ih =>
    rw [splitAtFence, closedBody?_eq, afterBreak?_of_not_mem hline,
      ih (List.not_mem_of_not_mem_cons hline)]
    rfl

/-! ### Documents -/

/-- The characters of some lines, the fence behind them and a body. -/
def fencedRest (lines : List String) (body : List Char) : List Char :=
  (linesText lines).toList ++ ('-' :: '-' :: '-' :: '\n' :: body)

theorem fencedRest_nil (body : List Char) : fencedRest [] body = ['-', '-', '-'] ++ '\n' :: body := rfl

theorem fencedRest_cons (line : String) (lines : List String) (body : List Char) :
    fencedRest (line :: lines) body = line.toList ++ '\n' :: fencedRest lines body := by
  simp [fencedRest, linesText, String.toList_join]

/-- Lines in front of a fence are taken as they are, whatever the first of them is. -/
theorem splitAtFence_fencedRest (first : String) {others : List String}
    (hbreak : ∀ line ∈ first :: others, '\n' ∉ line.toList)
    (hfence : ∀ line ∈ others, isFenceLine line.toList = false) (body : List Char) :
    splitAtFence (fencedRest (first :: others) body) =
      some (withoutReturn (Text.joinWith ['\n'] ((first :: others).map String.toList)), body) := by
  induction others generalizing first with
  | nil =>
    have hclosed : afterFenceLine? (fencedRest [] body) = some body := by
      rw [fencedRest_nil, afterFenceLine?_line (by decide)]
      rfl
    rw [fencedRest_cons, splitAtFence_of_closed (hbreak first List.mem_cons_self) hclosed]
    rfl
  | cons second others ih =>
    obtain ⟨hfirst, hothers⟩ := List.forall_mem_cons.mp hbreak
    obtain ⟨hsecond, hrest⟩ := List.forall_mem_cons.mp hfence
    have hopen : afterFenceLine? (fencedRest (second :: others) body) = none := by
      rw [fencedRest_cons, afterFenceLine?_line (hothers second List.mem_cons_self), hsecond]
      rfl
    have hjoin : Text.joinWith ['\n'] ((first :: second :: others).map String.toList) =
        first.toList ++ '\n' :: Text.joinWith ['\n'] ((second :: others).map String.toList) := by
      simp [Text.joinWith]
    rw [fencedRest_cons, splitAtFence_of_open hfirst hopen, ih second hothers hrest, hjoin,
      withoutReturn_append_line]
    rfl

theorem splitFrontmatter_fenced (lines : List String) (body : String) :
    splitFrontmatter (fenced lines body) =
      (splitAtFence (fencedRest lines body.toList)).map
        fun split => (String.ofList split.1, String.ofList split.2) := by
  have htext : (fenced lines body).toList =
      '-' :: '-' :: '-' :: '\n' :: fencedRest lines body.toList := by
    simp [fenced, fencedRest]
  unfold splitFrontmatter
  rw [htext]
  generalize fencedRest lines body.toList = rest
  show (splitAtFence rest).bind _ = _
  cases splitAtFence rest <;> rfl

/-- In lines that are no fences, the last one without a line feed, nothing closes frontmatter. -/
theorem splitAtFence_linesText_eq_none {lines : List String} {last : String}
    (hlines : ∀ line ∈ lines, '\n' ∉ line.toList ∧ isFenceLine line.toList = false)
    (hlast : '\n' ∉ last.toList) (hfence : isFenceLine last.toList = false) :
    splitAtFence (linesText lines ++ last).toList = none ∧
      afterFenceLine? (linesText lines ++ last).toList = none := by
  induction lines with
  | nil =>
    have hnil : (linesText [] ++ last).toList = last.toList := by simp [linesText]
    rw [hnil]
    exact ⟨splitAtFence_of_not_mem hlast, afterFenceLine?_of_not_mem hlast hfence⟩
  | cons line lines ih =>
    obtain ⟨⟨hbreak, hline⟩, hrest⟩ := List.forall_mem_cons.mp hlines
    obtain ⟨hsplit, hopen⟩ := ih hrest
    have hcons : (linesText (line :: lines) ++ last).toList =
        line.toList ++ '\n' :: (linesText lines ++ last).toList := by
      simp [linesText, String.toList_join]
    rw [hcons, splitAtFence_of_open hbreak hopen, hsplit, afterFenceLine?_line hbreak, hline]
    exact ⟨rfl, rfl⟩

/-- With no line between the fences, a document whose body has no fence is all body. -/
theorem ofText_fenced_nil [Engines] {lines : List String} {last : String}
    (hlines : ∀ line ∈ lines, '\n' ∉ line.toList ∧ isFenceLine line.toList = false)
    (hlast : '\n' ∉ last.toList) (hfence : isFenceLine last.toList = false) :
    Document.ofText (fenced [] (linesText lines ++ last)) =
      .ok ⟨{}, fenced [] (linesText lines ++ last)⟩ := by
  obtain ⟨hnone, hopen⟩ := splitAtFence_linesText_eq_none hlines hlast hfence
  have hsplit : splitFrontmatter (fenced [] (linesText lines ++ last)) = none := by
    rw [splitFrontmatter_fenced, fencedRest_nil, splitAtFence_of_open (by decide) hopen, hnone]
    rfl
  rw [Document.ofText, hsplit]

/-- **Lines between fences are the frontmatter**: when no line but the first is a fence, they are read as
the frontmatter, and the body is what comes after the second fence, no more and no less. -/
theorem ofText_fenced [Engines] (first : String) {others : List String}
    (hbreak : ∀ line ∈ first :: others, '\n' ∉ line.toList)
    (hfence : ∀ line ∈ others, isFenceLine line.toList = false) (body : String) :
    Document.ofText (fenced (first :: others) body) =
      (Frontmatter.ofYaml (frontText (first :: others))).map fun f => ⟨f, body⟩ := by
  have hsplit : splitFrontmatter (fenced (first :: others) body) =
      some (frontText (first :: others), body) := by
    rw [splitFrontmatter_fenced, splitAtFence_fencedRest first hbreak hfence, frontText]
    simp
  rw [Document.ofText, hsplit]

/-- A carriage return on the first and the last line, an empty line and hyphens that are no fence. -/
theorem ofText_fenced_hyphens :
    let others := ["", "--- no fence", " ---", "tags: [a]\r"]
    (∀ line ∈ "title: Notes\r" :: others, '\n' ∉ line.toList) ∧
      (∀ line ∈ others, isFenceLine line.toList = false) ∧
      fenced ("title: Notes\r" :: others) "One\n---\nTwo" =
        "---\ntitle: Notes\r\n\n--- no fence\n ---\ntags: [a]\r\n---\nOne\n---\nTwo" ∧
      Document.ofText (fenced ("title: Notes\r" :: others) "One\n---\nTwo") =
        (Frontmatter.ofYaml "title: Notes\r\n\n--- no fence\n ---\ntags: [a]").map
          fun f => ⟨f, "One\n---\nTwo"⟩ := by
  intro others
  have hbreak : ∀ line ∈ "title: Notes\r" :: others, '\n' ∉ line.toList := by decide +kernel
  have hfence : ∀ line ∈ others, isFenceLine line.toList = false := by decide +kernel
  have hfront : frontText ("title: Notes\r" :: others) =
      "title: Notes\r\n\n--- no fence\n ---\ntags: [a]" := by decide +kernel
  exact ⟨hbreak, hfence, by decide +kernel,
    hfront ▸ ofText_fenced "title: Notes\r" hbreak hfence "One\n---\nTwo"⟩

/-- With no line between the fences the fences are read as body, and with a fence in the body the
second one is read as frontmatter and the body is cut. -/
theorem exists_fences_read_as_body :
    (¬ ∀ (lines : List String) (body : String),
      (∀ line ∈ lines, '\n' ∉ line.toList ∧ isFenceLine line.toList = false) →
        ∀ d, Document.ofText (fenced lines body) = .ok d → d.body = body) ∧
      splitFrontmatter (fenced [] "draft: true\n---\nBody") = some ("---\ndraft: true", "Body") := by
  refine ⟨fun h => ?_, by decide +kernel⟩
  have hread : Document.ofText (fenced [] (linesText [] ++ "Body")) =
      .ok ⟨{}, fenced [] (linesText [] ++ "Body")⟩ :=
    ofText_fenced_nil nofun (by decide) (by decide)
  exact absurd (h [] "Body" nofun _ hread) (by decide +kernel)

end Folio
