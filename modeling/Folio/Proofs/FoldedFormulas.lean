import Folio.Proofs.FencedLines

/-! # Folded formulas

Folding a text puts every display formula on one line, but the folded text is read again from its start, and
then its formulas need not be the folded ones: a blank formula folds to four dollar signs, which open a
formula that reaches for the next pair, and a formula whose last sign is a dollar sign in front of blanks
moves that sign to the closing pair, which then ends one place too early.  These are the only ways.  A body
folds well (`FoldsWell`) if neither happens to it; then its fold is read back, whatever follows
(`FoldsWell.displayMath?_eq`), and if all bodies of a text do, the formulas of the folded text are the
folds of the formulas, each on one line (`foldDisplayMath_settled`).  A body that does not fold well makes a
formula over two lines out of some text (`exists_formula_over_lines`). -/

namespace Folio.Text

open Folio.Unicode

variable {cs : List Char}

/-! ### Trimmed texts -/

/-- A text with no blank at either end. -/
structure IsTrimmed (cs : List Char) : Prop where
  start : ∀ c ∈ cs.head?, isBlank c = false
  finish : ∀ c ∈ cs.getLast?, isBlank c = false

theorem IsTrimmed.trim_eq (h : IsTrimmed cs) : trim cs = cs := trimMatches_eq_self h.start h.finish

theorem isTrimmed_trim (cs : List Char) : IsTrimmed (trim cs) where
  start c hc := by
    rw [trim_eq_trimMatches, head?_trimMatches] at hc
    exact eq_false_of_mem_head?_dropWhile isBlank cs c hc
  finish := getLast?_trimMatches isBlank cs

theorem isTrimmed_joinWith {sep : List Char} : ∀ {ls : List (List Char)},
    (∀ l ∈ ls, l ≠ [] ∧ IsTrimmed l) → IsTrimmed (joinWith sep ls)
  | [], _ => ⟨nofun, nofun⟩
  | [l], h => (h l List.mem_cons_self).2
  | l :: l' :: ls, h => by
      obtain ⟨⟨hne, hl⟩, hrest⟩ := List.forall_mem_cons.mp h
      have htail : IsTrimmed (joinWith sep (l' :: ls)) := isTrimmed_joinWith hrest
      have hjoined : joinWith sep (l' :: ls) ≠ [] := by
        have hne' := (hrest l' List.mem_cons_self).1
        cases ls <;> simp [joinWith, hne']
      obtain ⟨c, l, rfl⟩ := List.exists_cons_of_ne_nil hne
      rw [joinWith]
      refine ⟨fun d hd => hl.start d hd, fun d hd => htail.finish d ?_⟩
      rwa [List.getLast?_append_of_ne_nil _ hjoined] at hd

/-! ### Lines -/

theorem dropLineEnd_prefix_of_line (body : List Char) : dropLineEnd (body ++ ['\n']) <+: body := by
  rw [Markup.dropLineEnd_eq, ← List.reverse_suffix, List.reverse_reverse, List.reverse_append]
  show Markup.dropLineStart ('\n' :: body.reverse) <:+ body.reverse
  unfold Markup.dropLineStart
  split
  · rename_i heq
    rw [(List.cons.inj heq).2]
    exact List.suffix_cons _ _
  · rename_i heq
    exact (List.cons.inj heq).2 ▸ List.suffix_rfl
  · rename_i hne
    exact absurd rfl (hne _)

theorem dropLineEnd_of_not_mem (h : '\n' ∉ cs) : dropLineEnd cs = cs := by
  rw [Markup.dropLineEnd_eq, Markup.dropLineStart_of_ne, List.reverse_reverse]
  intro rest he
  exact h (List.mem_reverse.mp (he ▸ List.mem_cons_self))

theorem lines_of_not_mem (hne : cs ≠ []) (h : '\n' ∉ cs) : lines cs = [cs] := by
  rw [lines, Markup.rawLines_of_not_mem hne h, List.map_singleton, dropLineEnd_of_not_mem h]

theorem not_mem_of_mem_lines {line : List Char} (h : line ∈ lines cs) : '\n' ∉ line := by
  induction cs using Markup.line_induction with
  | nil => simp [lines, rawLines] at h
  | last cs hne hfeed =>
      rw [lines_of_not_mem hne hfeed, List.mem_singleton] at h
      rwa [h]
  | line body rest hbody ih =>
      rw [lines, Markup.rawLines_line hbody, List.map_cons, List.mem_cons] at h
      rcases h with rfl | h
      · exact fun hmem => hbody ((dropLineEnd_prefix_of_line body).subset hmem)
      · exact ih h

theorem mem_of_mem_joinWith {sep : List Char} {c : Char} : ∀ {ls : List (List Char)},
    c ∈ joinWith sep ls → c ∈ sep ∨ ∃ l ∈ ls, c ∈ l
  | [l], h => .inr ⟨l, List.mem_cons_self, h⟩
  | l :: l' :: ls, h => by
      rw [joinWith, List.append_assoc, List.mem_append, List.mem_append] at h
      rcases h with h | h | h
      · exact .inr ⟨l, List.mem_cons_self, h⟩
      · exact .inl h
      · rcases mem_of_mem_joinWith h with h | ⟨k, hk, h⟩
        · exact .inl h
        · exact .inr ⟨k, List.mem_cons_of_mem l hk, h⟩

/-- The lines of a text behind the first are lines of what follows its first character. -/
theorem exists_rawLines_cons (c : Char) (cs : List Char) :
    ∃ first rest, rawLines (c :: cs) = first :: rest ∧ rest ⊆ rawLines cs := by
  rw [rawLines]
  split
  · exact ⟨[c], rawLines cs, rfl, List.Subset.refl _⟩
  · split
    · exact ⟨[c], [], rfl, List.nil_subset _⟩
    · rename_i line rest hlines
      exact ⟨c :: line, rest, rfl, hlines ▸ List.subset_cons_self _ _⟩

variable {p : List Char}

/-- Behind the first character of a part there is nothing that is not behind the first character of the
whole. -/
theorem infix_tail_of_infix {part : List Char} (hpart : part <:+: cs) (h : p <:+: part.tail) :
    p <:+: cs.tail := by
  obtain ⟨before, after, rfl⟩ := hpart
  refine h.trans ?_
  cases before with
  | nil =>
      cases part with
      | nil => exact List.nil_infix
      | cons c part => exact (List.prefix_append part after).isInfix
  | cons d before =>
      have htail : part.tail <:+: part := (List.tail_suffix part).isInfix
      exact htail.trans ⟨before, after, rfl⟩

end Folio.Text

namespace Folio.Markup

open Folio.Unicode Folio.Text

/-! ### Folding a body -/

theorem not_mem_foldMath (body : List Char) : '\n' ∉ foldMath body := by
  intro h
  rcases mem_of_mem_joinWith h with h | ⟨piece, hpiece, h⟩
  · simp at h
  · obtain ⟨line, hline, rfl⟩ := List.mem_map.mp (List.mem_of_mem_filter hpiece)
    exact not_mem_of_mem_lines hline ((trim_isInfix line).subset h)

theorem isTrimmed_foldMath (body : List Char) : IsTrimmed (foldMath body) := by
  refine isTrimmed_joinWith fun piece hpiece => ?_
  obtain ⟨hmem, hne⟩ := List.mem_filter.mp hpiece
  obtain ⟨line, -, rfl⟩ := List.mem_map.mp hmem
  exact ⟨of_decide_eq_true hne, isTrimmed_trim line⟩

/-- A folded body stays as it is. -/
theorem foldMath_foldMath (body : List Char) : foldMath (foldMath body) = foldMath body := by
  by_cases hnil : foldMath body = []
  · rw [hnil]
    rfl
  · have hfilter : [foldMath body].filter (· ≠ []) = [foldMath body] :=
      List.filter_cons_of_pos (by simpa using hnil)
    rw [foldMath, lines_of_not_mem hnil (not_mem_foldMath body), List.map_singleton,
      (isTrimmed_foldMath body).trim_eq, hfilter, joinWith]

/-- What lies behind the first character of a folded body lies behind that of the body. -/
theorem infix_tail_of_infix_foldMath {p body : List Char} (hp : p ≠ []) (hspace : ' ' ∉ p)
    (h : p <:+: (foldMath body).tail) : p <:+: body.tail := by
  cases body with
  | nil => exact absurd (List.infix_nil.mp h) hp
  | cons c body =>
      obtain ⟨first, rest, hlines, hrest⟩ := exists_rawLines_cons c body
      have hfirst : trim (dropLineEnd first) <:+: c :: body := by
        apply (trim_isInfix _).trans
        exact infix_of_mem_lines (List.mem_map_of_mem (hlines ▸ List.mem_cons_self))
      have hlater : ∀ piece ∈ ((rest.map dropLineEnd).map trim).filter (· ≠ []), piece <:+: body := by
        intro piece hpiece
        obtain ⟨line, hline, rfl⟩ := List.mem_map.mp (List.mem_of_mem_filter hpiece)
        obtain ⟨raw, hraw, rfl⟩ := List.mem_map.mp hline
        exact (trim_isInfix _).trans (infix_of_mem_lines (List.mem_map_of_mem (hrest hraw)))
      have hjoin : ∀ {pieces : List (List Char)}, (∀ piece ∈ pieces, piece <:+: body) →
          p <:+: joinWith [' '] pieces → p <:+: body := by
        intro pieces hpieces h
        obtain ⟨piece, hpiece, h⟩ := infix_of_infix_joinWith hp hspace h
        exact h.trans (hpieces piece hpiece)
      rw [foldMath, lines, hlines, List.map_cons, List.map_cons] at h
      by_cases hblank : trim (dropLineEnd first) = []
      · rw [List.filter_cons_of_neg (by simpa using hblank)] at h
        exact hjoin hlater (h.trans (List.tail_suffix _).isInfix)
      · rw [List.filter_cons_of_pos (by simpa using hblank)] at h
        obtain ⟨d, piece, hpiece⟩ := List.exists_cons_of_ne_nil hblank
        have hinside : p <:+: piece → p <:+: body := by
          intro h
          have htail : p <:+: (c :: body).tail := infix_tail_of_infix hfirst (hpiece ▸ h)
          exact htail
        rw [hpiece] at h
        generalize ((rest.map dropLineEnd).map trim).filter (· ≠ []) = pieces at h hlater
        cases pieces with
        | nil => exact hinside h
        | cons next pieces =>
            rw [joinWith, List.append_assoc] at h
            exact (infix_append_cons hspace h).elim hinside (hjoin hlater)

/-! ### Pairs of dollar signs -/

/-- A text in which no two dollar signs stand side by side. -/
def HasNoPair (cs : List Char) : Prop := ¬ ['$', '$'] <:+: cs

theorem hasNoPair_cons_iff {c : Char} {cs : List Char} :
    HasNoPair (c :: cs) ↔ (c = '$' → cs.head? ≠ some '$') ∧ HasNoPair cs := by
  have hstart : ['$', '$'] <+: c :: cs ↔ c = '$' ∧ cs.head? = some '$' := by
    cases cs with
    | nil => simp
    | cons d cs => simp [eq_comm]
  unfold HasNoPair
  rw [List.infix_cons_iff, hstart, not_or, not_and]

theorem hasNoPair_concat_iff {cs : List Char} :
    HasNoPair (cs ++ ['$']) ↔ HasNoPair cs ∧ cs.getLast? ≠ some '$' := by
  have hend : ['$', '$'] <:+ cs ++ ['$'] ↔ cs.getLast? = some '$' := by
    have hpair : ['$', '$'] = ['$'] ++ ['$'] := rfl
    rw [hpair, List.suffix_append_inj_of_length_eq rfl]
    simp [List.singleton_suffix_iff_getLast?_eq_some]
  unfold HasNoPair
  rw [List.infix_concat_iff, hend, not_or, and_comm]

/-- The text in front of the first pair holds no pair, and neither does it with the first sign of that
pair. -/
theorem hasNoPair_of_untilDollars {cs body rest : List Char} (h : untilDollars cs = some (body, rest)) :
    HasNoPair (body ++ ['$']) := by
  fun_induction untilDollars cs generalizing body rest with
  | case1 =>
      cases h
      exact hasNoPair_cons_iff.mpr ⟨by simp, by simp [HasNoPair]⟩
  | case2 c cs hpair ih =>
      obtain ⟨⟨inner, rest'⟩, hinner, he⟩ := Option.map_eq_some_iff.mp h
      cases he
      refine hasNoPair_cons_iff.mpr ⟨?_, ih hinner⟩
      rintro rfl hhead
      -- then the pair would stand at the start
      have hcs := untilDollars_eq hinner
      cases inner with
      | nil => exact hpair _ rfl hcs
      | cons d inner =>
          obtain rfl : d = '$' := Option.some.inj hhead
          exact hpair _ rfl hcs
  | case3 => cases h

/-- A pair behind a text that holds none is found. -/
theorem untilDollars_of_hasNoPair {body : List Char} (h : HasNoPair (body ++ ['$'])) (rest : List Char) :
    untilDollars (body ++ '$' :: '$' :: rest) = some (body, rest) := by
  induction body with
  | nil => rfl
  | cons c body ih =>
      obtain ⟨hstart, hbody⟩ := hasNoPair_cons_iff.mp h
      rw [List.cons_append, untilDollars, ih hbody]
      · rfl
      · intro after hc he
        apply hstart hc
        cases body with
        | nil => rfl
        | cons d body => exact congrArg some (List.cons.inj he).1

theorem untilDollars_eq_none_iff {cs : List Char} : untilDollars cs = none ↔ HasNoPair cs := by
  fun_induction untilDollars cs with
  | case1 rest => simp [hasNoPair_cons_iff]
  | case2 c cs hpair ih =>
      rw [Option.map_eq_none_iff, ih, hasNoPair_cons_iff]
      refine ⟨fun h => ⟨?_, h⟩, And.right⟩
      rintro rfl hhead
      obtain ⟨after, rfl⟩ := List.head?_eq_some_iff.mp hhead
      exact hpair after rfl rfl
  | case3 => simp [HasNoPair]

/-- A formula is found by its body. -/
theorem displayMath?_of_hasNoPair {c : Char} {body : List Char} (h : HasNoPair (body ++ ['$']))
    (rest : List Char) :
    displayMath? ('$' :: '$' :: (c :: body ++ '$' :: '$' :: rest)) = some (c :: body, rest) := by
  rw [List.cons_append, displayMath?, untilDollars_of_hasNoPair h]
  rfl

theorem exists_of_displayMath? {cs body rest : List Char} (h : displayMath? cs = some (body, rest)) :
    ∃ c inner, body = c :: inner ∧ HasNoPair (inner ++ ['$']) := by
  unfold displayMath? at h
  split at h
  · obtain ⟨⟨inner, rest'⟩, hinner, he⟩ := Option.map_eq_some_iff.mp h
    cases he
    exact ⟨_, inner, rfl, hasNoPair_of_untilDollars hinner⟩
  · cases h

/-! ### Bodies that fold well -/

/-- A body whose fold is a lone dollar sign, or is not empty and ends in another sign. -/
def FoldsWell (body : List Char) : Prop :=
  foldMath body = ['$'] ∨ foldMath body ≠ [] ∧ (foldMath body).getLast? ≠ some '$'

instance (body : List Char) : Decidable (FoldsWell body) := inferInstanceAs (Decidable (_ ∨ _))

/-- Behind its first character the fold of a body holds no pair. -/
theorem hasNoPair_tail_foldMath {cs body rest : List Char} (h : displayMath? cs = some (body, rest)) :
    HasNoPair (foldMath body).tail := by
  obtain ⟨c, inner, rfl, hpair⟩ := exists_of_displayMath? h
  intro hin
  have hinner := infix_tail_of_infix_foldMath (by simp) (by decide) hin
  exact hpair (hinner.trans (List.prefix_append inner ['$']).isInfix)

/-- A fold that ends in no dollar sign is read back, whatever follows. -/
theorem FoldsWell.displayMath?_eq {cs body rest : List Char} (hbody : FoldsWell body)
    (h : displayMath? cs = some (body, rest)) (after : List Char) :
    displayMath? ('$' :: '$' :: (foldMath body ++ '$' :: '$' :: after)) =
      some (foldMath body, after) := by
  have htail := hasNoPair_tail_foldMath h
  rcases hbody with hdollar | ⟨hne, hlast⟩
  · rw [hdollar]
    rfl
  · obtain ⟨c, inner, hfold⟩ := List.exists_cons_of_ne_nil hne
    rw [hfold] at htail hlast ⊢
    apply displayMath?_of_hasNoPair
    refine hasNoPair_concat_iff.mpr ⟨htail, fun hdollar => hlast ?_⟩
    rw [List.getLast?_cons, hdollar]
    rfl

/-! ### Formulas of a text -/

/-- The bodies of the display formulas of a text, in order, as folding comes to them. -/
def formulas (cs : List Char) : List (List Char) :=
  match _h : displayMath? cs with
  | some (body, rest) => body :: formulas rest
  | none =>
    match cs with
    | [] => []
    | _ :: rest => formulas rest
  termination_by cs.length
  decreasing_by
    · exact displayMath?_length _h
    · simp

theorem formulas_nil : formulas [] = [] := by
  rw [formulas]
  rfl

theorem foldDisplayMath_nil : foldDisplayMath [] = [] := by
  rw [foldDisplayMath]
  rfl

theorem formulas_of_some {cs body rest : List Char} (h : displayMath? cs = some (body, rest)) :
    formulas cs = body :: formulas rest := by
  rw [formulas]
  split
  · rename_i h'
    rw [h] at h'
    cases h'
    rfl
  · rename_i h'
    rw [h] at h'
    cases h'

theorem formulas_cons_of_none {c : Char} {cs : List Char} (h : displayMath? (c :: cs) = none) :
    formulas (c :: cs) = formulas cs := by
  rw [formulas]
  split
  · rename_i h'
    rw [h] at h'
    cases h'
  · rfl

theorem head?_foldDisplayMath (cs : List Char) : (foldDisplayMath cs).head? = cs.head? := by
  cases hopens : displayMath? cs with
  | some r =>
      obtain ⟨body, rest⟩ := r
      obtain ⟨-, hcs⟩ := displayMath?_eq hopens
      rw [foldDisplayMath_of_some hopens, hcs]
      rfl
  | none =>
      cases cs with
      | nil => rw [foldDisplayMath_nil]
      | cons c cs =>
          rw [foldDisplayMath_cons_of_none hopens]
          rfl

theorem foldDisplayMath_of_hasNoPair_tail {c d : Char} {cs : List Char} (h : HasNoPair cs) :
    foldDisplayMath (c :: d :: cs) = c :: d :: cs := by
  apply foldDisplayMath_eq_self
  rintro ⟨before, body, after, hne, he⟩
  -- the second pair begins behind the first pair and at least one more sign
  obtain ⟨e, body, rfl⟩ := List.exists_cons_of_ne_nil hne
  have hdrop := congrArg (List.drop 2) he
  apply h
  rw [show cs = _ from hdrop]
  cases before with
  | nil => exact ⟨e :: body, after, by simp⟩
  | cons x before =>
      cases before with
      | nil => exact ⟨'$' :: e :: body, after, by simp⟩
      | cons y before => exact ⟨before ++ '$' :: '$' :: e :: body, after, by simp⟩

/-- Where no formula opens, none opens when what follows is folded. -/
theorem displayMath?_cons_foldDisplayMath {c : Char} {cs : List Char}
    (h : displayMath? (c :: cs) = none) : displayMath? (c :: foldDisplayMath cs) = none := by
  by_cases hpair : c = '$' ∧ cs.head? = some '$'
  · obtain ⟨rfl, hhead⟩ := hpair
    obtain ⟨cs, rfl⟩ := List.head?_eq_some_iff.mp hhead
    -- then no pair follows, so there is no formula in what follows
    have hself : foldDisplayMath ('$' :: cs) = '$' :: cs := by
      cases cs with
      | nil =>
          have hnone : displayMath? ['$'] = none := rfl
          rw [foldDisplayMath_cons_of_none hnone, foldDisplayMath_nil]
      | cons d cs =>
          have hnone : untilDollars cs = none := Option.map_eq_none_iff.mp h
          exact foldDisplayMath_of_hasNoPair_tail (untilDollars_eq_none_iff.mp hnone)
    rw [hself]
    exact h
  · refine displayMath?_eq_none fun rest he => hpair ?_
    obtain ⟨hc, hrest⟩ := List.cons.inj he
    refine ⟨hc, ?_⟩
    rw [← head?_foldDisplayMath, hrest]
    rfl

/-- **Folded formulas stay**: if every formula of a text folds well, then the formulas of the folded text are
the folds of the formulas of the text, each of them on one line, and folding it again changes nothing. -/
theorem foldDisplayMath_settled {cs : List Char} (h : ∀ body ∈ formulas cs, FoldsWell body) :
    formulas (foldDisplayMath cs) = (formulas cs).map foldMath ∧
      (∀ body ∈ formulas (foldDisplayMath cs), '\n' ∉ body) ∧
      foldDisplayMath (foldDisplayMath cs) = foldDisplayMath cs := by
  have hread : formulas (foldDisplayMath cs) = (formulas cs).map foldMath ∧
      foldDisplayMath (foldDisplayMath cs) = foldDisplayMath cs := by
    fun_induction foldDisplayMath cs with
    | case1 cs body rest hopens ih =>
        rw [formulas_of_some hopens, List.forall_mem_cons] at h
        obtain ⟨hformulas, hfolded⟩ := ih h.2
        have hreopens := h.1.displayMath?_eq hopens (foldDisplayMath rest)
        have hwritten : "$$".toList ++ foldMath body ++ "$$".toList ++ foldDisplayMath rest =
            '$' :: '$' :: (foldMath body ++ '$' :: '$' :: foldDisplayMath rest) := by simp
        rw [hwritten, formulas_of_some hreopens, foldDisplayMath_of_some hreopens, formulas_of_some hopens,
          List.map_cons, hformulas, hfolded, foldMath_foldMath, hwritten]
        exact ⟨rfl, rfl⟩
    | case2 hopens => simp [formulas_nil, foldDisplayMath_nil]
    | case3 c rest hopens ih =>
        rw [formulas_cons_of_none hopens] at h ⊢
        obtain ⟨hformulas, hfolded⟩ := ih h
        have hreopens := displayMath?_cons_foldDisplayMath hopens
        rw [formulas_cons_of_none hreopens, foldDisplayMath_cons_of_none hreopens, hfolded]
        exact ⟨hformulas, rfl⟩
  refine ⟨hread.1, fun body hbody => ?_, hread.2⟩
  rw [hread.1] at hbody
  obtain ⟨body, -, rfl⟩ := List.mem_map.mp hbody
  exact not_mem_foldMath body

/-- Formulas over several lines, one of them a lone dollar sign. -/
def spreadFormulas : List Char := "$$ a\n\n = $b \n$$ and $$\n$\r\n$$$ end".toList

theorem foldDisplayMath_settled_spreadFormulas :
    (∀ body ∈ formulas spreadFormulas, FoldsWell body) ∧
      foldDisplayMath spreadFormulas = "$$a = $b$$ and $$$$$$ end".toList ∧
      formulas (foldDisplayMath spreadFormulas) = ["a = $b".toList, "$".toList] ∧
      foldDisplayMath (foldDisplayMath spreadFormulas) = foldDisplayMath spreadFormulas := by
  have hformulas : formulas spreadFormulas = [" a\n\n = $b \n".toList, "\n$\r\n".toList] := by
    decide +kernel
  have hwell : ∀ body ∈ formulas spreadFormulas, FoldsWell body := by
    rw [hformulas]
    decide +kernel
  obtain ⟨hread, -, hstays⟩ := foldDisplayMath_settled hwell
  refine ⟨hwell, by decide +kernel, hread.trans ?_, hstays⟩
  rw [hformulas]
  decide +kernel

/-! ### Bodies that do not fold well -/

/-- A formula that does not fold well makes one over two lines, if the right text follows it. -/
theorem exists_formula_over_lines {body : List Char}
    (hopens : displayMath? ("$$".toList ++ body ++ "$$".toList) = some (body, []))
    (hbody : ¬ FoldsWell body) :
    ∃ rest, ∃ other ∈ formulas (foldDisplayMath ("$$".toList ++ body ++ "$$".toList ++ rest)),
      '\n' ∈ other := by
  obtain ⟨c, inner, rfl, hpair⟩ := exists_of_displayMath? hopens
  have hfold : ∀ rest, foldDisplayMath ("$$".toList ++ (c :: inner) ++ "$$".toList ++ rest) =
      '$' :: '$' :: (foldMath (c :: inner) ++ '$' :: '$' :: foldDisplayMath rest) := by
    intro rest
    have hfound := displayMath?_of_hasNoPair (c := c) hpair rest
    have htext : "$$".toList ++ (c :: inner) ++ "$$".toList ++ rest =
        '$' :: '$' :: (c :: inner ++ '$' :: '$' :: rest) := by simp
    rw [htext, foldDisplayMath_of_some hfound]
    simp
  obtain ⟨hlone, hends⟩ := not_or.mp hbody
  by_cases hnil : foldMath (c :: inner) = []
  · -- four dollar signs open a formula that reaches for the next pair
    refine ⟨"\n$$".toList, "$$\n".toList, ?_, by decide⟩
    rw [hfold, hnil]
    decide +kernel
  · obtain ⟨d, ds, hds⟩ := List.exists_cons_of_ne_nil hnil
    have hlast : (d :: ds).getLast? = some '$' := by
      rw [← hds]
      exact not_not.mp fun h => hends ⟨hnil, h⟩
    have htail := hasNoPair_tail_foldMath hopens
    rw [hds] at htail hlone
    -- the formula ends one sign too early, and its last sign opens another one with the sign that follows
    rcases List.eq_nil_or_concat ds with rfl | ⟨init, e, rfl⟩
    · exact absurd (by simpa using hlast) hlone
    · obtain rfl : e = '$' := by simpa [List.getLast?_cons] using hlast
      refine ⟨"$\n$$".toList, "\n".toList, ?_, by decide⟩
      have hrest : foldDisplayMath "$\n$$".toList = "$\n$$".toList := by decide +kernel
      have hinit : HasNoPair (init ++ ['$']) := by simpa using htail
      have hfound := displayMath?_of_hasNoPair (c := d) hinit "$$\n$$".toList
      rw [hfold, hds, hrest]
      have htext : '$' :: '$' :: (d :: init.concat '$' ++ '$' :: '$' :: "$\n$$".toList) =
          '$' :: '$' :: (d :: init ++ '$' :: '$' :: "$$\n$$".toList) := by simp
      rw [htext, formulas_of_some hfound]
      apply List.mem_cons_of_mem
      decide +kernel

/-- A blank formula in front of a formula over several lines: its fold and the next pair make another
formula over these lines, and what folding did is not done when it is done again. -/
theorem exists_formula_not_folded :
    formulas (foldDisplayMath "$$\n$$\na\n$$".toList) = ["$$\na\n".toList] ∧
      foldDisplayMath (foldDisplayMath "$$\n$$\na\n$$".toList) ≠
        foldDisplayMath "$$\n$$\na\n$$".toList := by
  decide +kernel

end Folio.Markup
