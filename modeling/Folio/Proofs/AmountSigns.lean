import Folio.Markup.Dollar

/-! # Texts with amounts

A text is read as a list of signs: its characters, of which some dollar signs are those of amounts.
`written w` writes the signs down with `w` in place of every amount: with a dollar sign this is the text
itself, and with the placeholder it is the text in which currency is masked (`written_signs`).  The
dollar sign of an amount stands alone (`isolated_signs`), so it takes no part in a pair.  Splitting a text
at pairs of dollar signs, taking lines, trimming and joining therefore act on signs, whatever is written
for an amount, and so does folding a formula (`actsOnSigns_foldMath`) and a text (`foldDisplayMath_written`). -/

namespace Folio.Markup

open Folio.Unicode

/-! ### Signs -/

/-- A character, or the dollar sign of an amount. -/
inductive Sign where
  | char (c : Char)
  | amount
deriving DecidableEq, Repr

/-- What is written for a sign, with `w` for an amount. -/
def Sign.chars (w : List Char) : Sign → List Char
  | char c => [c]
  | amount => w

/-- The character that a sign is in the text. -/
def Sign.plain : Sign → Char
  | char c => c
  | amount => '$'

/-- What is written for some signs, with `w` for every amount. -/
def written (w : List Char) (signs : List Sign) : List Char := signs.flatMap (Sign.chars w)

/-- Whether a character is the dollar sign of an amount. -/
def IsAmount (before : Option Char) (c : Char) (cs : List Char) : Prop :=
  c = '$' ∧ before ≠ some '\\' ∧ before ≠ some '$' ∧ cs.head?.any Char.isDigit = true

instance (before : Option Char) (c : Char) (cs : List Char) : Decidable (IsAmount before c cs) :=
  inferInstanceAs (Decidable (_ ∧ _ ∧ _ ∧ _))

/-- The signs of a text behind the character `before`. -/
def signsFrom (before : Option Char) : List Char → List Sign
  | [] => []
  | c :: cs => (if IsAmount before c cs then .amount else .char c) :: signsFrom (some c) cs

/-- The signs of a text. -/
def signs (cs : List Char) : List Sign := signsFrom none cs

variable {w : List Char} {X : List Sign} {s : Sign}

@[simp] theorem written_nil (w : List Char) : written w [] = [] := rfl

@[simp] theorem written_cons (w : List Char) (s : Sign) (X : List Sign) :
    written w (s :: X) = s.chars w ++ written w X := rfl

@[simp] theorem written_append (w : List Char) (X Y : List Sign) :
    written w (X ++ Y) = written w X ++ written w Y := List.flatMap_append

/-- Characters that are no amounts are written as they are. -/
theorem written_map_char (w cs : List Char) : written w (cs.map .char) = cs := by
  induction cs with
  | nil => rfl
  | cons c cs ih => rw [List.map_cons, written_cons, ih]; rfl

theorem written_dollar_signsFrom (before : Option Char) (cs : List Char) :
    written ['$'] (signsFrom before cs) = cs := by
  induction cs generalizing before with
  | nil => rfl
  | cons c cs ih =>
    rw [signsFrom, written_cons, ih]
    split
    · rename_i h
      rw [h.1]
      rfl
    · rfl

theorem written_placeholder_signsFrom (before : Option Char) (cs : List Char) :
    written currencyPlaceholder.toList (signsFrom before cs) = maskCurrencyFrom before cs := by
  induction cs generalizing before with
  | nil => rfl
  | cons c cs ih =>
    rw [signsFrom, written_cons, ih, maskCurrencyFrom]
    congr 1
    by_cases h : IsAmount before c cs
    · rw [if_pos h, if_pos (by simpa [IsAmount, and_assoc] using h)]
      rfl
    · rw [if_neg h, if_neg (by simpa [IsAmount, and_assoc] using h)]
      rfl

/-- The signs of a text are the text with dollar signs for amounts, and the masked text with
placeholders. -/
theorem written_signs (cs : List Char) :
    written ['$'] (signs cs) = cs ∧ written currencyPlaceholder.toList (signs cs) = maskCurrency cs :=
  ⟨written_dollar_signsFrom none cs, written_placeholder_signsFrom none cs⟩

/-! ### Amounts stand alone -/

/-- Of two neighbours that are dollar signs, none is that of an amount. -/
def Lone (a b : Sign) : Prop := a.plain = '$' → b.plain = '$' → a ≠ .amount ∧ b ≠ .amount

/-- No amount stands beside a dollar sign. -/
def Isolated : List Sign → Prop
  | [] => True
  | s :: X => (∀ t ∈ X.head?, Lone s t) ∧ Isolated X

theorem lone_signsFrom (before : Option Char) (c d : Char) (cs : List Char) :
    Lone (if IsAmount before c (d :: cs) then .amount else .char c)
      (if IsAmount (some c) d cs then .amount else .char d) := by
  have hplain : ∀ (b : Option Char) (c : Char) (cs : List Char),
      (if IsAmount b c cs then Sign.amount else .char c).plain = '$' → c = '$' := by
    intro b c cs h
    split at h
    · rename_i hamount
      exact hamount.1
    · exact h
  intro hc hd
  obtain rfl := hplain _ _ _ hc
  obtain rfl := hplain _ _ _ hd
  constructor <;> simp [IsAmount]

theorem isolated_signsFrom (before : Option Char) (cs : List Char) : Isolated (signsFrom before cs) := by
  induction cs generalizing before with
  | nil => trivial
  | cons c cs ih =>
    refine ⟨?_, ih (some c)⟩
    cases cs with
    | nil => simp [signsFrom]
    | cons d cs => simpa [signsFrom] using lone_signsFrom before c d cs

theorem isolated_signs (cs : List Char) : Isolated (signs cs) := isolated_signsFrom none cs

/-- What may stand for the dollar sign of an amount: a text without blanks, which is a dollar sign or has
none. -/
structure StandsIn (w : List Char) : Prop where
  ne_nil : w ≠ []
  solid : ∀ c ∈ w, isBlank c = false
  dollar : w = ['$'] ∨ '$' ∉ w

theorem isBlank_eq_false_of_all (h : w.all (fun c => !isBlank c) = true) : ∀ c ∈ w, isBlank c = false := by
  simpa using h

theorem standsIn_dollar : StandsIn ['$'] := ⟨by decide, isBlank_eq_false_of_all (by decide +kernel), .inl rfl⟩

theorem standsIn_placeholder : StandsIn currencyPlaceholder.toList :=
  ⟨by decide, isBlank_eq_false_of_all (by decide +kernel), .inr (by decide)⟩

theorem StandsIn.reverse (hw : StandsIn w) : StandsIn w.reverse where
  ne_nil := by simpa using hw.ne_nil
  solid c hc := hw.solid c (List.mem_reverse.mp hc)
  dollar := hw.dollar.imp (fun h => by rw [h]; rfl) (fun h => by simpa using h)

theorem StandsIn.chars_ne_nil (hw : StandsIn w) (s : Sign) : s.chars w ≠ [] := by
  cases s with
  | char c => exact List.cons_ne_nil c []
  | amount => exact hw.ne_nil

theorem StandsIn.written_eq_nil_iff (hw : StandsIn w) : written w X = [] ↔ X = [] := by
  cases X with
  | nil => simp
  | cons s X => simp [hw.chars_ne_nil s]

/-- A blank starts what is written only where it is the first sign. -/
theorem StandsIn.of_written_eq_cons (hw : StandsIn w) {c : Char} {cs : List Char}
    (hc : isBlank c = true) (h : written w X = c :: cs) : ∃ Y, X = .char c :: Y := by
  cases X with
  | nil => cases h
  | cons s X =>
    cases s with
    | char d => exact ⟨X, by rw [(List.cons.inj h).1]⟩
    | amount =>
      obtain ⟨d, ds, rfl⟩ := List.exists_cons_of_ne_nil hw.ne_nil
      have hsolid := hw.solid d List.mem_cons_self
      rw [(List.cons.inj h).1, hc] at hsolid
      cases hsolid

theorem written_reverse (w : List Char) (X : List Sign) :
    (written w X).reverse = written w.reverse X.reverse := by
  induction X with
  | nil => rfl
  | cons s X ih => cases s <;> simp [ih, Sign.chars]

/-! ### Functions on signs -/

/-- A function of texts that can be computed on signs, whatever is written for an amount. -/
def ActsOnSigns (f : List Char → List Char) : Prop :=
  ∀ X, ∃ Y, ∀ w, StandsIn w → f (written w X) = written w Y

section Acts

variable {f g : List Char → List Char}

theorem ActsOnSigns.comp (hg : ActsOnSigns g) (hf : ActsOnSigns f) : ActsOnSigns (g ∘ f) := by
  intro X
  obtain ⟨Y, hY⟩ := hf X
  obtain ⟨Z, hZ⟩ := hg Y
  exact ⟨Z, fun w hw => (congrArg g (hY w hw)).trans (hZ w hw)⟩

/-- Working from the end is working from the start of the reversed text. -/
theorem ActsOnSigns.fromEnd (hf : ActsOnSigns f) : ActsOnSigns fun cs => (f cs.reverse).reverse := by
  intro X
  obtain ⟨Y, hY⟩ := hf X.reverse
  refine ⟨Y.reverse, fun w hw => ?_⟩
  dsimp only
  rw [written_reverse, hY w.reverse hw.reverse, written_reverse, List.reverse_reverse]

theorem ActsOnSigns.map (hf : ActsOnSigns f) (Ls : List (List Sign)) :
    ∃ Ms : List (List Sign), ∀ w, StandsIn w → (Ls.map (written w)).map f = Ms.map (written w) := by
  induction Ls with
  | nil => exact ⟨[], fun _ _ => rfl⟩
  | cons X Ls ih =>
    obtain ⟨Y, hY⟩ := hf X
    obtain ⟨Ms, hMs⟩ := ih
    exact ⟨Y :: Ms, fun w hw => by simp [hY w hw, hMs w hw]⟩

end Acts

theorem actsOnSigns_trimStart : ActsOnSigns Text.trimStart := by
  intro X
  induction X with
  | nil => exact ⟨[], fun _ _ => rfl⟩
  | cons s X ih =>
    by_cases hblank : ∃ c, s = .char c ∧ isBlank c = true
    · obtain ⟨c, rfl, hc⟩ := hblank
      obtain ⟨Y, hY⟩ := ih
      refine ⟨Y, fun w hw => ?_⟩
      rw [← hY w hw]
      exact List.dropWhile_cons_of_pos hc
    · refine ⟨s :: X, fun w hw => ?_⟩
      cases hwritten : written w (s :: X) with
      | nil => rfl
      | cons c cs =>
        refine List.dropWhile_cons_of_neg fun hc => hblank ⟨c, ?_, hc⟩
        obtain ⟨Y, hY⟩ := hw.of_written_eq_cons hc hwritten
        exact (List.cons.inj hY).1

theorem actsOnSigns_trim : ActsOnSigns Text.trim :=
  ActsOnSigns.comp actsOnSigns_trimStart.fromEnd actsOnSigns_trimStart

/-- The line end that a line starts with when it is read backwards. -/
def dropLineStart : List Char → List Char
  | '\n' :: '\r' :: rest => rest
  | '\n' :: rest => rest
  | cs => cs

theorem dropLineEnd_eq (cs : List Char) :
    Text.dropLineEnd cs = (dropLineStart cs.reverse).reverse := by
  unfold Text.dropLineEnd dropLineStart
  split <;> simp_all

theorem dropLineStart_of_ne {cs : List Char} (h : ∀ rest, cs ≠ '\n' :: rest) :
    dropLineStart cs = cs := by
  unfold dropLineStart
  split
  · exact absurd rfl (h _)
  · exact absurd rfl (h _)
  · rfl

theorem dropLineStart_cons_of_ne {cs : List Char} (h : ∀ rest, cs ≠ '\r' :: rest) :
    dropLineStart ('\n' :: cs) = cs := by
  unfold dropLineStart
  split
  · rename_i heq
    exact absurd (List.cons.inj heq).2 (h _)
  · rename_i heq
    exact (List.cons.inj heq).2.symm
  · rename_i hne
    exact absurd rfl (hne cs)

theorem actsOnSigns_dropLineStart : ActsOnSigns dropLineStart := by
  intro X
  have hline : isBlank '\n' = true := by decide +kernel
  have hreturn : isBlank '\r' = true := by decide +kernel
  by_cases hX : ∃ Y, X = .char '\n' :: Y
  · obtain ⟨Y, rfl⟩ := hX
    by_cases hY : ∃ Z, Y = .char '\r' :: Z
    · obtain ⟨Z, rfl⟩ := hY
      exact ⟨Z, fun _ _ => rfl⟩
    · exact ⟨Y, fun w hw => dropLineStart_cons_of_ne fun rest h => hY (hw.of_written_eq_cons hreturn h)⟩
  · exact ⟨X, fun w hw => dropLineStart_of_ne fun rest h => hX (hw.of_written_eq_cons hline h)⟩

theorem actsOnSigns_dropLineEnd : ActsOnSigns Text.dropLineEnd := by
  rw [funext dropLineEnd_eq]
  exact actsOnSigns_dropLineStart.fromEnd

/-! ### Lines and formulas -/

theorem rawLines_cons_of_ne {c : Char} (h : c ≠ '\n') (cs : List Char) :
    Text.rawLines (c :: cs) = match Text.rawLines cs with
      | [] => [[c]]
      | line :: rest => (c :: line) :: rest := by
  cases hlines : Text.rawLines cs <;> simp [Text.rawLines, h, hlines]

/-- A text without line ends goes into the first line. -/
theorem rawLines_append (hne : w ≠ []) (h : '\n' ∉ w) (cs : List Char) :
    Text.rawLines (w ++ cs) = match Text.rawLines cs with
      | [] => [w]
      | line :: rest => (w ++ line) :: rest := by
  induction w with
  | nil => exact absurd rfl hne
  | cons c w ih =>
    obtain ⟨hc, hw⟩ : '\n' ≠ c ∧ '\n' ∉ w := by simpa using h
    rw [List.cons_append, rawLines_cons_of_ne (Ne.symm hc)]
    by_cases hnil : w = []
    · subst hnil
      rfl
    · rw [ih hnil hw]
      cases Text.rawLines cs <;> rfl

theorem rawLines_written (X : List Sign) :
    ∃ Ls : List (List Sign), ∀ w, StandsIn w → Text.rawLines (written w X) = Ls.map (written w) := by
  induction X with
  | nil => exact ⟨[], fun _ _ => rfl⟩
  | cons s X ih =>
    obtain ⟨Ls, hLs⟩ := ih
    by_cases hs : s = .char '\n'
    · subst hs
      refine ⟨[.char '\n'] :: Ls, fun w hw => ?_⟩
      rw [List.map_cons, ← hLs w hw]
      rfl
    · refine ⟨match Ls with | [] => [[s]] | L :: rest => (s :: L) :: rest, fun w hw => ?_⟩
      have hfeed : '\n' ∉ s.chars w := by
        cases s with
        | char c => simpa [Sign.chars, eq_comm] using hs
        | amount =>
          intro h
          have := hw.solid '\n' h
          revert this
          decide +kernel
      rw [written_cons, rawLines_append (hw.chars_ne_nil s) hfeed, hLs w hw]
      cases Ls <;> simp

theorem joinWith_written (Ls : List (List Sign)) :
    ∃ Y, ∀ w, StandsIn w → Text.joinWith [' '] (Ls.map (written w)) = written w Y := by
  induction Ls with
  | nil => exact ⟨[], fun _ _ => rfl⟩
  | cons X Ls ih =>
    obtain ⟨Y, hY⟩ := ih
    cases Ls with
    | nil => exact ⟨X, fun _ _ => rfl⟩
    | cons X' Ls =>
      refine ⟨X ++ .char ' ' :: Y, fun w hw => ?_⟩
      have hY := hY w hw
      rw [List.map_cons] at hY
      rw [List.map_cons, List.map_cons, Text.joinWith, hY, written_append]
      simp [Sign.chars]

/-- Folding a formula acts on signs. -/
theorem actsOnSigns_foldMath : ActsOnSigns foldMath := by
  intro X
  obtain ⟨Ls, hLs⟩ := rawLines_written X
  obtain ⟨Ms, hMs⟩ := (ActsOnSigns.comp actsOnSigns_trim actsOnSigns_dropLineEnd).map Ls
  obtain ⟨Y, hY⟩ := joinWith_written (Ms.filter (· ≠ []))
  refine ⟨Y, fun w hw => ?_⟩
  rw [foldMath, Text.lines, hLs w hw, List.map_map, hMs w hw, List.filter_map, ← hY w hw]
  congr 2
  exact List.filter_congr fun M _ => by simp [hw.written_eq_nil_iff]

/-! ### Pairs of dollar signs -/

/-- The signs up to the first pair of dollar signs, and those behind the pair. -/
def splitPair : List Sign → Option (List Sign × List Sign)
  | .char '$' :: .char '$' :: rest => some ([], rest)
  | s :: rest => (splitPair rest).map fun r => (s :: r.1, r.2)
  | [] => none

/-- The signs of the body of the display formula that opens a text, and those behind the formula. -/
def formula? : List Sign → Option (List Sign × List Sign)
  | .char '$' :: .char '$' :: s :: rest => (splitPair rest).map fun r => (s :: r.1, r.2)
  | _ => none

/-- Two parts, each as it is written. -/
def writtenPair (w : List Char) (r : List Sign × List Sign) : List Char × List Char :=
  (written w r.1, written w r.2)

theorem splitPair_eq {body rest : List Sign} (h : splitPair X = some (body, rest)) :
    X = body ++ .char '$' :: .char '$' :: rest := by
  fun_induction splitPair X generalizing body rest with
  | case1 rest' =>
    cases h
    rfl
  | case2 s X _ ih =>
    obtain ⟨r, hr, he⟩ := Option.map_eq_some_iff.mp h
    cases he
    rw [List.cons_append, ← ih hr]
  | case3 => cases h

theorem formula?_eq {body rest : List Sign} (h : formula? X = some (body, rest)) :
    X = .char '$' :: .char '$' :: (body ++ .char '$' :: .char '$' :: rest) := by
  unfold formula? at h
  split at h
  · obtain ⟨r, hr, he⟩ := Option.map_eq_some_iff.mp h
    cases he
    rw [List.cons_append, ← splitPair_eq hr]
  · cases h

theorem Isolated.of_append {Y : List Sign} (h : Isolated (X ++ Y)) : Isolated Y := by
  induction X with
  | nil => exact h
  | cons s X ih => exact ih h.2

/-- A text that begins no pair goes before the first pair. -/
theorem untilDollars_append {cs : List Char} (h : '$' ∉ w ∨ w = ['$'] ∧ cs.head? ≠ some '$') :
    untilDollars (w ++ cs) = (untilDollars cs).map fun r => (w ++ r.1, r.2) := by
  have hcons : ∀ (c : Char) (cs : List Char), (c = '$' → cs.head? ≠ some '$') →
      untilDollars (c :: cs) = (untilDollars cs).map fun r => (c :: r.1, r.2) := by
    intro c cs hc
    rw [untilDollars]
    rintro rest rfl rfl
    exact hc rfl rfl
  obtain hw | ⟨rfl, hhead⟩ := h
  · induction w with
    | nil => simp
    | cons c w ih =>
      obtain ⟨hc, hw⟩ : '$' ≠ c ∧ '$' ∉ w := by simpa using hw
      rw [List.cons_append, hcons c _ fun e => absurd e.symm hc, ih hw, Option.map_map]
      rfl
  · exact hcons '$' cs fun _ => hhead

/-- Where a sign begins no pair of signs, what is written for it begins no pair of characters. -/
theorem StandsIn.begins_no_pair (hw : StandsIn w) (hX : Isolated (s :: X))
    (hs : s = .char '$' → X.head? ≠ some (.char '$')) :
    '$' ∉ s.chars w ∨ s.chars w = ['$'] ∧ (written w X).head? ≠ some '$' := by
  by_cases hdollar : s.plain = '$'
  · -- the next sign is no dollar sign, so it is the character that is written for it
    have hnext : (written w X).head? ≠ some '$' := by
      cases X with
      | nil => simp
      | cons t X =>
        have hlone := hX.1 t rfl hdollar
        have ht : t.plain ≠ '$' := by
          intro ht
          obtain ⟨hs', ht'⟩ := hlone ht
          cases s with
          | amount => exact hs' rfl
          | char c =>
            cases t with
            | amount => exact ht' rfl
            | char d =>
              obtain rfl : c = '$' := hdollar
              obtain rfl : d = '$' := ht
              exact hs rfl rfl
        cases t with
        | amount => exact absurd rfl ht
        | char d => simpa [Sign.chars, Sign.plain] using ht
    cases s with
    | char c =>
      obtain rfl : c = '$' := hdollar
      exact .inr ⟨rfl, hnext⟩
    | amount => exact hw.dollar.symm.imp id fun h => ⟨h, hnext⟩
  · left
    cases s with
    | char c => simpa [Sign.chars, Sign.plain, eq_comm] using hdollar
    | amount => exact absurd rfl hdollar

/-- The first pair of dollar signs is found among the signs. -/
theorem untilDollars_written (hw : StandsIn w) (hX : Isolated X) :
    untilDollars (written w X) = (splitPair X).map (writtenPair w) := by
  fun_induction splitPair X with
  | case1 rest => rfl
  | case2 s X hpair ih =>
    have hs : s = .char '$' → X.head? ≠ some (.char '$') := by
      rintro rfl hhead
      obtain ⟨rest, rfl⟩ := List.head?_eq_some_iff.mp hhead
      exact hpair rest rfl rfl
    rw [written_cons, untilDollars_append (hw.begins_no_pair hX hs), ih hX.2, Option.map_map,
      Option.map_map]
    rfl
  | case3 => rfl

theorem displayMath?_eq_none {cs : List Char} (h : ∀ rest, cs ≠ '$' :: '$' :: rest) :
    displayMath? cs = none := by
  unfold displayMath?
  split
  · exact absurd rfl (h _)
  · rfl

theorem displayMath?_append_eq_none {cs : List Char} (hne : w ≠ [])
    (h : '$' ∉ w ∨ w = ['$'] ∧ cs.head? ≠ some '$') : displayMath? (w ++ cs) = none := by
  refine displayMath?_eq_none fun rest e => ?_
  obtain hw | ⟨rfl, hhead⟩ := h
  · obtain ⟨c, w', rfl⟩ := List.exists_cons_of_ne_nil hne
    exact hw (List.mem_cons.mpr (.inl (List.cons.inj e).1.symm))
  · obtain rfl : cs = '$' :: rest := (List.cons.inj e).2
    exact hhead rfl

/-- The formula that opens a text is found among the signs. -/
theorem displayMath?_written (hw : StandsIn w) (hX : Isolated X) :
    displayMath? (written w X) = (formula? X).map (writtenPair w) := by
  unfold formula?
  split
  · rename_i s rest
    have hs : s ≠ .amount := by
      rintro rfl
      exact (hX.2.1 .amount rfl rfl rfl).2 rfl
    cases s with
    | amount => exact absurd rfl hs
    | char c =>
      have hrest := untilDollars_written hw hX.2.2.2
      change (untilDollars (written w rest)).map _ = _
      rw [hrest, Option.map_map, Option.map_map]
      rfl
  · rename_i hnone
    cases X with
    | nil => rfl
    | cons s X =>
      by_cases hpair : s = .char '$' ∧ X.head? = some (.char '$')
      · obtain ⟨rfl, hhead⟩ := hpair
        obtain ⟨rest, rfl⟩ := List.head?_eq_some_iff.mp hhead
        cases rest with
        | nil => rfl
        | cons t rest => exact absurd rfl (hnone t rest)
      · refine displayMath?_append_eq_none (hw.chars_ne_nil s) (hw.begins_no_pair hX fun hs h => ?_)
        exact hpair ⟨hs, h⟩

/-! ### Folding a text -/

theorem foldDisplayMath_of_some {cs body rest : List Char} (h : displayMath? cs = some (body, rest)) :
    foldDisplayMath cs = "$$".toList ++ foldMath body ++ "$$".toList ++ foldDisplayMath rest := by
  rw [foldDisplayMath]
  split
  · rename_i body' rest' h'
    rw [h] at h'
    cases h'
    rfl
  · rename_i h'
    rw [h] at h'
    cases h'

theorem foldDisplayMath_cons_of_none {c : Char} {cs : List Char} (h : displayMath? (c :: cs) = none) :
    foldDisplayMath (c :: cs) = c :: foldDisplayMath cs := by
  rw [foldDisplayMath]
  split
  · rename_i h'
    rw [h] at h'
    cases h'
  · rfl

/-- A text that begins no pair stays as it is. -/
theorem foldDisplayMath_append {cs : List Char} (h : '$' ∉ w ∨ w = ['$'] ∧ cs.head? ≠ some '$') :
    foldDisplayMath (w ++ cs) = w ++ foldDisplayMath cs := by
  obtain hw | ⟨rfl, hhead⟩ := h
  · induction w with
    | nil => rfl
    | cons c w ih =>
      have hnone : displayMath? (c :: (w ++ cs)) = none :=
        displayMath?_append_eq_none (w := c :: w) (by simp) (.inl hw)
      rw [List.cons_append, foldDisplayMath_cons_of_none hnone,
        ih fun h => hw (List.mem_cons_of_mem c h)]
      rfl
  · exact foldDisplayMath_cons_of_none
      (displayMath?_append_eq_none (w := ['$']) (by simp) (.inr ⟨rfl, hhead⟩))

/-- Folding a text acts on signs: masking currency changes no formula. -/
theorem foldDisplayMath_written (X : List Sign) (hX : Isolated X) :
    ∃ Y, ∀ w, StandsIn w → foldDisplayMath (written w X) = written w Y := by
  -- by induction on the number of signs: a formula is passed over as a whole
  induction hlen : X.length using Nat.strongRecOn generalizing X with
  | ind n ih =>
  subst hlen
  cases hformula : formula? X with
  | some r =>
    obtain ⟨body, rest⟩ := r
    have hsplit := formula?_eq hformula
    obtain ⟨Z, hZ⟩ := actsOnSigns_foldMath body
    obtain ⟨Y, hY⟩ := ih rest.length (by simp [hsplit]; omega) rest (by
      rw [hsplit] at hX
      exact (Isolated.of_append hX.2.2).2.2) rfl
    refine ⟨.char '$' :: .char '$' :: (Z ++ .char '$' :: .char '$' :: Y), fun w hw => ?_⟩
    have hopens := displayMath?_written hw hX
    rw [hformula] at hopens
    rw [foldDisplayMath_of_some hopens]
    simp [hZ w hw, hY w hw, Sign.chars]
  | none =>
    cases X with
    | nil => exact ⟨[], fun _ _ => by rw [written_nil, foldDisplayMath]; rfl⟩
    | cons s X =>
      obtain ⟨Y, hY⟩ := ih X.length (by simp) X hX.2 rfl
      refine ⟨s :: Y, fun w hw => ?_⟩
      rw [written_cons, written_cons, ← hY w hw]
      cases s with
      | char c =>
        have hopens := displayMath?_written hw hX
        rw [hformula] at hopens
        exact foldDisplayMath_cons_of_none hopens
      | amount => exact foldDisplayMath_append (hw.begins_no_pair hX nofun)

end Folio.Markup
