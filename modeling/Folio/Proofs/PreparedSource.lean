import Folio.Proofs.AmountSigns
import Folio.Proofs.RestoredCurrency
import Folio.Proofs.TrimmedText

/-! # Preparing a source and restoring it

Masking currency and folding formulas act on the signs of a text, so restoring the dollar signs of a
prepared source gives the source with its formulas folded, if that holds no placeholder
(`restoreCurrency_written`).  It holds none if the source holds none: folding joins no two words, whatever
stands around the folded text (`Keeps.foldDisplayMath`).  A source is the same text as its chunks
(`flatMap_text_fencedChunks`), and with this the round trip is told (`restoreDollars_prepareSource`). -/

namespace Folio.Text

variable {pat new : List Char}

theorem replaceFrom_skip (passed cs : List Char) :
    replaceFrom pat new passed.length (passed ++ cs) = replaceFrom pat new 0 cs := by
  induction passed with
  | nil => rfl
  | cons c passed ih => exact ih

/-- An occurrence at the start is replaced. -/
theorem replaceAll_append (hpat : pat ≠ []) (cs : List Char) :
    replaceAll pat new (pat ++ cs) = new ++ replaceAll pat new cs := by
  obtain ⟨c, rest, rfl⟩ := List.exists_cons_of_ne_nil hpat
  have hstart : (c :: rest).isPrefixOf (c :: (rest ++ cs)) = true :=
    List.isPrefixOf_iff_prefix.mpr (List.prefix_append (c :: rest) cs)
  rw [replaceAll, List.cons_append, replaceFrom, if_pos hstart]
  exact congrArg (new ++ ·) (replaceFrom_skip rest cs)

theorem replaceAll_cons_of_not_prefix {c : Char} {cs : List Char} (h : ¬ pat <+: c :: cs) :
    replaceAll pat new (c :: cs) = c :: replaceAll pat new cs := by
  rw [replaceAll, replaceFrom, if_neg fun hp => h (List.isPrefixOf_iff_prefix.mp hp)]
  rfl

/-! ### Parts of texts -/

variable {cs : List Char}

theorem flatten_rawLines (cs : List Char) : (rawLines cs).flatten = cs := by
  induction cs with
  | nil => rfl
  | cons c cs ih =>
    rw [rawLines]
    split
    · rw [List.flatten_cons, ih]
      rfl
    · split
      · rename_i h
        rw [h] at ih
        rw [← ih]
        rfl
      · rename_i line rest h
        rw [h] at ih
        rw [← ih]
        rfl

theorem trim_isInfix (cs : List Char) : trim cs <:+: cs := trimMatches_isInfix Unicode.isBlank cs

theorem prefix_dropLineEnd (cs : List Char) : dropLineEnd cs <+: cs := by
  rw [← List.reverse_suffix]
  unfold dropLineEnd
  split
  · rename_i rest h
    rw [h, List.reverse_reverse]
    exact ⟨['\n', '\r'], rfl⟩
  · rename_i rest _ h
    rw [h, List.reverse_reverse]
    exact ⟨['\n'], rfl⟩
  · exact List.suffix_rfl

/-- A line of a text is part of it. -/
theorem infix_of_mem_lines {line : List Char} (h : line ∈ lines cs) : line <:+: cs := by
  obtain ⟨raw, hraw, rfl⟩ := List.mem_map.mp h
  have hinside : raw <:+: cs := by
    rw [← flatten_rawLines cs]
    exact List.infix_of_mem_flatten hraw
  exact (prefix_dropLineEnd raw).isInfix.trans hinside

variable {p : List Char} {c : Char}

theorem prefix_of_prefix_append_cons (hc : c ∉ p) {as bs : List Char} (h : p <+: as ++ c :: bs) :
    p <+: as := by
  induction as generalizing p with
  | nil =>
    obtain rfl | ⟨rest, rfl, -⟩ := List.prefix_cons_iff.mp h
    · exact List.nil_prefix
    · exact absurd List.mem_cons_self hc
  | cons a as ih =>
    obtain rfl | ⟨rest, rfl, hrest⟩ := List.prefix_cons_iff.mp h
    · exact List.nil_prefix
    · exact List.cons_prefix_cons.mpr ⟨rfl, ih (fun hmem => hc (List.mem_cons_of_mem a hmem)) hrest⟩

/-- A text without a character lies before an occurrence of the character, or behind it. -/
theorem infix_append_cons (hc : c ∉ p) {as bs : List Char} (h : p <:+: as ++ c :: bs) :
    p <:+: as ∨ p <:+: bs := by
  induction as with
  | nil =>
    obtain hstart | hrest := List.infix_cons_iff.mp h
    · have hfirst : p <+: [] := prefix_of_prefix_append_cons hc hstart
      exact .inl hfirst.isInfix
    · exact .inr hrest
  | cons a as ih =>
    obtain hstart | hrest := List.infix_cons_iff.mp h
    · have hfirst : p <+: a :: as := prefix_of_prefix_append_cons hc hstart
      exact .inl hfirst.isInfix
    · exact (ih hrest).imp_left fun h => List.infix_cons h

/-- A word in joined texts is a word in one of them. -/
theorem infix_of_infix_joinWith (hp : p ≠ []) (hc : c ∉ p) {ls : List (List Char)}
    (h : p <:+: joinWith [c] ls) : ∃ l ∈ ls, p <:+: l := by
  induction ls with
  | nil => exact absurd (List.infix_nil.mp h) hp
  | cons l ls ih =>
    cases ls with
    | nil => exact ⟨l, List.mem_cons_self, h⟩
    | cons l' ls =>
      rw [joinWith, List.append_assoc, List.singleton_append] at h
      obtain h | h := infix_append_cons hc h
      · exact ⟨l, List.mem_cons_self, h⟩
      · obtain ⟨k, hk, h⟩ := ih h
        exact ⟨k, List.mem_cons_of_mem l hk, h⟩

end Folio.Text

namespace Folio.Markup

open Folio.Unicode

/-! ### Restoring amounts -/

/-- A text without the first character of what is written for amounts begins no amount. -/
theorem prefix_of_prefix_written {a : Char} {w : List Char} {p : List Char} (ha : a ∉ p) :
    ∀ {X : List Sign}, p <+: written (a :: w) X → p <+: written ['$'] X := by
  induction p with
  | nil => exact fun _ => List.nil_prefix
  | cons c p ih =>
    intro X h
    cases X with
    | nil => exact h
    | cons s X =>
      cases s with
      | char d =>
        obtain ⟨hd, hrest⟩ := List.cons_prefix_cons.mp h
        exact List.cons_prefix_cons.mpr ⟨hd, ih (fun hmem => ha (List.mem_cons_of_mem c hmem)) hrest⟩
      | amount =>
        obtain ⟨hd, -⟩ := List.cons_prefix_cons.mp h
        exact absurd (hd ▸ List.mem_cons_self) ha

/-- Restoring gives amounts their dollar signs back if the text holds no placeholder of its own: the
first letter of the placeholder does not come twice in it, so no other text runs into one. -/
theorem restoreCurrency_written {X : List Sign}
    (h : ¬ currencyPlaceholder.toList <:+: written ['$'] X) :
    restoreCurrency (written currencyPlaceholder.toList X) = written ['$'] X := by
  induction X with
  | nil => rfl
  | cons s X ih =>
    have hX : ¬ currencyPlaceholder.toList <:+: written ['$'] X := fun hin =>
      h (hin.trans (List.suffix_append _ _).isInfix)
    rw [restoreCurrency] at ih ⊢
    cases s with
    | amount => exact (Text.replaceAll_append (by decide) _).trans (congrArg ('$' :: ·) (ih hX))
    | char c =>
      refine (Text.replaceAll_cons_of_not_prefix fun hstart => h ?_).trans (congrArg (c :: ·) (ih hX))
      obtain ⟨first, rest, hsplit, hfirst⟩ :
          ∃ first rest, currencyPlaceholder.toList = first :: rest ∧ first ∉ rest :=
        ⟨'V', "PCURRENCYDOLLAR".toList, by decide, by decide⟩
      rw [hsplit] at hstart ⊢
      obtain ⟨hc, hrest⟩ := List.cons_prefix_cons.mp hstart
      exact (List.cons_prefix_cons.mpr ⟨hc, prefix_of_prefix_written hfirst hrest⟩).isInfix

/-! ### Words -/

/-- A text without blanks and dollar signs. -/
def IsSolid (p : List Char) : Prop := ∀ c ∈ p, c ≠ '$' ∧ isBlank c = false

/-- Every solid text that starts one text, or stands in it, does so in another. -/
structure Keeps (out src : List Char) : Prop where
  start : ∀ p, IsSolid p → p <+: out → p <+: src
  inside : ∀ p, IsSolid p → p <:+: out → p <:+: src

variable {out src : List Char}

theorem Keeps.refl (cs : List Char) : Keeps cs cs := ⟨fun _ _ h => h, fun _ _ h => h⟩

theorem Keeps.trans {mid : List Char} (h : Keeps out mid) (h' : Keeps mid src) : Keeps out src where
  start p hp hout := h'.start p hp (h.start p hp hout)
  inside p hp hout := h'.inside p hp (h.inside p hp hout)

theorem Keeps.cons (h : Keeps out src) (c : Char) : Keeps (c :: out) (c :: src) := by
  have hstart : ∀ p, IsSolid p → p <+: c :: out → p <+: c :: src := by
    intro p hp hout
    obtain rfl | ⟨rest, rfl, hrest⟩ := List.prefix_cons_iff.mp hout
    · exact List.nil_prefix
    · exact List.cons_prefix_cons.mpr
        ⟨rfl, h.start rest (fun d hd => hp d (List.mem_cons_of_mem c hd)) hrest⟩
  refine ⟨hstart, fun p hp hout => ?_⟩
  obtain hout | hout := List.infix_cons_iff.mp hout
  · exact (hstart p hp hout).isInfix
  · exact List.infix_cons (h.inside p hp hout)

theorem Keeps.append (h : Keeps out src) (cs : List Char) : Keeps (cs ++ out) (cs ++ src) := by
  induction cs with
  | nil => exact h
  | cons c cs ih => exact ih.cons c

/-- Behind a dollar sign it does not matter how the texts start. -/
theorem Keeps.of_inside (h : ∀ p, IsSolid p → p ≠ [] → p <:+: out → p <:+: src) :
    Keeps ('$' :: out) ('$' :: src) := by
  have hnil : ∀ p, IsSolid p → p <+: '$' :: out → p = [] := by
    intro p hp hout
    obtain hnil | ⟨rest, rfl, -⟩ := List.prefix_cons_iff.mp hout
    · exact hnil
    · exact absurd rfl (hp '$' List.mem_cons_self).1
  constructor
  · intro p hp hout
    rw [hnil p hp hout]
    exact List.nil_prefix
  · intro p hp hout
    by_cases hne : p = []
    · rw [hne]
      exact List.nil_infix
    · obtain hout | hout := List.infix_cons_iff.mp hout
      · exact absurd (hnil p hp hout) hne
      · exact List.infix_cons (h p hp hne hout)

theorem infix_of_infix_foldMath {p body : List Char} (hp : IsSolid p) (hne : p ≠ [])
    (h : p <:+: foldMath body) : p <:+: body := by
  have hspace : ' ' ∉ p := by
    intro hmem
    have := (hp ' ' hmem).2
    revert this
    decide +kernel
  obtain ⟨line, hline, h⟩ := Text.infix_of_infix_joinWith hne hspace h
  obtain ⟨raw, hraw, rfl⟩ := List.mem_map.mp (List.mem_of_mem_filter hline)
  exact h.trans ((Text.trim_isInfix raw).trans (Text.infix_of_mem_lines hraw))

theorem untilDollars_eq {cs body rest : List Char} (h : untilDollars cs = some (body, rest)) :
    cs = body ++ '$' :: '$' :: rest := by
  fun_induction untilDollars cs generalizing body rest with
  | case1 =>
    cases h
    rfl
  | case2 c cs _ ih =>
    obtain ⟨r, hr, he⟩ := Option.map_eq_some_iff.mp h
    cases he
    rw [List.cons_append, ← ih hr]
  | case3 => cases h

theorem displayMath?_eq {cs body rest : List Char} (h : displayMath? cs = some (body, rest)) :
    body ≠ [] ∧ cs = '$' :: '$' :: (body ++ '$' :: '$' :: rest) := by
  unfold displayMath? at h
  split at h
  · obtain ⟨r, hr, he⟩ := Option.map_eq_some_iff.mp h
    cases he
    exact ⟨List.cons_ne_nil _ _, by rw [List.cons_append, ← untilDollars_eq hr]⟩
  · cases h

/-- Folding a text keeps its words, whatever stands behind it. -/
theorem Keeps.foldDisplayMath (cs tail : List Char) :
    Keeps (foldDisplayMath cs ++ tail) (cs ++ tail) := by
  fun_induction Markup.foldDisplayMath cs with
  | case1 cs body rest hopens ih =>
    obtain ⟨-, rfl⟩ := displayMath?_eq hopens
    -- the pair that opens the formula separates it from what is before it, the other one from the rest
    have hinside : Keeps ('$' :: (foldMath body ++ '$' :: '$' :: (Markup.foldDisplayMath rest ++ tail)))
        ('$' :: (body ++ '$' :: '$' :: (rest ++ tail))) := by
      refine Keeps.of_inside fun p hp hne hout => ?_
      have hdollar : '$' ∉ p := fun h => (hp '$' h).1 rfl
      obtain hout | hout := Text.infix_append_cons hdollar hout
      · exact (infix_of_infix_foldMath hp hne hout).trans (List.prefix_append _ _).isInfix
      · exact (((ih.cons '$').inside p hp hout).trans (List.suffix_cons _ _).isInfix).trans
          (List.suffix_append _ _).isInfix
    simpa using hinside.cons '$'
  | case2 hopens => exact Keeps.refl _
  | case3 c rest hopens ih => exact ih.cons c

/-! ### Chunks -/

theorem flatMap_text_consLine (fenced : Bool) (line : List Char) (chunks : List Chunk) :
    (consLine fenced line chunks).flatMap Chunk.text = line ++ chunks.flatMap Chunk.text := by
  cases chunks with
  | nil => rfl
  | cons chunk rest =>
    rw [consLine]
    split <;> simp

theorem flatMap_text_chunksFrom (opened : Option FenceMark) (lines : List (List Char)) :
    (chunksFrom opened lines).flatMap Chunk.text = lines.flatten := by
  induction lines generalizing opened with
  | nil => rfl
  | cons line lines ih => rw [chunksFrom, flatMap_text_consLine, ih, List.flatten_cons]

/-- The chunks of a source make it up. -/
theorem flatMap_text_fencedChunks (cs : List Char) : (fencedChunks cs).flatMap Chunk.text = cs := by
  rw [fencedChunks, flatMap_text_chunksFrom, Text.flatten_rawLines]

/-- A chunk with its formulas folded; fenced code stays as it is. -/
def Chunk.folded (chunk : Chunk) : List Char :=
  if chunk.fenced then chunk.text else foldDisplayMath chunk.text

/-- Preparing a chunk acts on signs. -/
theorem Chunk.prepared_eq (chunk : Chunk) :
    ∃ Y, chunk.prepared = written currencyPlaceholder.toList Y ∧ chunk.folded = written ['$'] Y := by
  unfold Chunk.prepared Chunk.folded
  cases chunk.fenced with
  | true => exact ⟨chunk.text.map .char, (written_map_char _ _).symm, (written_map_char _ _).symm⟩
  | false =>
    obtain ⟨hplain, hmasked⟩ := written_signs chunk.text
    obtain ⟨Y, hY⟩ := foldDisplayMath_written (signs chunk.text) (isolated_signs chunk.text)
    refine ⟨Y, ?_, ?_⟩
    · rw [← hY _ standsIn_placeholder, hmasked]
      rfl
    · rw [← hY _ standsIn_dollar, hplain]
      rfl

theorem prepared_chunks_eq (chunks : List Chunk) :
    ∃ Y, chunks.flatMap Chunk.prepared = written currencyPlaceholder.toList Y ∧
      chunks.flatMap Chunk.folded = written ['$'] Y := by
  induction chunks with
  | nil => exact ⟨[], rfl, rfl⟩
  | cons chunk chunks ih =>
    obtain ⟨X, hX, hX'⟩ := chunk.prepared_eq
    obtain ⟨Y, hY, hY'⟩ := ih
    refine ⟨X ++ Y, ?_, ?_⟩
    · rw [List.flatMap_cons, hX, hY, written_append]
    · rw [List.flatMap_cons, hX', hY', written_append]

theorem Keeps.folded_chunks (chunks : List Chunk) :
    Keeps (chunks.flatMap Chunk.folded) (chunks.flatMap Chunk.text) := by
  induction chunks with
  | nil => exact Keeps.refl []
  | cons chunk chunks ih =>
    rw [List.flatMap_cons, List.flatMap_cons]
    refine Keeps.trans ?_ (ih.append chunk.text)
    unfold Chunk.folded
    split
    · exact Keeps.refl _
    · exact Keeps.foldDisplayMath chunk.text _

theorem isSolid_placeholder : IsSolid currencyPlaceholder.toList := by
  have hall : currencyPlaceholder.toList.all (fun c => c != '$' && !isBlank c) = true := by decide +kernel
  intro c hc
  simpa using List.all_eq_true.mp hall c hc

/-! ### The round trip -/

/-- Whether a text has a display formula: a pair of dollar signs, something, and another pair. -/
def HasFormula (cs : List Char) : Prop :=
  ∃ before body after, body ≠ [] ∧ cs = before ++ "$$".toList ++ body ++ "$$".toList ++ after

theorem foldDisplayMath_eq_self {cs : List Char} (h : ¬ HasFormula cs) : foldDisplayMath cs = cs := by
  fun_induction foldDisplayMath cs with
  | case1 cs body rest hopens ih =>
    obtain ⟨hne, hcs⟩ := displayMath?_eq hopens
    exact absurd ⟨[], body, rest, hne, by simpa using hcs⟩ h
  | case2 hopens => rfl
  | case3 c rest hopens ih =>
    refine congrArg (c :: ·) (ih fun ⟨before, body, after, hne, he⟩ => h ?_)
    exact ⟨c :: before, body, after, hne, by rw [he]; rfl⟩

/-- Restoring the prepared source gives the source with its formulas folded. -/
theorem restoreCurrency_prepareChars {source : List Char}
    (h : ¬ currencyPlaceholder.toList <:+: source) :
    restoreCurrency (prepareChars source) = (fencedChunks source).flatMap Chunk.folded := by
  obtain ⟨Y, hprepared, hfolded⟩ := prepared_chunks_eq (fencedChunks source)
  rw [prepareChars, hprepared, hfolded]
  refine restoreCurrency_written fun hin => h ?_
  have hkept := (Keeps.folded_chunks (fencedChunks source)).inside _ isSolid_placeholder
  rw [hfolded, flatMap_text_fencedChunks] at hkept
  exact hkept hin

/-! ### Dollar signs that masking leaves -/

theorem maskCurrencyFrom_cons_of_amount {before : Option Char} {c : Char} {cs : List Char}
    (h : IsAmount before c cs) :
    maskCurrencyFrom before (c :: cs) = currencyPlaceholder.toList ++ maskCurrencyFrom (some c) cs := by
  rw [maskCurrencyFrom, if_pos (by simpa [IsAmount, and_assoc] using h)]

theorem maskCurrencyFrom_cons_of_not_amount {before : Option Char} {c : Char} {cs : List Char}
    (h : ¬ IsAmount before c cs) :
    maskCurrencyFrom before (c :: cs) = c :: maskCurrencyFrom (some c) cs := by
  rw [maskCurrencyFrom, if_neg (by simpa [IsAmount, and_assoc] using h), List.singleton_append]

/-- A masked text starts with a digit or a dollar sign only if the text itself does. -/
theorem head?_of_head?_maskCurrencyFrom {before : Option Char} {cs : List Char} {d : Char}
    (hd : d ≠ 'V') (h : (maskCurrencyFrom before cs).head? = some d) : cs.head? = some d := by
  cases cs with
  | nil => exact h
  | cons c cs =>
    by_cases hc : IsAmount before c cs
    · rw [maskCurrencyFrom_cons_of_amount hc] at h
      exact absurd (Option.some.inj h).symm hd
    · rw [maskCurrencyFrom_cons_of_not_amount hc] at h
      exact h

/-- A dollar sign behind a placeholder lies in what follows it. -/
theorem exists_of_placeholder_append {cs front after : List Char}
    (h : currencyPlaceholder.toList ++ cs = front ++ '$' :: after) :
    ∃ rest, front = currencyPlaceholder.toList ++ rest ∧ cs = rest ++ '$' :: after := by
  obtain ⟨rest, hfront, hcs⟩ | ⟨rest, hword, hafter⟩ := List.append_eq_append_iff.mp h
  · exact ⟨rest, hfront, hcs⟩
  · cases rest with
    | nil => exact ⟨[], by simpa using hword.symm, hafter.symm⟩
    | cons c rest =>
      have hdollar : '$' ∉ currencyPlaceholder.toList := by decide
      rw [hword, (List.cons.inj hafter).1] at hdollar
      simp at hdollar

/-- A dollar sign before a digit that masking leaves has a backslash or a dollar sign before it. -/
theorem protected_of_maskCurrencyFrom {before : Option Char} {cs front after : List Char} {d : Char}
    (hd : d.isDigit = true) (h : maskCurrencyFrom before cs = front ++ '$' :: d :: after) :
    front.getLast?.or before = some '\\' ∨ front.getLast?.or before = some '$' := by
  have hdigit : d ≠ 'V' := by
    rintro rfl
    cases hd
  induction cs generalizing before front with
  | nil => simp [maskCurrencyFrom] at h
  | cons c cs ih =>
    by_cases hc : IsAmount before c cs
    · -- the dollar sign lies behind the placeholder, and the digit of the amount is between them
      rw [maskCurrencyFrom_cons_of_amount hc] at h
      obtain ⟨rest, rfl, hrest⟩ := exists_of_placeholder_append h
      have hne : rest ≠ [] := by
        rintro rfl
        have hhead : cs.head? = some '$' := by
          apply head?_of_head?_maskCurrencyFrom (by decide)
          rw [hrest]
          rfl
        simpa [hhead] using hc.2.2.2
      obtain ⟨init, last, rfl⟩ := rest.eq_nil_or_concat.resolve_left hne
      simpa using ih hrest
    · rw [maskCurrencyFrom_cons_of_not_amount hc] at h
      cases front with
      | nil =>
        obtain ⟨rfl, hrest⟩ := List.cons.inj h
        have hhead : cs.head? = some d := by
          apply head?_of_head?_maskCurrencyFrom hdigit
          rw [hrest]
          rfl
        by_cases hslash : before = some '\\'
        · exact .inl hslash
        · exact .inr (by simpa [IsAmount, hhead, hd, hslash] using hc)
      | cons c' front =>
        obtain ⟨rfl, hrest⟩ := List.cons.inj h
        have hprotected := ih hrest
        rw [Option.or_some] at hprotected
        rw [List.getLast?_cons, Option.some_or]
        exact hprotected

/-- **The round trip of a source**: a source is made up of its chunks, and if it holds no placeholder,
preparing and restoring it gives these chunks with the formulas folded outside of fenced code.  So a source
without formulas there comes back as it was.  In a text with masked currency, a dollar sign before a digit
has a backslash or a dollar sign before it. -/
theorem restoreDollars_prepareSource :
    (∀ source : String, ¬ HasPlaceholder source →
      (fencedChunks source.toList).flatMap Chunk.text = source.toList ∧
      (restoreDollars (prepareSource source)).toList =
        (fencedChunks source.toList).flatMap Chunk.folded ∧
      ((∀ chunk ∈ fencedChunks source.toList, chunk.fenced = false → ¬ HasFormula chunk.text) →
        restoreDollars (prepareSource source) = source)) ∧
    ∀ (cs front after : List Char) (d : Char), maskCurrency cs = front ++ '$' :: d :: after →
      d.isDigit = true → front.getLast? = some '\\' ∨ front.getLast? = some '$' := by
  refine ⟨fun source h => ?_, fun cs front after d h hd => ?_⟩
  · have hrestored : (restoreDollars (prepareSource source)).toList =
        (fencedChunks source.toList).flatMap Chunk.folded := by
      rw [restoreDollars, prepareSource, String.toList_ofList, String.toList_ofList]
      exact restoreCurrency_prepareChars h
    refine ⟨flatMap_text_fencedChunks _, hrestored, fun plain => ?_⟩
    have hfolded : ∀ chunk ∈ fencedChunks source.toList, chunk.folded = chunk.text := by
      intro chunk hchunk
      unfold Chunk.folded
      split
      · rfl
      · rename_i hfenced
        exact foldDisplayMath_eq_self (plain chunk hchunk (by simpa using hfenced))
    rw [← String.toList_inj, hrestored, List.flatMap_congr hfolded, flatMap_text_fencedChunks]
  · simpa using protected_of_maskCurrencyFrom hd h

/-- An amount, fenced code with a dollar sign and a formula over two lines. -/
def pricedSource : String := "Pay $5\n```sh\necho $1\n```\n$$\na\n= $2\n$$\n"

/-- A protected amount and one that is masked. -/
def plainSource : String := "A\\$5 for $6\n"

theorem not_hasFormula_plainSource : ¬ HasFormula plainSource.toList := by
  rintro ⟨before, body, after, -, he⟩
  have hcount := congrArg (List.count '$') he
  have htwo : plainSource.toList.count '$' = 2 := by decide
  simp only [htwo, List.count_append] at hcount
  have hpair : "$$".toList.count '$' = 2 := by decide
  omega

/-- Of the first source only the formula is folded, and the dollar sign inside it is restored as well; the
second source comes back as it was, and the dollar sign that masking leaves in it is protected. -/
theorem restoreDollars_prepareSource_priced :
    ¬ HasPlaceholder pricedSource ∧
      (restoreDollars (prepareSource pricedSource)).toList =
        "Pay $5\n```sh\necho $1\n```\n$$a = $2$$\n".toList ∧
    ¬ HasPlaceholder plainSource ∧ restoreDollars (prepareSource plainSource) = plainSource ∧
    maskCurrency plainSource.toList =
      "A\\".toList ++ '$' :: '5' :: " for VPCURRENCYDOLLAR6\n".toList ∧ '5'.isDigit = true ∧
      ("A\\".toList.getLast? = some '\\' ∨ "A\\".toList.getLast? = some '$') := by
  obtain ⟨hround, hprotected⟩ := restoreDollars_prepareSource
  have hpriced : ¬ HasPlaceholder pricedSource := by decide +kernel
  have hplain : ¬ HasPlaceholder plainSource := by decide +kernel
  have hchunks : fencedChunks plainSource.toList = [⟨false, plainSource.toList⟩] := by decide +kernel
  have hmasked : maskCurrency plainSource.toList =
      "A\\".toList ++ '$' :: '5' :: " for VPCURRENCYDOLLAR6\n".toList := by decide +kernel
  refine ⟨hpriced, ?_, hplain, (hround plainSource hplain).2.2 fun chunk hchunk _ => ?_, hmasked, by decide,
    hprotected _ _ _ _ hmasked (by decide)⟩
  · rw [(hround pricedSource hpriced).2.1]
    decide +kernel
  · rw [hchunks, List.mem_singleton] at hchunk
    rw [hchunk]
    exact not_hasFormula_plainSource

end Folio.Markup
