import Folio.Text.Basic

/-! # Currency and display math in the source

An amount such as `$5` would open a math span, so before the markdown is read its dollar sign gives
way to a placeholder (`maskCurrency`), which the finished HTML turns back (`restoreDollars`).  A
display formula over several lines is folded onto one (`foldDisplayMath`).  Both leave fenced
code alone: `fencedChunks` tells it apart from the rest. -/

namespace Folio.Markup

/-- Stands for a dollar sign in front of a digit. -/
def currencyPlaceholder : String := "VPCURRENCYDOLLAR"

/-! ### Currency -/

/-- Replaces the dollar signs of amounts after the character `before`; a backslash or another dollar
sign protects the sign. -/
def maskCurrencyFrom (before : Option Char) : List Char → List Char
  | [] => []
  | c :: cs =>
    (if c = '$' && before ≠ some '\\' && before ≠ some '$' && cs.head?.any Char.isDigit then
      currencyPlaceholder.toList
    else [c]) ++ maskCurrencyFrom (some c) cs

/-- Replaces the dollar signs of amounts. -/
def maskCurrency (cs : List Char) : List Char := maskCurrencyFrom none cs

/-- Turns placeholders back into dollar signs, on characters. -/
def restoreCurrency (cs : List Char) : List Char :=
  Text.replaceAll currencyPlaceholder.toList ['$'] cs

/-- Turns placeholders back into dollar signs. -/
def restoreDollars (s : String) : String := String.ofList (restoreCurrency s.toList)

/-! ### Display math -/

/-- The text up to the first pair of dollar signs, and what follows the pair. -/
def untilDollars : List Char → Option (List Char × List Char)
  | '$' :: '$' :: rest => some ([], rest)
  | c :: rest => (untilDollars rest).map fun r => (c :: r.1, r.2)
  | [] => none

/-- The body of the display formula that opens a text, which has at least one character, and what
follows the formula. -/
def displayMath? : List Char → Option (List Char × List Char)
  | '$' :: '$' :: c :: rest => (untilDollars rest).map fun r => (c :: r.1, r.2)
  | _ => none

/-- The lines of a formula in one: trimmed, without the blank ones, a space between them. -/
def foldMath (body : List Char) : List Char :=
  Text.joinWith [' '] (((Text.lines body).map Text.trim).filter (· ≠ []))

theorem untilDollars_length {cs body rest : List Char} (h : untilDollars cs = some (body, rest)) :
    rest.length < cs.length := by
  fun_induction untilDollars cs generalizing body rest with
  | case1 =>
    cases h
    simp only [List.length_cons]
    omega
  | case2 c cs _ ih =>
    obtain ⟨r, hr, he⟩ := Option.map_eq_some_iff.1 h
    have : r.2.length < _ := ih hr
    cases he; simp; omega
  | case3 => simp at h

theorem displayMath?_length {cs body rest : List Char} (h : displayMath? cs = some (body, rest)) :
    rest.length < cs.length := by
  unfold displayMath? at h
  split at h
  · obtain ⟨r, hr, he⟩ := Option.map_eq_some_iff.1 h
    have : r.2.length < _ := untilDollars_length hr
    cases he; simp; omega
  · simp at h

/-- Folds every display formula onto one line. -/
def foldDisplayMath (cs : List Char) : List Char :=
  match _h : displayMath? cs with
  | some (body, rest) => "$$".toList ++ foldMath body ++ "$$".toList ++ foldDisplayMath rest
  | none =>
    match cs with
    | [] => []
    | c :: rest => c :: foldDisplayMath rest
  termination_by cs.length
  decreasing_by
    · exact displayMath?_length _h
    · simp

/-! ### Fenced code -/

/-- A run of backquotes or tildes at the start of a line; it is bare if nothing but blanks
follows. -/
structure FenceMark where
  char : Char
  length : Nat
  bare : Bool
deriving DecidableEq, Repr

/-- The fence that a line starts with, behind three spaces at most. -/
def fenceMark? (line : List Char) : Option FenceMark :=
  let indent := (line.takeWhile (· = ' ')).length
  match line.dropWhile (· = ' ') with
  | [] => none
  | c :: rest =>
    let run := 1 + (rest.takeWhile (· = c)).length
    let tail := (rest.dropWhile (· = c)).takeWhile (· ≠ '\n')
    if indent ≤ 3 ∧ (c = '\x60' ∨ c = '~') ∧ 3 ≤ run then some ⟨c, run, Text.trim tail = []⟩
    else none

/-- A stretch of source, inside or outside fenced code. -/
structure Chunk where
  fenced : Bool
  text : List Char
deriving DecidableEq, Repr

/-- Whether a mark closes the open fence. -/
def FenceMark.closes (mark opened : FenceMark) : Bool :=
  mark.char == opened.char && opened.length ≤ mark.length && mark.bare

/-- Whether a line belongs to fenced code, and the fence that is open after it. -/
def fenceStep (opened : Option FenceMark) (line : List Char) : Bool × Option FenceMark :=
  match opened, fenceMark? line with
  | none, none => (false, none)
  | none, some mark => (true, some mark)
  | some o, some mark => (true, if mark.closes o then none else some o)
  | some o, none => (true, some o)

/-- A line in front of the chunks of what follows it. -/
def consLine (fenced : Bool) (line : List Char) : List Chunk → List Chunk
  | [] => [⟨fenced, line⟩]
  | chunk :: rest =>
    if chunk.fenced = fenced then ⟨fenced, line ++ chunk.text⟩ :: rest
    else ⟨fenced, line⟩ :: chunk :: rest

/-- The chunks of a list of lines, a fence being open or not. -/
def chunksFrom (opened : Option FenceMark) : List (List Char) → List Chunk
  | [] => []
  | line :: rest =>
    let (fenced, next) := fenceStep opened line
    consLine fenced line (chunksFrom next rest)

/-- A source in stretches, alternately outside and inside fenced code. -/
def fencedChunks (source : List Char) : List Chunk := chunksFrom none (Text.rawLines source)

/-- What becomes of a chunk before the markdown is read. -/
def Chunk.prepared (chunk : Chunk) : List Char :=
  if chunk.fenced then chunk.text else foldDisplayMath (maskCurrency chunk.text)

/-- Protects currency and folds display math outside fenced code, on characters. -/
def prepareChars (source : List Char) : List Char := (fencedChunks source).flatMap Chunk.prepared

/-- Protects currency and folds display math outside fenced code. -/
def prepareSource (source : String) : String := String.ofList (prepareChars source.toList)

end Folio.Markup
