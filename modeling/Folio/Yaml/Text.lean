import Folio.Text.Basic
import Folio.Yaml.Cursor

/-! # Scalars in a YAML text

The three ways to write a text: plain, between quotation marks, and as a block of lines.  Plain and
quoted texts may run over several lines; there the blanks around a line break vanish, a single break
becomes a blank, and of several breaks all but the first remain (`Spacing.text`). -/

namespace Folio.Yaml

/-! ### Blanks between words -/

/-- Blanks and line breaks between two words, as they are met. -/
structure Spacing where
  blanks : List Char := []
  first : List Char := []
  others : List Char := []
  broken : Bool := false
deriving DecidableEq, Repr

namespace Spacing

/-- What stands for the spacing in the text. -/
def text (s : Spacing) : List Char :=
  if !s.broken then s.blanks
  else if s.first = ['\n'] then (if s.others = [] then [' '] else s.others)
  else s.first ++ s.others

/-- Adds a blank; blanks after a line break vanish. -/
def addBlank (s : Spacing) (x : Char) : Spacing :=
  if s.broken then s else { s with blanks := s.blanks ++ [x] }

/-- Adds a line break. -/
def addBreak (s : Spacing) (text : List Char) : Spacing :=
  if s.broken then { s with others := s.others ++ text }
  else { s with blanks := [], first := text, broken := true }

end Spacing

/-- Reads blanks and line breaks.  After a break no tab may stand before the column `margin`. -/
def spacingFrom (margin : Nat) : Nat → Spacing → Cursor → Option (Spacing × Cursor)
  | 0, s, c => some (s, c)
  | steps + 1, s, c =>
    match c.rest with
    | [] => some (s, c)
    | x :: _ =>
      if isBlank x then
        if s.broken && x == '\t' && c.column < margin then none
        else spacingFrom margin steps (s.addBlank x) (c.advance 1)
      else if isBreak x then
        let (text, c) := c.takeBreak
        spacingFrom margin steps (s.addBreak text) c
      else some (s, c)

/-- Reads the blanks and line breaks at a place. -/
def spacing? (margin : Nat) (s : Spacing) (c : Cursor) : Option (Spacing × Cursor) :=
  spacingFrom margin c.rest.length s c

/-! ### Plain text -/

/-- Whether a character ends a plain text inside brackets. -/
def endsPlainFlow (c : Char) : Bool := ",[]\x7b\x7d".toList.contains c

/-- The word of a plain text at a place: up to a blank, a colon before a blank or, inside brackets,
a bracket or a comma.  Inside brackets a colon may not touch one of them. -/
def plainWord? (flow : Bool) : List Char → Option (List Char)
  | [] => some []
  | c :: cs =>
    if isSpacing c then some []
    else if flow && c == ':' && cs.head?.any (fun d => d == '?' || endsPlainFlow d) then none
    else if (c == ':' && endsOr isSpacing cs) || (flow && endsPlainFlow c) then some []
    else (plainWord? flow cs).map (c :: ·)

/-- Reads a plain text on from the text and the spacing before the cursor, with the columns from
`margin` on for its further lines.  Answers the text and whether line breaks follow it. -/
def plainFrom (flow : Bool) (margin : Nat) :
    Nat → List Char → Spacing → Cursor → Option (List Char × Bool × Cursor)
  | 0, text, s, c => some (text, s.broken, c)
  | steps + 1, text, s, c =>
    if c.atDocumentMark || c.at? '#' then some (text, s.broken, c)
    else do
      let word ← plainWord? flow c.rest
      if word = [] then some (text, s.broken, c)
      else
        let text := text ++ s.text ++ word
        let c := c.advance word.length
        let (s, next) ← spacing? margin {} c
        if next.index = c.index then some (text, false, c)
        else if !flow && next.column < margin then some (text, s.broken, next)
        else plainFrom flow margin steps text s next

/-- Reads the plain text at a place. -/
def plain? (flow : Bool) (margin : Nat) (c : Cursor) : Option (List Char × Bool × Cursor) :=
  plainFrom flow margin (c.rest.length + 1) [] {} c

/-! ### Quoted text -/

/-- The character that some hexadecimal digits write, and how many characters that takes after the
backslash. -/
def hexEscape? (count : Nat) (cs : List Char) : Option (Char × Nat) := do
  let digits := cs.take count
  if digits.length < count then none
  let n ← Text.hexNumber? digits
  if (0xD800 ≤ n ∧ n ≤ 0xDFFF) ∨ 0x10FFFF < n then none
  else some (Char.ofNat n, count + 1)

/-- The character that an escape stands for, given what follows the backslash, and how many
characters that takes. -/
def escape? : List Char → Option (Char × Nat)
  | [] => none
  | c :: cs =>
    let code (n : Nat) : Option (Char × Nat) := some (Char.ofNat n, 1)
    match c with
    | '0' => code 0
    | 'a' => code 7
    | 'b' => code 8
    | 't' | '\t' => code 9
    | 'n' => code 10
    | 'v' => code 11
    | 'f' => code 12
    | 'r' => code 13
    | 'e' => code 27
    | ' ' | '"' | '/' | '\\' => code c.toNat
    | 'N' => code 0x85
    | '_' => code 0xA0
    | 'L' => code 0x2028
    | 'P' => code 0x2029
    | 'x' => hexEscape? 2 cs
    | 'u' => hexEscape? 4 cs
    | 'U' => hexEscape? 8 cs
    | _ => none

/-- A word of a quoted text, up to a blank, a break or the closing mark; the last component tells
whether an escaped line break ends it. -/
def quotedWord? (single : Bool) : Nat → Cursor → Option (List Char × Cursor × Bool)
  | 0, _ => none
  | steps + 1, c =>
    let more (x : Char) (n : Nat) : Option (List Char × Cursor × Bool) :=
      (quotedWord? single steps (c.advance n)).map fun (word, rest) => (x :: word, rest)
    match c.rest with
    | [] => some ([], c, false)
    | x :: cs =>
      if isSpacing x then some ([], c, false)
      else if single then
        if x == '\x27' then if cs.head? == some x then more x 2 else some ([], c, false)
        else more x 1
      else if x == '"' then some ([], c, false)
      else if x == '\\' then
        if cs.head?.any isBreak then some ([], (c.advance 1).skipBreak, true)
        else do
          let (y, n) ← escape? cs
          more y (n + 1)
      else more x 1

/-- Reads a quoted text up to and including its closing mark; the opening one has been passed. -/
def quotedFrom (single : Bool) : Nat → Cursor → Option (List Char × Cursor)
  | 0, _ => none
  | steps + 1, c => do
    if c.atDocumentMark || c.rest.isEmpty then none
    let (word, c, escaped) ← quotedWord? single (c.rest.length + 1) c
    if c.at? (if single then '\x27' else '"') then some (word, c.advance 1)
    else
      let (s, c) ← spacing? 0 { broken := escaped } c
      let (text, c) ← quotedFrom single steps c
      some (word ++ s.text ++ text, c)

/-- Reads the quoted text at a place. -/
def quoted? (single : Bool) (c : Cursor) : Option (List Char × Cursor) :=
  quotedFrom single (c.rest.length + 1) (c.advance 1)

/-! ### Blocks of lines -/

/-- What becomes of the line breaks at the end of a block. -/
inductive Chomping where
  | strip
  | clip
  | keep
deriving DecidableEq, Repr

/-- The heading of a block: its indentation, if it is given, and its chomping. -/
structure BlockHeader where
  indentation : Option Nat := none
  chomping : Chomping := .clip
deriving DecidableEq, Repr

/-- The chomping that a sign asks for. -/
def chomping? : Char → Option Chomping
  | '+' => some .keep
  | '-' => some .strip
  | _ => none

/-- The sign and the digit after the mark of a block, in either order. -/
def blockHeader? (c : Cursor) : Option (BlockHeader × Cursor) :=
  let sign (h : BlockHeader) (c : Cursor) : BlockHeader × Cursor :=
    match c.rest.head?.bind chomping? with
    | some chomping => ({ h with chomping := chomping }, c.advance 1)
    | none => (h, c)
  let digit (h : BlockHeader) (c : Cursor) : Option (BlockHeader × Cursor) :=
    match c.rest.head? with
    | some d =>
      if d == '0' then none
      else if d.isDigit then
        some ({ h with indentation := some (d.toNat - '0'.toNat) }, c.advance 1)
      else some (h, c)
    | none => some (h, c)
  let (signed, next) := sign {} c
  if next.index = c.index then (digit {} c).map fun (h, c) => sign h c
  else digit signed next

/-- Reads the empty lines of a block and the indentation of the line after them.  Without a given
indentation (0) all blanks are indentation, and the deepest line counts. -/
def emptyLines (indentation : Nat) :
    Nat → Nat → List Char → Cursor → Option (List Char × Nat × Cursor)
  | 0, _, _, _ => none
  | steps + 1, deepest, breaks, c =>
    let room := if indentation = 0 then c.rest.length else indentation - c.column
    let c := c.advance ((c.rest.take room).takeWhile (· == ' ')).length
    let deepest := max deepest c.column
    if (indentation = 0 || c.column < indentation) && c.at? '\t' then none
    else if c.rest.head?.any isBreak then
      let (text, c) := c.takeBreak
      emptyLines indentation steps deepest (breaks ++ text) c
    else some (breaks, deepest, c)

/-- What has been read of a block: its text, the break after the last line, the empty lines since,
and whether the last line starts with a blank. -/
structure BlockLines where
  text : List Char := []
  ending : List Char := []
  empty : List Char := []
  indented : Bool := false
deriving DecidableEq, Repr

/-- Reads the lines of a block.  Where lines are folded, the break between two lines that do not start
with a blank becomes a blank, or vanishes before empty lines. -/
def blockLinesFrom (folded : Bool) (indentation : Nat) :
    Nat → BlockLines → Cursor → Option (BlockLines × Cursor)
  | 0, b, c => some (b, c)
  | steps + 1, b, c =>
    if c.column ≠ indentation ∨ c.rest = [] then some (b, c)
    else do
      let indented := c.rest.head?.any isBlank
      let joined :=
        if folded && b.ending == ['\n'] && !b.indented && !indented then
          (if b.empty = [] then [' '] else [])
        else b.ending
      let line := c.rest.takeWhile (!isBreak ·)
      let (ending, c) := (c.advance line.length).takeBreak
      let (empty, _, c) ← emptyLines indentation (c.rest.length + 1) 0 [] c
      let text := b.text ++ joined ++ b.empty ++ line
      blockLinesFrom folded indentation steps ⟨text, ending, empty, indented⟩ c

/-- The text of a block with its end as the chomping asks. -/
def BlockLines.chomp (b : BlockLines) : Chomping → List Char
  | .strip => b.text
  | .clip => b.text ++ b.ending
  | .keep => b.text ++ b.ending ++ b.empty

/-- Reads the block at a place, inside a collection that is indented by `parent` columns, or by −1
where there is none. -/
def block? (folded : Bool) (parent : Int) (c : Cursor) : Option (List Char × Cursor) := do
  let (header, c) ← blockHeader? (c.advance 1)
  let c ← c.restOfLine?
  let given := (header.indentation.map fun n => (max parent 0).toNat + n).getD 0
  let (empty, deepest, c) ← emptyLines given (c.rest.length + 1) 0 [] c
  let indentation := if given = 0 then max (max deepest (parent + 1).toNat) 1 else given
  let (b, c) ← blockLinesFrom folded indentation (c.rest.length + 1) { empty := empty } c
  some (b.chomp header.chomping, c)

end Folio.Yaml
