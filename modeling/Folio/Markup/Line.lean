import Folio.Text.Basic

/-! # Lines and columns

A document is read line by line.  Indentation is counted in columns: a tab reaches to the next
multiple of four, and a container may take only a part of it.  A `Cursor` stands inside a line and
remembers how many columns of a tab are still to come. -/

namespace Folio.Markup

/-- Whether a character is a blank that does not end a line. -/
def isInlineBlank (c : Char) : Bool :=
  c == ' ' || c == '\t' || c.toNat == 0x0B || c.toNat == 0x0C

/-- Whether a character ends a line. -/
def isLineEnd (c : Char) : Bool := c == '\n' || c == '\r'

/-- A line: where it starts in the text, its characters, and how many characters end it. -/
structure Line where
  start : Nat
  chars : List Char
  ending : Nat
deriving DecidableEq, Repr

namespace Line

/-- The lines of a text from a position on; `done` is the current line so far, its last character
first, and `start` the position of its first. -/
def splitFrom (start : Nat) (done : List Char) : List Char → List Line
  | [] => if done = [] then [] else [⟨start, done.reverse, 0⟩]
  | '\r' :: '\n' :: cs =>
    ⟨start, done.reverse, 2⟩ :: splitFrom (start + done.length + 2) [] cs
  | c :: cs =>
    if isLineEnd c then ⟨start, done.reverse, 1⟩ :: splitFrom (start + done.length + 1) [] cs
    else splitFrom start (c :: done) cs

/-- The lines of a text. -/
def split (cs : List Char) : List Line := splitFrom 0 [] cs

end Line

/-- Whether a row of characters holds blanks only. -/
def isBlankLine (cs : List Char) : Bool := cs.all isInlineBlank

/-- A place in a line. -/
structure Cursor where
  position : Nat
  column : Nat
  pending : Nat
  rest : List Char
deriving DecidableEq, Repr

namespace Cursor

/-- The start of a line. -/
def ofLine (l : Line) : Cursor := ⟨l.start, 0, 0, l.chars⟩

/-- Takes up to `n` columns of indentation; answers how many were there. -/
def indentFrom (position column : Nat) : Nat → List Char → Nat × Cursor
  | _, [] => (0, ⟨position, column, 0, []⟩)
  | n, c :: cs =>
    if n = 0 then (0, ⟨position, column, 0, c :: cs⟩)
    else if c = ' ' then
      let (k, next) := indentFrom (position + 1) (column + 1) (n - 1) cs
      (k + 1, next)
    else if c = '\t' then
      let width := 4 - column % 4
      if n < width then (n, ⟨position + 1, 0, width - n, cs⟩)
      else
        let (k, next) := indentFrom (position + 1) 0 (n - width) cs
        (k + width, next)
    else (0, ⟨position, column, 0, c :: cs⟩)

/-- Takes up to `n` columns of indentation; answers how many were there. -/
def indent (n : Nat) (c : Cursor) : Nat × Cursor :=
  if n ≤ c.pending then (n, { c with pending := c.pending - n })
  else
    let (k, next) := indentFrom c.position c.column (n - c.pending) c.rest
    (k + c.pending, next)

/-- Whether nothing is left on the line. -/
def isAtEnd (c : Cursor) : Bool := c.rest.isEmpty

/-- Whether only blanks are left on the line. -/
def isBlank (c : Cursor) : Bool := isBlankLine c.rest

/-- Passes over some characters. -/
def advance (c : Cursor) (n : Nat) : Cursor :=
  ⟨c.position + n, c.column + n, 0, c.rest.drop n⟩

/-- What is left of the line without the blanks in front. -/
def trimmed (c : Cursor) : List Char := c.rest.dropWhile isInlineBlank

/-- Takes the mark of a quotation and one column behind it. -/
def quoteMark? (c : Cursor) : Option Cursor :=
  match c.rest with
  | '>' :: _ => some ((c.advance 1).indent 1).2
  | _ => none

end Cursor

/-! ### Literal text

The text of a code block is given in pieces: characters that are neighbours in the document form
one piece, and where a container has cut something off a new one begins. -/

/-- Pieces of text, the last first, with the place where the last ends and its characters in reverse. -/
structure Pieces where
  done : List String := []
  stop : Nat := 0
  last : List Char := []

namespace Pieces

/-- The pieces with the last one closed. -/
def flush (p : Pieces) : List String :=
  if p.last = [] then p.done else String.ofList p.last.reverse :: p.done

/-- Adds text that stands at a place. -/
def add (p : Pieces) (start : Nat) (cs : List Char) : Pieces :=
  if cs = [] then p
  else if p.last ≠ [] ∧ p.stop = start then
    { p with stop := start + cs.length, last := cs.reverse ++ p.last }
  else ⟨p.flush, start + cs.length, cs.reverse⟩

/-- Adds text that stands nowhere. -/
def addApart (p : Pieces) (cs : List Char) : Pieces :=
  if cs = [] then p else ⟨String.ofList cs :: p.flush, 0, []⟩

/-- Adds the rest of a line and its end as one line feed. -/
def addLine (p : Pieces) (c : Cursor) (ending : Nat) : Pieces :=
  let p := (p.addApart (List.replicate c.pending ' ')).add c.position c.rest
  let stop := c.position + c.rest.length
  match ending with
  | 0 => p
  | 1 => p.add stop ['\n']
  | _ => p.add (stop + 1) ['\n']

/-- The pieces in order. -/
def texts (p : Pieces) : List String := p.flush.reverse

end Pieces

end Folio.Markup
