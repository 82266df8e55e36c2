/-! # Places in a YAML text

A YAML text is read from left to right.  A `Cursor` holds what is left of it, and the line and the
column of the first character left.  Only printable characters, tabs and line breaks may stand in a
text (`isAllowed`). -/

namespace Folio.Yaml

/-! ### Characters -/

/-- Whether a character may stand in a text at all. -/
def isAllowed (c : Char) : Bool :=
  let n := c.toNat
  n == 0x09 || n == 0x0A || n == 0x0D || (0x20 ≤ n && n ≤ 0x7E) || n == 0x85 ||
    (0xA0 ≤ n && n ≤ 0xFFFD) || 0x10000 ≤ n

/-- Whether a character is a blank within a line. -/
def isBlank (c : Char) : Bool := c == ' ' || c == '\t'

/-- Whether a character ends a line. -/
def isBreak (c : Char) : Bool :=
  c == '\n' || c == '\r' || c.toNat == 0x85 || c.toNat == 0x2028 || c.toNat == 0x2029

/-- Whether a character is a blank or ends a line. -/
def isSpacing (c : Char) : Bool := isBlank c || isBreak c

/-- Whether a text is at its end, or goes on with a character of a class. -/
def endsOr (p : Char → Bool) (cs : List Char) : Bool := cs.head?.all p

/-- Whether a character may stand in the name of an anchor, a tag handle or a directive. -/
def isNameChar (c : Char) : Bool := c.isAlphanum || c == '_' || c == '-'

/-- The mark that tells the order of bytes. -/
def byteOrderMark : Char := '\uFEFF'

/-! ### Cursors -/

/-- A place in a text. -/
structure Cursor where
  rest : List Char
  index : Nat := 0
  line : Nat := 0
  column : Nat := 0
deriving DecidableEq, Repr

namespace Cursor

/-- Passes over characters that do not end a line. -/
def advance (c : Cursor) (n : Nat) : Cursor :=
  { c with rest := c.rest.drop n, index := c.index + n, column := c.column + n }

/-- Passes over the characters of a class, which holds no line breaks. -/
def skipWhile (p : Char → Bool) (c : Cursor) : Cursor :=
  c.advance (c.rest.takeWhile p).length

/-- Passes over one line break; answers the text that it stands for. -/
def takeBreak (c : Cursor) : List Char × Cursor :=
  let after (rest : List Char) (n : Nat) : Cursor := ⟨rest, c.index + n, c.line + 1, 0⟩
  match c.rest with
  | '\r' :: '\n' :: rest => (['\n'], after rest 2)
  | x :: rest =>
    if x.toNat == 0x2028 || x.toNat == 0x2029 then ([x], after rest 1)
    else if isBreak x then (['\n'], after rest 1)
    else ([], c)
  | [] => ([], c)

/-- Passes over one line break. -/
def skipBreak (c : Cursor) : Cursor := c.takeBreak.2

/-- Whether the text goes on with a character. -/
def at? (c : Cursor) (x : Char) : Bool := c.rest.head? == some x

/-- Passes over a comment, up to the end of its line. -/
def skipComment (c : Cursor) : Cursor :=
  if c.at? '#' then c.skipWhile (!isBreak ·) else c

/-- Whether three equal characters and then a blank, a break or the end are next. -/
def atTriple (c : Cursor) (x : Char) : Bool :=
  match c.rest with
  | a :: b :: d :: rest => a == x && b == x && d == x && endsOr isSpacing rest
  | _ => false

/-- Whether a line starts with the mark of the start or of the end of a document. -/
def atDocumentMark (c : Cursor) : Bool := c.column == 0 && (c.atTriple '-' || c.atTriple '.')

/-- Passes over the rest of a line, which may hold blanks and a comment and nothing else. -/
def restOfLine? (c : Cursor) : Option Cursor :=
  let c := (c.skipWhile isBlank).skipComment
  if endsOr isBreak c.rest then some c.skipBreak else none

end Cursor

end Folio.Yaml
