import Folio.Markup.RawTag
import Folio.Text.Reference
import Folio.Unicode.Whitespace

/-! # Tokens of prose

Prose is the text of a paragraph, a heading or a table cell.  It is cut into tokens first: plain text,
delimiter runs, brackets, backticks, dollar signs, angle brackets and line breaks.  A token knows the
prose from its own first character on, so that later stages can look at the characters themselves. -/

namespace Folio.Markup

/-- Which markdown is read: plain CommonMark, or with tables, footnotes, strikethrough, task lists,
heading attributes and math. -/
inductive Dialect where
  | plain
  | extended
deriving DecidableEq, Repr

/-- Running text, its lines joined by line feeds; `closed` says whether its last line has an end. -/
structure Prose where
  chars : List Char
  closed : Bool
  cell : Bool := false
deriving DecidableEq, Repr

/-- The kinds of tokens. -/
inductive TokenKind where
  /-- Text as it stands. -/
  | text (length : Nat)
  /-- Text that something else stands for. -/
  | given (s : List Char)
  /-- A run of emphasis marks. -/
  | run (mark : Char) (length : Nat) (opens closes : Bool)
  /-- A dollar sign, and the group of braces that it stands in. -/
  | dollar (opens closes : Bool) (group : Nat)
  /-- A run of backticks; the first may be escaped. -/
  | ticks (length : Nat) (escaped : Bool)
  | angle
  | imageOpen
  | bracketOpen
  | bracketClose
  | softBreak
  | hardBreak (backslash : Bool)
deriving DecidableEq, Repr

/-- A token, the prose from its first character on, and the length of that. -/
structure Token where
  kind : TokenKind
  ahead : List Char
  left : Nat
deriving DecidableEq, Repr

/-! ### Delimiter runs -/

/-- Whether a run of marks may open emphasis, between the characters `before` and `after`. -/
def runOpens (mark : Char) (length : Nat) (before after : Option Char) : Bool :=
  match after with
  | none => false
  | some next =>
    if Unicode.isBlank next then false
    else
      match before with
      | none => true
      | some previous =>
        (mark == '*' && !Unicode.isPunctuation next) || (mark == '~' && 1 < length) ||
          Unicode.isBlank previous || Unicode.isPunctuation previous

/-- Whether a run of marks may close emphasis, between the characters `before` and `after`. -/
def runCloses (mark : Char) (length : Nat) (before after : Option Char) : Bool :=
  match before with
  | none => false
  | some previous =>
    if Unicode.isBlank previous then false
    else
      match after with
      | none => true
      | some next =>
        ((mark == '*' || (mark == '~' && 1 < length)) && !Unicode.isPunctuation previous) ||
          Unicode.isBlank next || Unicode.isPunctuation next

/-! ### Character references in markdown -/

/-- The character of a number, the replacement character if there is none. -/
def charOfNumber (n : Nat) : Char :=
  if n = 0 ∨ !n.isValidChar then Char.ofNat 0xFFFD else Char.ofNat n

/-- The text that a reference stands for, and how many characters it takes. -/
def referenceAt? : List Char → Option (List Char × Nat)
  | '&' :: '#' :: x :: cs =>
    if x == 'x' || x == 'X' then
      let digits := cs.takeWhile Text.isHexDigit
      if 1 ≤ digits.length && digits.length ≤ 6 && (cs.drop digits.length).head? == some ';' then
        some ([charOfNumber (Text.digitsValue 16 digits)], digits.length + 4)
      else none
    else
      let digits := (x :: cs).takeWhile Char.isDigit
      if 1 ≤ digits.length && digits.length ≤ 7 &&
          ((x :: cs).drop digits.length).head? == some ';' then
        some ([charOfNumber (Text.digitsValue 10 digits)], digits.length + 3)
      else none
  | '&' :: cs =>
    let name := cs.takeWhile Char.isAlphanum
    if (cs.drop name.length).head? == some ';' then
      (Text.reference? name).map fun s => (s, name.length + 2)
    else none
  | _ => none

/-- Takes the backslashes of escapes away and puts the text of references in; `skip` characters are
used already. -/
def unescapeFrom : Nat → List Char → List Char
  | _, [] => []
  | skip + 1, _ :: cs => unescapeFrom skip cs
  | 0, c :: cs =>
    if c == '\\' && cs.head?.any Unicode.isAsciiPunctuation then
      match cs with
      | d :: _ => d :: unescapeFrom 1 cs
      | [] => []
    else
      match referenceAt? (c :: cs) with
      | some (s, length) => s ++ unescapeFrom (length - 1) cs
      | none => if c == '\r' then unescapeFrom 0 cs else c :: unescapeFrom 0 cs

/-- A text without escapes and references. -/
def unescape (cs : List Char) : String := String.ofList (unescapeFrom 0 cs)

/-! ### Cutting prose into tokens -/

/-- What the lexer has done: the tokens so far, the last first; the plain text before the current
character, with its length; the character before, none at the start of a line; and the open groups
of braces with the number of the next. -/
structure Lexer where
  done : List Token := []
  textAhead : List Char := []
  textLength : Nat := 0
  textLeft : Nat := 0
  before : Option Char := none
  groups : List Nat := []
  fresh : Nat := 1
  lineStart : Bool := false

namespace Lexer

/-- The number of the group outside all braces. -/
def outside : Nat := 0

/-- Ends the plain text, leaving `cut` of its characters out. -/
def flush (x : Lexer) (cut : Nat := 0) : Lexer :=
  if x.textLength ≤ cut then { x with textLength := 0 }
  else
    { x with done := ⟨.text (x.textLength - cut), x.textAhead, x.textLeft⟩ :: x.done, textLength := 0 }

/-- Takes a character into the plain text. -/
def takeText (x : Lexer) (ahead : List Char) (left : Nat) : Lexer :=
  if x.textLength = 0 then
    { x with textAhead := ahead, textLength := 1, textLeft := left, before := ahead.head?,
             lineStart := false }
  else { x with textLength := x.textLength + 1, before := ahead.head?, lineStart := false }

/-- Adds a token whose last character is `last`. -/
def emit (x : Lexer) (kind : TokenKind) (ahead : List Char) (left : Nat) (last : Char) : Lexer :=
  let x := x.flush
  { x with done := ⟨kind, ahead, left⟩ :: x.done, before := some last, lineStart := false }

/-- The plain text before the current character, its last character first. -/
def pendingText (x : Lexer) : List Char := (x.textAhead.take x.textLength).reverse

/-- Enters a group of braces; before the first dollar sign nothing is counted. -/
def openGroup (x : Lexer) : Lexer :=
  if x.groups = [] then x else { x with groups := x.fresh :: x.groups, fresh := x.fresh + 1 }

/-- Leaves a group of braces; one that was never opened makes all that follows a new group. -/
def closeGroup (x : Lexer) : Lexer :=
  match x.groups with
  | [] => x
  | [_] => { x with groups := [x.fresh], fresh := x.fresh + 1 }
  | _ :: rest => { x with groups := rest }

/-- Adds a dollar sign. -/
def addDollar (x : Lexer) (ahead : List Char) (left : Nat) : Lexer :=
  let next := (ahead.drop 1).head?
  let opens := next.any fun c => !Unicode.isBlank c
  let closes := x.before.any fun c => !Unicode.isBlank c
  let x := if x.groups = [] then { x with groups := [outside] } else x
  x.emit (.dollar opens closes (x.groups.headD outside)) ahead left '$'

/-- Adds a line break; two blanks before it make it a hard one. -/
def addBreak (x : Lexer) (ahead : List Char) (left : Nat) : Lexer :=
  let blanks := (x.pendingText.takeWhile isInlineBlank).length
  let (x, kind) :=
    if 2 ≤ blanks then (x.flush blanks, TokenKind.hardBreak false) else (x.flush, .softBreak)
  { x with done := ⟨kind, ahead, left⟩ :: x.done, before := none, lineStart := true }

/-- Adds a line break with a backslash before it. -/
def addEscapedBreak (x : Lexer) (ahead : List Char) (left : Nat) : Lexer :=
  let x := x.flush
  { x with done := ⟨.hardBreak true, ahead, left⟩ :: x.done, before := none, lineStart := true }

/-- Adds the token at the start of `ahead`; answers how many more characters it takes. -/
def step (x : Lexer) (d : Dialect) (ahead : List Char) (left : Nat) : Lexer × Nat :=
  match ahead with
  | [] => (x, 0)
  | '\n' :: _ => (x.addBreak ahead left, 0)
  | '\\' :: '\n' :: _ => (x.addEscapedBreak ahead left, 1)
  | '\\' :: '\x60' :: cs =>
    let n := 1 + (cs.takeWhile (· == '\x60')).length
    (x.emit (.ticks n true) ('\x60' :: cs) (left - 1) '\x60', n)
  | '\\' :: c :: cs =>
    if Unicode.isAsciiPunctuation c then ((x.flush).takeText (c :: cs) (left - 1), 1)
    else (x.takeText ahead left, 0)
  | '\x60' :: cs =>
    let n := 1 + (cs.takeWhile (· == '\x60')).length
    (x.emit (.ticks n false) ahead left '\x60', n - 1)
  | '<' :: cs =>
    if cs.head? == some '\\' then (x.takeText ahead left, 0) else (x.emit .angle ahead left '<', 0)
  | '!' :: '[' :: _ => (x.emit .imageOpen ahead left '[', 1)
  | '[' :: _ => (x.emit .bracketOpen ahead left '[', 0)
  | ']' :: _ => (x.emit .bracketClose ahead left ']', 0)
  | '&' :: _ =>
    match referenceAt? ahead with
    | some (s, n) => (x.emit (.given s) ahead left ';', n - 1)
    | none => (x.takeText ahead left, 0)
  | c :: cs =>
    if c == '*' || c == '_' || (c == '~' && d == .extended) then
      let n := 1 + (cs.takeWhile (· == c)).length
      let after := (ahead.drop n).head?
      let opens := runOpens c n x.before after
      let closes := runCloses c n x.before after
      if (opens || closes) && (c != '~' || n ≤ 2) then
        (x.emit (.run c n opens closes) ahead left c, n - 1)
      else
        (List.range n).foldl (fun (s : Lexer × Nat) i =>
          (s.1.takeText (ahead.drop i) (left - i), n - 1)) (x, n - 1)
    else if d == .extended && c == '$' then (x.addDollar ahead left, 0)
    else if d == .extended && c == '{' then (x.openGroup.takeText ahead left, 0)
    else if d == .extended && c == '}' then (x.closeGroup.takeText ahead left, 0)
    else if x.lineStart && isInlineBlank c then (x, 0)
    else (x.takeText ahead left, 0)

/-- Ends the prose: a single blank before the end of its last line stays, all other blanks at its end
go. -/
def finish (x : Lexer) (closed : Bool) : List Token :=
  let blanks := (x.pendingText.takeWhile isInlineBlank).length
  (if closed && blanks < 2 then x.flush else x.flush blanks).done.reverse

end Lexer

/-- The tokens from a place in prose on; `skip` characters are used already. -/
def lexFrom (d : Dialect) (x : Lexer) : Nat → Nat → List Char → Lexer
  | _, _, [] => x
  | skip + 1, left, _ :: cs => lexFrom d x skip (left - 1) cs
  | 0, left, c :: cs =>
    let (x, skip) := x.step d (c :: cs) left
    lexFrom d x skip (left - 1) cs

/-- The tokens of prose. -/
def tokens (d : Dialect) (p : Prose) : List Token :=
  (lexFrom d {} 0 p.chars.length p.chars).finish p.closed

end Folio.Markup
