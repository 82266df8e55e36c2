import Folio.Markup.Definition
import Folio.Markup.Emphasis

/-! # Reading prose

The tokens of prose become events.  One walk from the left settles what binds tightest: code, math, raw
HTML and autolinks take the characters up to their end, and a closing bracket looks for a destination
or a definition behind it and turns what stands since its opening bracket into a link, an image or a
footnote reference.  What remains is paired by `pairEmphasis`, for the content of every link on its
own. -/

namespace Folio.Markup

/-! ### Code and math -/

/-- The characters between two places of the same prose. -/
def between (ahead : List Char) (left stop : Nat) : List Char := ahead.take (left - stop)

/-- In a table cell an escaped pipe is a pipe. -/
def unescapePipes : List Char → List Char
  | '\\' :: '|' :: cs => '|' :: unescapePipes cs
  | c :: cs => c :: unescapePipes cs
  | [] => []

/-- The text of a code span: line ends are blanks, and one blank at both ends goes unless there is
nothing else. -/
def codeText (cell : Bool) (cs : List Char) : String :=
  let cs := (if cell then unescapePipes cs else cs).map fun c => if c == '\n' then ' ' else c
  String.ofList <|
    if cs.head? == some ' ' && cs.getLast? == some ' ' && !cs.all (· == ' ') then
      (cs.drop 1).dropLast
    else cs

/-- The token that closes a code span. -/
def codeEnd? (length : Nat) : List Token → Option Token
  | [] => none
  | t :: ts =>
    match t.kind with
    | .ticks n _ => if n = length then some t else codeEnd? length ts
    | _ => codeEnd? length ts

/-- Whether the next token is a dollar sign. -/
def dollarNext : List Token → Bool
  | ⟨.dollar _ _ _, _, _⟩ :: _ => true
  | _ => false

/-- The token that closes math: the next dollar sign in the same group of braces, if it may close and,
for display math, is doubled. -/
def mathEnd? (display : Bool) (group : Nat) : List Token → Option Token
  | [] => none
  | t :: ts =>
    match t.kind with
    | .dollar _ closes g =>
      if g = group then
        if (!display && closes) || (display && dollarNext ts) then some t else none
      else mathEnd? display group ts
    | _ => mathEnd? display group ts

/-! ### Brackets -/

/-- An opening bracket that waits for its other end: what stands behind it, and the pieces in front of
it, the last first.  Inside a link no other link is made. -/
structure Bracket where
  image : Bool
  active : Bool
  ahead : List Char
  left : Nat
  before : List Piece
deriving DecidableEq, Repr

/-- What the walk has done: the open brackets, the innermost first; the pieces behind the innermost, the
last first; and the places of closing brackets that end no label any more. -/
structure Walk where
  brackets : List Bracket := []
  pieces : List Piece := []
  spent : List Nat := []

namespace Walk

/-- Adds events. -/
def add (w : Walk) (es : List Event) : Walk := { w with pieces := .events es :: w.pieces }

/-- Adds text, if there is any. -/
def addText (w : Walk) (cs : List Char) : Walk :=
  if cs = [] then w else w.add [.text (String.ofList cs)]

/-- The text of an opening bracket. -/
def opening (b : Bracket) : Piece := .events [.text (if b.image then "![" else "[")]

/-- Gives the innermost bracket up. -/
def dropBracket (w : Walk) : Walk :=
  match w.brackets with
  | [] => w
  | b :: bs => { w with brackets := bs, pieces := w.pieces ++ opening b :: b.before }

/-- Gives every bracket up. -/
def dropAll (w : Walk) : Walk :=
  { w with
    brackets := []
    pieces := w.brackets.foldl (fun pieces b => pieces ++ opening b :: b.before) w.pieces }

/-- Makes the innermost bracket a link or an image. -/
def close (w : Walk) (b : Bracket) (outer : List Bracket) (target : LinkTarget) : Walk :=
  let tag := if b.image then Tag.image target else .link target
  let outer := if b.image then outer else
    outer.map fun o => if o.image then o else { o with active := false }
  { w with
    brackets := outer
    pieces := .events (.start tag :: pairEmphasis w.pieces.reverse ++ [.finish tag.closing]) ::
      b.before }

/-- Replaces the innermost bracket and what stands behind it by a footnote reference. -/
def closeFootnote (w : Walk) (b : Bracket) (outer : List Bracket) (label : String) : Walk :=
  let mark := if b.image then [Event.text "!"] else []
  let w := { w with brackets := outer, pieces := b.before }.dropAll
  w.add (mark ++ [.footnoteReference label])

end Walk

/-- How a closing bracket goes on: with a label of its own, with an empty one, or not at all. -/
inductive LabelBehind where
  | label (s : String) (rest : List Char)
  | empty (rest : List Char)
  | nothing

/-- What follows a closing bracket. -/
def labelBehind (d : Dialect) (cs : List Char) : LabelBehind :=
  match cs with
  | '[' :: ']' :: rest => .empty rest
  | '[' :: rest =>
    if d == .extended && (footnoteLabel? cs).isSome then .nothing
    else
      match label? rest with
      | some (s, after) => .label s after
      | none => .nothing
  | _ => .nothing

/-- What a pair of brackets refers to. -/
inductive Reference where
  | link (label : String)
  | footnote (label : String)

/-- The reference that the characters of a pair of brackets make, the opening one left out. -/
def reference? (d : Dialect) (cs : List Char) : Option Reference :=
  let whole (found : Option (String × List Char)) : Option String :=
    match found with
    | some (s, []) => some s
    | _ => none
  match d, footnoteLabel? ('[' :: cs) with
  | .extended, some (s, []) => some (.footnote s)
  | .extended, some _ => none
  | _, _ => (whole (label? cs)).map .link

/-- Reads a closing bracket, `behind` being what follows it and `left` the length of that; answers
where to go on. -/
def closeBracket (d : Dialect) (defs : Definitions) (w : Walk) (behind : List Char) (left : Nat) :
    Walk × Nat :=
  let giveUp (w : Walk) : Walk × Nat := (w.dropBracket.addText [']'], left)
  match w.brackets with
  | [] => giveUp w
  | b :: outer =>
    if !b.active then giveUp w
    else
      match inlineTarget? behind with
      | some (url, title, rest) => (w.close b outer ⟨.inline, url, title, ""⟩, rest.length)
      | none =>
        let refer (w : Walk) (kind : LinkKind) (label : String) (rest : List Char) : Walk × Nat :=
          match defs.link? label with
          | some e => (w.close b outer ⟨kind, e.url, e.title, label⟩, rest.length)
          | none => giveUp w
        let own (kind : LinkKind) (rest : List Char) : Walk × Nat :=
          if w.spent.contains left then giveUp w
          else
            match reference? d (between b.ahead b.left left) with
            | some (.footnote label) =>
              if defs.hasFootnote label then (w.closeFootnote b outer label, left) else giveUp w
            | some (.link label) => refer w kind label rest
            | none => giveUp w
        match labelBehind d behind with
        | .label label rest => refer { w with spent := rest.length :: w.spent } .reference label rest
        | .empty rest => own .collapsed rest
        | .nothing => own .shortcut behind

/-! ### The walk -/

/-- Reads one token; answers how many characters are left behind what it takes. -/
def readToken (d : Dialect) (defs : Definitions) (cell : Bool) (w : Walk) (t : Token)
    (rest : List Token) : Walk × Nat :=
  match t.kind with
  | .text n => (w.addText (t.ahead.take n), t.left - n)
  | .given s => (w.addText s, t.left - 1)
  | .run mark n opens closes => ({ w with pieces := .run mark n opens closes :: w.pieces }, t.left - n)
  | .softBreak => (w.add [.softBreak], t.left - 1)
  | .hardBreak backslash => ({ w with pieces := .hardBreak backslash :: w.pieces }, t.left - 1)
  | .imageOpen =>
    ({ w with brackets := ⟨true, true, t.ahead.drop 2, t.left - 2, w.pieces⟩ :: w.brackets,
              pieces := [] }, t.left - 2)
  | .bracketOpen =>
    ({ w with brackets := ⟨false, true, t.ahead.drop 1, t.left - 1, w.pieces⟩ :: w.brackets,
              pieces := [] }, t.left - 1)
  | .bracketClose => closeBracket d defs w (t.ahead.drop 1) (t.left - 1)
  | .angle =>
    let inner := t.ahead.drop 1
    let link (kind : LinkKind) (url rest : List Char) : Walk × Nat :=
      let tag := Tag.link ⟨kind, String.ofList url, "", ""⟩
      (w.add [.start tag, .text (String.ofList url), .finish tag.closing], rest.length)
    match addressLink? inner with
    | some (url, rest) => link .autolink url rest
    | none =>
      match mailLink? inner with
      | some (url, rest) => link .email url rest
      | none =>
        match afterRawHtml? t.ahead with
        | some rest =>
          (w.add [.inlineHtml (String.ofList (between t.ahead t.left rest.length))], rest.length)
        | none => (w.addText ['<'], t.left - 1)
  | .ticks n escaped =>
    let count := if escaped then n - 1 else n
    match if count = 0 then none else codeEnd? count rest with
    | some close =>
      let w := if escaped then w.addText ['\x60'] else w
      (w.add [.code (codeText cell (between (t.ahead.drop n) (t.left - n) close.left))],
        close.left - count)
    | none => (w.addText (t.ahead.take n), t.left - n)
  | .dollar opens _ group =>
    let display := dollarNext rest
    let inner := if display then rest.drop 1 else rest
    let width := if display then 2 else 1
    match if opens then mathEnd? display group inner else none with
    | some close =>
      let cs := between (t.ahead.drop width) (t.left - width) close.left
      let s := String.ofList (if cell then unescapePipes cs else cs)
      (w.add [if display then .displayMath s else .inlineMath s], close.left - width)
    | none => (w.addText ['$'], t.left - 1)

/-- A token cut down to the part behind a place, if there is such a part. -/
def Token.behind? (t : Token) (stop : Nat) : Option Token :=
  if t.left ≤ stop then some t
  else
    match t.kind with
    | .text n =>
      let cut := t.left - stop
      if cut < n then some ⟨.text (n - cut), t.ahead.drop cut, stop⟩ else none
    | .run mark n opens closes =>
      let cut := t.left - stop
      if cut < n then some ⟨.run mark (n - cut) opens closes, t.ahead.drop cut, stop⟩ else none
    | _ => none

/-- Walks over tokens; those in front of the place with `stop` characters left are used already. -/
def walk (d : Dialect) (defs : Definitions) (cell : Bool) (w : Walk) (stop : Nat) :
    List Token → Walk
  | [] => w
  | t :: rest =>
    match t.behind? stop with
    | none => walk d defs cell w stop rest
    | some t =>
      let (w, stop) := readToken d defs cell w t rest
      walk d defs cell w stop rest

/-- The events of prose. -/
def Prose.events (d : Dialect) (defs : Definitions) (p : Prose) : List Event :=
  let w := (walk d defs p.cell {} p.chars.length (tokens d p)).dropAll
  pairEmphasis w.pieces.reverse

end Folio.Markup
