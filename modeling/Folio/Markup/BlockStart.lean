import Folio.Markup.Event
import Folio.Markup.RawTag

/-! # How blocks begin

Recognisers for the first line of each kind of block, on the characters that stand behind the
indentation. -/

namespace Folio.Markup

/-- Whether a line is a thematic break: three or more equal marks with blanks between. -/
def isRule (cs : List Char) : Bool :=
  match cs with
  | c :: _ =>
    (c == '*' || c == '-' || c == '_') && cs.all (fun d => d == c || d == ' ' || d == '\t') &&
      3 ≤ cs.count c
  | [] => false

/-- The level of a heading that is marked with number signs, and what follows the signs. -/
def numberSigns? (cs : List Char) : Option (Nat × List Char) :=
  let level := (cs.takeWhile (· == '#')).length
  let rest := cs.dropWhile (· == '#')
  if 1 ≤ level && level ≤ 6 && (rest.head?.all isAnyBlank) then some (level, rest) else none

/-- The level of a heading that a line underlines. -/
def underline? (cs : List Char) : Option Nat :=
  match cs with
  | c :: _ =>
    if (c == '=' || c == '-') && isBlankLine (cs.dropWhile (· == c)) then
      some (if c == '=' then 1 else 2)
    else none
  | [] => none

/-- The opening of a fenced block: the mark, how often it stands, and the rest of the line. -/
structure Fence where
  mark : Char
  length : Nat
  info : List Char
deriving DecidableEq, Repr

/-- The fence that a line opens. -/
def fence? (cs : List Char) : Option Fence :=
  match cs with
  | c :: _ =>
    let length := (cs.takeWhile (· == c)).length
    let info := cs.dropWhile (· == c)
    if (c == '\x60' || c == '~') && 3 ≤ length && !(c == '\x60' && info.contains '\x60') then
      some ⟨c, length, info⟩
    else none
  | [] => none

/-- Whether a line closes a fence. -/
def Fence.closedBy (f : Fence) (cs : List Char) : Bool :=
  f.length ≤ (cs.takeWhile (· == f.mark)).length &&
    (cs.dropWhile (· == f.mark)).all (· == ' ')

/-! ### List items -/

/-- The mark of a list item: a bullet, or a number with the sign behind it; and its width. -/
structure Bullet where
  mark : Char
  number : Option Nat
  width : Nat
deriving DecidableEq, Repr

/-- The mark that a line starts with, without regard to what follows it. -/
def bullet? (cs : List Char) : Option Bullet :=
  match cs with
  | c :: _ =>
    if c == '-' || c == '+' || c == '*' then some ⟨c, none, 1⟩
    else
      let digits := cs.takeWhile Char.isDigit
      match cs.drop digits.length with
      | d :: _ =>
        if digits ≠ [] && digits.length ≤ 9 && (d == '.' || d == ')') then
          some ⟨d, some (digits.foldl (fun n e => n * 10 + (e.toNat - 0x30)) 0), digits.length + 1⟩
        else none
      | [] => none
  | [] => none

/-! ### HTML blocks -/

/-- The tags that begin a block of HTML wherever they stand. -/
def blockTags : List String :=
  ["address", "article", "aside", "base", "basefont", "blockquote", "body", "caption", "center",
   "col", "colgroup", "dd", "details", "dialog", "dir", "div", "dl", "dt", "fieldset",
   "figcaption", "figure", "footer", "form", "frame", "frameset", "h1", "h2", "h3", "h4", "h5",
   "h6", "head", "header", "hr", "html", "iframe", "legend", "li", "link", "main", "menu",
   "menuitem", "nav", "noframes", "ol", "optgroup", "option", "p", "param", "search", "section",
   "summary", "table", "tbody", "td", "tfoot", "th", "thead", "title", "tr", "track", "ul"]

/-- The tags whose content is taken literally up to their end tag. -/
def literalTags : List String := ["pre", "style", "script", "textarea"]

/-- What ends a block of HTML: a text in its last line, or a blank line after it. -/
inductive HtmlEnd where
  | text (mark : String)
  | blankLine
deriving DecidableEq, Repr

/-- Whether a text starts with a tag, case aside, that ends there. -/
def startsWithTag (tag : String) (cs : List Char) : Bool :=
  let n := tag.length
  Text.eqIgnoringCase (cs.take n) tag.toList &&
    ((cs.drop n).head?.all fun c => isAnyBlank c || c == '>')

/-- The end of a block of HTML that holds anything up to a given text. -/
def literalHtml? (cs : List Char) : Option HtmlEnd :=
  match cs with
  | '<' :: rest =>
    match literalTags.find? (startsWithTag · rest) with
    | some tag => some (.text ("</" ++ tag ++ ">"))
    | none =>
      match rest with
      | '!' :: '-' :: '-' :: _ => some (.text "-->")
      | '?' :: _ => some (.text "?>")
      | '!' :: c :: _ =>
        if "![CDATA[".toList.isPrefixOf rest then some (.text "]]>")
        else if c.isAlpha then some (.text ">")
        else none
      | _ => none
  | _ => none

/-- Whether a line starts with one of the tags that begin a block. -/
def startsBlockTag (cs : List Char) : Bool :=
  match cs with
  | '<' :: rest =>
    let rest := match rest with
      | '/' :: more => more
      | _ => rest
    let name := rest.takeWhile Char.isAlphanum
    let tail := rest.dropWhile Char.isAlphanum
    blockTags.contains (String.ofList (name.map Char.toLower)) &&
      (match tail with
        | [] => true
        | '/' :: '>' :: _ => true
        | c :: _ => c == ' ' || c == '\t' || c == '>')
  | _ => false

/-- The block of HTML that may begin even inside a paragraph. -/
def strongHtml? (cs : List Char) : Option HtmlEnd :=
  match literalHtml? cs with
  | some e => some e
  | none => if startsBlockTag cs then some .blankLine else none

/-- The block of HTML that a line begins. -/
def htmlBlock? (cs : List Char) : Option HtmlEnd :=
  match strongHtml? cs with
  | some e => some e
  | none =>
    match afterTag? cs with
    | some rest => if isBlankLine rest then some .blankLine else none
    | none => none

/-! ### Tables -/

/-- The alignment that a cell of the delimiter row gives: colons and hyphens, the colons at its
ends. -/
def alignment (cell : List Char) : Alignment :=
  let marks := cell.filter (· ≠ ' ')
  match marks.head? == some ':', marks.contains ':' && (marks.drop 1).contains ':' with
  | true, true => .center
  | true, false => .left
  | false, true => .right
  | false, false => .none

/-- The columns of the delimiter row of a table. -/
def delimiterRow? (cs : List Char) : Option (List Alignment) :=
  if cs.all (fun c => c == '|' || c == ':' || c == '-' || c == ' ') && cs.contains '|' &&
      cs.contains '-' then
    let cells := Text.pieces (· == '|') (match cs with
      | '|' :: rest => rest
      | _ => cs)
    let columns := if (cells.getLast?.getD []).all (· == ' ') then cells.dropLast else cells
    if cells.dropLast.all (·.contains '-') then some (columns.map alignment) else none
  else none

/-- The cells of a row, cut at the pipes that are not escaped; a pipe in front is no cut. -/
def cutCells : List Char → List (List Char)
  | [] => [[]]
  | '\\' :: c :: cs =>
    if Unicode.isAsciiPunctuation c then
      match cutCells cs with
      | cell :: rest => ('\\' :: c :: cell) :: rest
      | [] => [['\\', c]]
    else
      match cutCells (c :: cs) with
      | cell :: rest => ('\\' :: cell) :: rest
      | [] => [['\\']]
  | c :: cs =>
    if c == '|' then [] :: cutCells cs
    else
      match cutCells cs with
      | cell :: rest => (c :: cell) :: rest
      | [] => [[c]]

/-- The cells of a row: a pipe at either end does not count. -/
def rowCells (cs : List Char) : List (List Char) :=
  let cs := cs.dropWhile isInlineBlank
  let cells := cutCells (match cs with
    | '|' :: rest => rest
    | _ => cs)
  let cells := if isBlankLine (cells.getLast?.getD []) then cells.dropLast else cells
  cells.map fun cell => cell.dropWhile isInlineBlank

/-- How many columns the head row of a table has; a line without pipes is none. -/
def headColumns? (cs : List Char) : Option Nat :=
  if 2 ≤ (cutCells cs).length then some (rowCells cs).length else none

end Folio.Markup
