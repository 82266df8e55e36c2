import Folio.Markup.Event
import Folio.Text.Html

/-! # Writing events as HTML

The events of a document become the text of an HTML fragment.  Blocks begin on a line of their own, the
content of an image becomes its alternative text, and footnotes are numbered in the order in which their
labels are first met. -/

namespace Folio.Markup

/-- A character between tags. -/
def escapeBodyChar (c : Char) : List Char :=
  if c = '&' then "&amp;".toList
  else if c = '<' then "&lt;".toList
  else if c = '>' then "&gt;".toList
  else [c]

/-- A text between tags. -/
def escapeBody (s : String) : String := String.ofList (s.toList.flatMap escapeBodyChar)

/-- Whether a character stands in an address as it is. -/
def isAddressSafe (c : Char) : Bool := c.isAlphanum || "!#$%()*+,-./:;=?@_~".toList.contains c

/-- A digit of a percent escape. -/
def percentDigit (n : Nat) : Char := (Nat.digitChar n).toUpper

/-- A character of an address. -/
def escapeAddressChar (c : Char) : List Char :=
  if isAddressSafe c then [c]
  else if c = '&' then "&amp;".toList
  else if c.toNat = 0x27 then "&#x27;".toList
  else
    (String.singleton c).toUTF8.toList.flatMap fun b =>
      ['%', percentDigit (b.toNat / 16), percentDigit (b.toNat % 16)]

/-- An address in an attribute. -/
def escapeAddress (s : String) : String := String.ofList (s.toList.flatMap escapeAddressChar)

/-- The state of the writer: the output so far, its last part first; the columns of the current table,
whether its head is written, and the cell; the footnotes in the order of their numbers; and, inside an
image, how deep in it and what closes it. -/
structure Writer where
  parts : List String := []
  freshLine : Bool := true
  columns : List Alignment := []
  inHead : Bool := false
  cell : Nat := 0
  notes : List String := []
  image : Option (Nat × String) := none

namespace Writer

/-- Writes a text. -/
def put (w : Writer) (s : String) : Writer :=
  if s.isEmpty then w else { w with parts := s :: w.parts, freshLine := s.endsWith "\n" }

/-- Writes a text on a line of its own. -/
def putFresh (w : Writer) (s : String) : Writer := w.put (if w.freshLine then s else "\n" ++ s)

/-- The number of a footnote, and the writer that remembers it. -/
def number (w : Writer) (label : String) : Nat × Writer :=
  if w.notes.contains label then (w.notes.idxOf label + 1, w)
  else (w.notes.length + 1, { w with notes := w.notes ++ [label] })

/-- An attribute with a blank in front. -/
def attrText (name value : String) : String :=
  " " ++ Text.escapeHtml name ++ "=\"" ++ Text.escapeHtml value ++ "\""

/-- The title of a link or an image. -/
def titleAttribute (title : String) : String :=
  if title.isEmpty then "" else attrText "title" title

/-- The start tag of a heading. -/
def headingStart (h : HeadingTag) : String :=
  "<h" ++ toString h.level ++ (h.id.map (attrText "id")).getD "" ++
    (if h.classes.isEmpty then "" else attrText "class" (" ".intercalate h.classes)) ++
    String.join (h.attrs.map fun a => attrText a.1 (a.2.getD "")) ++ ">"

/-- The start tag of a table cell. -/
def cellStart (w : Writer) : String :=
  let style := match w.columns[w.cell]? with
    | some .left => " style=\"text-align: left\""
    | some .center => " style=\"text-align: center\""
    | some .right => " style=\"text-align: right\""
    | _ => ""
  (if w.inHead then "<th" else "<td") ++ style ++ ">"

/-- Writes the start of a tag. -/
def start (w : Writer) : Tag → Writer
  | .htmlBlock => w
  | .paragraph => w.putFresh "<p>"
  | .heading h => w.putFresh (headingStart h)
  | .table columns => { w with columns }.put "<table>"
  | .tableHead => { w with inHead := true, cell := 0 }.put "<thead><tr>"
  | .tableRow => { w with cell := 0 }.put "<tr>"
  | .tableCell => w.put w.cellStart
  | .blockQuote => w.putFresh "<blockquote>\n"
  | .codeBlock (.fenced info) =>
    let lang := info.toList.takeWhile (· ≠ ' ')
    w.putFresh <|
      if lang = [] then "<pre><code>"
      else "<pre><code class=\"language-" ++ Text.escapeHtml (String.ofList lang) ++ "\">"
  | .codeBlock .indented => w.putFresh "<pre><code>"
  | .list (some 1) => w.putFresh "<ol>\n"
  | .list (some n) => w.putFresh ("<ol start=\"" ++ toString n ++ "\">\n")
  | .list none => w.putFresh "<ul>\n"
  | .item => w.putFresh "<li>"
  | .emphasis => w.put "<em>"
  | .strong => w.put "<strong>"
  | .strikethrough => w.put "<del>"
  | .link t =>
    w.put ("<a href=\"" ++ (if t.kind = .email then "mailto:" else "") ++ escapeAddress t.url ++ "\"" ++
      titleAttribute t.title ++ ">")
  | .image t =>
    { w.put ("<img src=\"" ++ escapeAddress t.url ++ "\" alt=\"") with
      image := some (0, "\"" ++ titleAttribute t.title ++ " />") }
  | .footnoteDefinition label =>
    let (n, w) := w.number label
    w.putFresh ("<div class=\"footnote-definition\" id=\"" ++ Text.escapeHtml label ++
      "\"><sup class=\"footnote-definition-label\">" ++ toString n ++ "</sup>")

/-- Writes the end of a tag. -/
def finish (w : Writer) : TagEnd → Writer
  | .htmlBlock | .image => w
  | .paragraph => w.put "</p>\n"
  | .heading level => w.put ("</h" ++ toString level ++ ">\n")
  | .table => w.put "</tbody></table>\n"
  | .tableHead => { w.put "</tr></thead><tbody>\n" with inHead := false }
  | .tableRow => w.put "</tr>\n"
  | .tableCell => { w.put (if w.inHead then "</th>" else "</td>") with cell := w.cell + 1 }
  | .blockQuote => w.put "</blockquote>\n"
  | .codeBlock => w.put "</code></pre>\n"
  | .list true => w.put "</ol>\n"
  | .list false => w.put "</ul>\n"
  | .item => w.put "</li>\n"
  | .emphasis => w.put "</em>"
  | .strong => w.put "</strong>"
  | .strikethrough => w.put "</del>"
  | .link => w.put "</a>"
  | .footnoteDefinition => w.put "</div>\n"

/-- Writes an event. -/
def event (w : Writer) : Event → Writer
  | .start tag => w.start tag
  | .finish tag => w.finish tag
  | .text s =>
    { w with parts := escapeBody s :: w.parts, freshLine := s.endsWith "\n" }
  | .code s => w.put ("<code>" ++ escapeBody s ++ "</code>")
  | .inlineMath s => w.put ("<span class=\"math math-inline\">" ++ Text.escapeHtml s ++ "</span>")
  | .displayMath s => w.put ("<span class=\"math math-display\">" ++ Text.escapeHtml s ++ "</span>")
  | .html s | .inlineHtml s => w.put s
  | .softBreak => w.put "\n"
  | .hardBreak => w.put "<br />\n"
  | .rule => w.putFresh "<hr />\n"
  | .footnoteReference label =>
    let (n, w) := w.number label
    w.put ("<sup class=\"footnote-reference\"><a href=\"#" ++ Text.escapeHtml label ++ "\">" ++
      toString n ++ "</a></sup>")
  | .taskMarker true => w.put "<input disabled=\"\" type=\"checkbox\" checked=\"\"/>\n"
  | .taskMarker false => w.put "<input disabled=\"\" type=\"checkbox\"/>\n"

/-- Writes an event inside an image, `depth` tags deep; only its text counts. -/
def alternative (w : Writer) (depth : Nat) (closing : String) : Event → Writer
  | .start _ => { w with image := some (depth + 1, closing) }
  | .finish _ =>
    if depth = 0 then { w with image := none }.put closing
    else { w with image := some (depth - 1, closing) }
  | .html _ => w
  | .inlineHtml s | .code s | .text s => w.put (Text.escapeHtml s)
  | .inlineMath s => w.put ("$" ++ Text.escapeHtml s ++ "$")
  | .displayMath s => w.put ("$$" ++ Text.escapeHtml s ++ "$$")
  | .softBreak | .hardBreak | .rule => w.put " "
  | .footnoteReference label =>
    let (n, w) := w.number label
    w.put ("[" ++ toString n ++ "]")
  | .taskMarker checked => w.put (if checked then "[x]" else "[ ]")

/-- Writes an event where the writer stands. -/
def step (w : Writer) (e : Event) : Writer :=
  match w.image with
  | some (depth, closing) => w.alternative depth closing e
  | none => w.event e

/-- What has been written. -/
def output (w : Writer) : String := String.join w.parts.reverse

end Writer

/-- The events of a document as an HTML fragment. -/
def html (events : List Event) : String := (events.foldl Writer.step {}).output

end Folio.Markup
