/-! # Markup events

A markdown document is read into a flat list of events: blocks and spans open with `Event.start` and
close with `Event.finish`, and text, code, math and raw HTML stand between them. -/

namespace Folio.Markup

/-- Where a code block comes from. -/
inductive CodeKind where
  | indented
  | fenced (info : String)
deriving DecidableEq, Repr

/-- How a link was written. -/
inductive LinkKind where
  | inline
  | reference
  | collapsed
  | shortcut
  | autolink
  | email
deriving DecidableEq, Repr

/-- The alignment of a table column. -/
inductive Alignment where
  | none
  | left
  | center
  | right
deriving DecidableEq, Repr

/-- A link or an image. -/
structure LinkTarget where
  kind : LinkKind
  url : String
  title : String
  id : String
deriving DecidableEq, Repr

/-- What the start of a heading carries. -/
structure HeadingTag where
  level : Nat
  id : Option String
  classes : List String
  attrs : List (String × Option String)
deriving DecidableEq, Repr

/-- What opens. -/
inductive Tag where
  | paragraph
  | heading (tag : HeadingTag)
  | blockQuote
  | codeBlock (kind : CodeKind)
  | htmlBlock
  | list (first : Option Nat)
  | item
  | footnoteDefinition (label : String)
  | table (columns : List Alignment)
  | tableHead
  | tableRow
  | tableCell
  | emphasis
  | strong
  | strikethrough
  | link (target : LinkTarget)
  | image (target : LinkTarget)
deriving DecidableEq, Repr

/-- What closes. -/
inductive TagEnd where
  | paragraph
  | heading (level : Nat)
  | blockQuote
  | codeBlock
  | htmlBlock
  | list (ordered : Bool)
  | item
  | footnoteDefinition
  | table
  | tableHead
  | tableRow
  | tableCell
  | emphasis
  | strong
  | strikethrough
  | link
  | image
deriving DecidableEq, Repr

/-- The end that belongs to a start. -/
def Tag.closing : Tag → TagEnd
  | .paragraph => .paragraph
  | .heading h => .heading h.level
  | .blockQuote => .blockQuote
  | .codeBlock _ => .codeBlock
  | .htmlBlock => .htmlBlock
  | .list first => .list first.isSome
  | .item => .item
  | .footnoteDefinition _ => .footnoteDefinition
  | .table _ => .table
  | .tableHead => .tableHead
  | .tableRow => .tableRow
  | .tableCell => .tableCell
  | .emphasis => .emphasis
  | .strong => .strong
  | .strikethrough => .strikethrough
  | .link _ => .link
  | .image _ => .image

/-- One step of a document. -/
inductive Event where
  | start (tag : Tag)
  | finish (tag : TagEnd)
  | text (s : String)
  | code (s : String)
  | inlineMath (s : String)
  | displayMath (s : String)
  | html (s : String)
  | inlineHtml (s : String)
  | footnoteReference (label : String)
  | softBreak
  | hardBreak
  | rule
  | taskMarker (checked : Bool)
deriving DecidableEq, Repr

end Folio.Markup
