import Folio.Markup.Prose

/-! # Blocks

A document is a forest of blocks: leaves hold prose, code, HTML or a table, and quotations, lists, items
and footnote definitions hold other blocks.  `Blocks.events` writes the forest down as events.  The
paragraphs of a tight list stand without tags. -/

namespace Folio.Markup

/-- A block that holds no other block. -/
inductive Leaf where
  | paragraph (tight : Bool) (task : Option Bool) (prose : Prose)
  | task (checked : Bool)
  | heading (tag : HeadingTag) (prose : Prose)
  | rule
  | code (kind : CodeKind) (texts : List String)
  | html (lines : List Event)
  | table (columns : List Alignment) (head : List Prose) (rows : List (List Prose))
deriving DecidableEq, Repr

/-- Blocks one after the other. -/
inductive Blocks where
  | nil
  | leaf (l : Leaf) (next : Blocks)
  | within (tag : Tag) (inner next : Blocks)
deriving DecidableEq, Repr

/-- Events inside a tag. -/
def enclose (tag : Tag) (es : List Event) : List Event := .start tag :: es ++ [.finish tag.closing]

/-- The events of a table row. -/
def rowEvents (tag : Tag) (read : Prose → List Event) (cells : List Prose) : List Event :=
  enclose tag (cells.flatMap fun cell => enclose .tableCell (read cell))

/-- The mark of a task as events. -/
def taskEvents : Option Bool → List Event
  | some checked => [.taskMarker checked]
  | none => []

/-- The events of a leaf. -/
def Leaf.events (read : Prose → List Event) : Leaf → List Event
  | .paragraph true mark prose => taskEvents mark ++ read prose
  | .paragraph false mark prose => enclose .paragraph (taskEvents mark ++ read prose)
  | .task checked => [.taskMarker checked]
  | .heading tag prose => enclose (.heading tag) (read prose)
  | .rule => [.rule]
  | .code kind texts => enclose (.codeBlock kind) (texts.map .text)
  | .html lines => enclose .htmlBlock lines
  | .table columns head rows =>
    enclose (.table columns) (rowEvents .tableHead read head ++ rows.flatMap (rowEvents .tableRow read))

namespace Blocks

/-- The events of a forest of blocks. -/
def events (read : Prose → List Event) : Blocks → List Event
  | nil => []
  | leaf l next => l.events read ++ next.events read
  | within tag inner next => enclose tag (inner.events read) ++ next.events read

/-- Makes the paragraphs on the top level tight. -/
def tighten : Blocks → Blocks
  | nil => nil
  | leaf l next =>
    leaf (match l with
      | .paragraph _ mark prose => .paragraph true mark prose
      | l => l) next.tighten
  | within tag inner next => within tag inner next.tighten

/-- Makes the paragraphs directly inside the items of a list tight. -/
def tightenItems : Blocks → Blocks
  | nil => nil
  | leaf l next => leaf l next.tightenItems
  | within tag inner next =>
    within tag (if tag = .item then inner.tighten else inner) next.tightenItems

end Blocks

end Folio.Markup
