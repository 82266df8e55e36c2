import Folio.Html.Token
import Folio.Html.Tree
import Folio.Html.Vocabulary

/-! # The state of document construction

A `Builder` grows a tree token by token.  It keeps the stack of open elements, the inline elements that
are to be opened again after a block (`formatting`), and the rules that are in force (`Mode`).  This
module has the operations on that state; which of them a token asks for is laid down in the modules
after it. -/

namespace Folio.Html

/-- The rules in force. -/
inductive Mode where
  | inBody
  | text
  | inTable
  | inTableText
  | inCaption
  | inColumnGroup
  | inTableBody
  | inRow
  | inCell
  | inTemplate
  | afterBody
  | afterDocument
deriving DecidableEq, Repr

/-- An entry in the list of formatting elements: an element with the tag that made it, or a mark beyond
which nothing is opened again. -/
inductive Formatting where
  | mark
  | element (id : NodeId) (tag : TagToken)
deriving DecidableEq, Repr

/-- The node of an entry. -/
def Formatting.id? : Formatting → Option NodeId
  | mark => none
  | element id _ => some id

/-- The state of construction; the stack of open elements has the innermost first, and the list of
formatting elements the latest. -/
structure Builder where
  tree : Tree
  openElements : List NodeId
  formatting : List Formatting := []
  mode : Mode := .inBody
  returnMode : Mode := .inBody
  templateModes : List Mode := []
  pendingText : List (List Char) := []
  form : Option NodeId := none
  skipLineFeed : Bool := false
  fostering : Bool := false
  textMode : TextMode := .markup

namespace Builder

/-! ### Open elements -/

/-- The name of a node; one that is no element has none. -/
def nameOf (b : Builder) (id : NodeId) : Name :=
  match b.tree.element? id with
  | some e => e.name
  | none => (.other, "")

/-- The innermost open element. -/
def current (b : Builder) : NodeId := b.openElements.headD Tree.document

/-- The name of the innermost open element. -/
def currentName (b : Builder) : Name := b.nameOf b.current

/-- Whether the innermost open element is one of some HTML tags. -/
def currentIs (b : Builder) (tags : List String) : Bool := isHtmlOf tags b.currentName

/-- Whether an open element is of an HTML tag. -/
def hasOpen (b : Builder) (tag : String) : Bool :=
  b.openElements.any fun id => isHtmlOf [tag] (b.nameOf id)

/-- Whether an open element satisfies `p` before anything bounds the scope. -/
def inScopeWhere (b : Builder) (s : Scope) (p : NodeId → Bool) : Bool :=
  go b.openElements
where
  /-- Looks through open elements. -/
  go : List NodeId → Bool
    | [] => false
    | id :: rest => p id || (!s.bounds (b.nameOf id) && go rest)

/-- Whether an open element of some HTML tags is in scope. -/
def inScope (b : Builder) (s : Scope) (tags : List String) : Bool :=
  b.inScopeWhere s fun id => isHtmlOf tags (b.nameOf id)

/-- Closes the innermost element. -/
def pop (b : Builder) : Builder := { b with openElements := b.openElements.tail }

/-- Closes elements while they satisfy `p`. -/
def popWhile (b : Builder) (p : Name → Bool) : Builder :=
  { b with openElements := b.openElements.dropWhile fun id => p (b.nameOf id) }

/-- Closes elements up to and with the first of some HTML tags. -/
def popThrough (b : Builder) (tags : List String) : Builder :=
  (b.popWhile fun n => !isHtmlOf tags n).pop

/-- Closes elements up to the first of some HTML tags, the root at the latest. -/
def popTo (b : Builder) (tags : List String) : Builder :=
  b.popWhile fun n => !isHtmlOf ("html" :: "template" :: tags) n

/-- Closes the elements whose end tag may be left out, up to one of a tag. -/
def closeImplied (b : Builder) (except : String := "") : Builder :=
  b.popWhile fun n => n.2 != except && isHtmlOf impliedEnds n

/-- Takes an element out of the stack, wherever it is. -/
def removeOpen (b : Builder) (id : NodeId) : Builder :=
  { b with openElements := b.openElements.filter (· ≠ id) }

/-! ### Putting nodes in place -/

/-- Where a node goes: at the end of a parent, or in front of a sibling. -/
inductive Place where
  | atEnd (parent : NodeId)
  | before (sibling : NodeId)
deriving DecidableEq, Repr

/-- The place next to the innermost open table, given the open elements from the inside. -/
def fosterPlace (b : Builder) : List NodeId → Place
  | [] => .atEnd Tree.document
  | [root] => .atEnd root
  | id :: outer :: rest =>
    if isHtmlOf ["template"] (b.nameOf id) then .atEnd id
    else if isHtmlOf ["table"] (b.nameOf id) then
      if (b.tree.parent? id).isSome then .before id else .atEnd outer
    else b.fosterPlace (outer :: rest)

/-- Where a node goes that belongs into an element. -/
def placeIn (b : Builder) (target : NodeId) : Place :=
  if b.fostering && isHtmlOf fosterTags (b.nameOf target) then b.fosterPlace b.openElements
  else .atEnd target

/-- Puts a node in its place. -/
def putNode (b : Builder) (place : Place) (id : NodeId) : Builder :=
  { b with tree := match place with
    | .atEnd parent => b.tree.append parent id
    | .before sibling => b.tree.insertBefore sibling id }

/-- Adds text where it belongs. -/
def addText (b : Builder) (cs : List Char) : Builder :=
  let s := String.ofList cs
  match b.placeIn b.current with
  | .atEnd parent => { b with tree := b.tree.appendText parent s }
  | .before sibling =>
    { b with tree := (b.tree.create (.text s)).insertBefore sibling b.tree.cells.size }

/-- Adds a comment in a given element. -/
def addCommentIn (b : Builder) (parent : NodeId) (s : String) : Builder :=
  { b with tree := (b.tree.create (.comment s)).append parent b.tree.cells.size }

/-- Adds a comment where it belongs. -/
def addComment (b : Builder) (s : String) : Builder :=
  let id := b.tree.cells.size
  { b with tree := b.tree.create (.comment s) }.putNode (b.placeIn b.current) id

/-- Makes an element without a place. -/
def make (b : Builder) (e : Element) : Builder × NodeId :=
  ({ b with tree := b.tree.create (.element e) }, b.tree.cells.size)

/-- Adds an element where it belongs and answers it. -/
def insertElement (b : Builder) (e : Element) : Builder × NodeId :=
  let place := b.placeIn b.current
  let (b, id) := b.make e
  (b.putNode place id, id)

/-- Adds an element and opens it. -/
def openElement (b : Builder) (e : Element) : Builder :=
  let (b, id) := b.insertElement e
  { b with openElements := id :: b.openElements }

/-- The HTML element of a tag. -/
def elementOf (t : TagToken) : Element := ⟨.html, t.name, t.attrs⟩

/-- Adds the element of a tag and opens it. -/
def openTag (b : Builder) (t : TagToken) : Builder := b.openElement (elementOf t)

/-- Adds the element of a tag without opening it. -/
def addTag (b : Builder) (t : TagToken) : Builder := (b.insertElement (elementOf t)).1

/-- Opens an element of a tag without attributes. -/
def openPhantom (b : Builder) (tag : String) : Builder := b.openElement (Element.ofHtml tag)

/-- Opens the element of a tag whose content is read in a mode of its own. -/
def openLiteral (b : Builder) (t : TagToken) (textMode : TextMode) : Builder :=
  let b := b.openTag t
  { b with returnMode := b.mode, mode := .text, textMode }

/-- Adds the attributes that an element does not have. -/
def addMissingAttrs (b : Builder) (id : NodeId) (attrs : List Attr) : Builder :=
  let add (known : List Attr) (a : Attr) : List Attr :=
    if known.any (·.name == a.name) then known else known ++ [a]
  { b with tree := b.tree.modifyElement id fun e => { e with attrs := attrs.foldl add e.attrs } }

/-- Closes an open paragraph. -/
def closeParagraph (b : Builder) : Builder := (b.closeImplied "p").popThrough ["p"]

/-- Closes a paragraph that a block would stand in. -/
def closeParagraphInScope (b : Builder) : Builder :=
  if b.inScope .button ["p"] then b.closeParagraph else b

/-! ### Formatting elements -/

/-- The entries after the last mark, the latest first. -/
def recentFormatting (b : Builder) : List Formatting := b.formatting.takeWhile (· ≠ .mark)

/-- The latest formatting element of a tag after the last mark. -/
def formattingElement? (b : Builder) (tag : String) : Option (NodeId × TagToken) :=
  b.recentFormatting.findSome? fun
    | .element id t => if t.name == tag then some (id, t) else none
    | .mark => none

/-- Whether a node is in the list of formatting elements. -/
def isFormatting (b : Builder) (id : NodeId) : Bool := b.formatting.any (·.id? == some id)

/-- Takes a node out of the list of formatting elements. -/
def removeFormatting (b : Builder) (id : NodeId) : Builder :=
  { b with formatting := b.formatting.filter (·.id? ≠ some id) }

/-- Puts an entry in the place of a node's. -/
def replaceFormatting (b : Builder) (id : NodeId) (f : Formatting) : Builder :=
  { b with formatting := b.formatting.map fun g => if g.id? = some id then f else g }

/-- Puts an entry directly after a node's. -/
def insertFormattingAfter (b : Builder) (id : NodeId) (f : Formatting) : Builder :=
  { b with formatting := b.formatting.flatMap fun g => if g.id? = some id then [f, g] else [g] }

/-- Begins a part of the document into which no formatting reaches. -/
def pushMark (b : Builder) : Builder := { b with formatting := .mark :: b.formatting }

/-- Forgets the formatting elements up to the last mark. -/
def clearToMark (b : Builder) : Builder :=
  { b with formatting := (b.formatting.dropWhile (· ≠ .mark)).drop 1 }

/-- Whether two tags have the same name and the same attributes in any order. -/
def sameTag (a b : TagToken) : Bool :=
  a.name == b.name && a.attrs.length == b.attrs.length && a.attrs.all (b.attrs.contains ·)

/-- Opens a formatting element; of four equal ones the earliest is forgotten. -/
def openFormatting (b : Builder) (t : TagToken) : Builder :=
  let equal := b.recentFormatting.filterMap fun
    | .element id u => if sameTag t u then some id else none
    | .mark => none
  let b := match equal[2]? with
    | some _ => b.removeFormatting (equal.getLast?.getD 0)
    | none => b
  let id := b.tree.cells.size
  let b := b.openTag t
  { b with formatting := .element id t :: b.formatting }

/-- Opens formatting elements again, the earliest first; answers their new entries, the latest first. -/
def reopen (b : Builder) : List Formatting → Builder × List Formatting
  | [] => (b, [])
  | .mark :: rest => b.reopen rest
  | .element _ t :: rest =>
    let (b, done) := b.reopen rest
    let id := b.tree.cells.size
    (b.openTag t, .element id t :: done)

/-- Opens the formatting elements again that a block has interrupted. -/
def reconstruct (b : Builder) : Builder :=
  let closed := b.formatting.takeWhile fun f =>
    match f.id? with
    | some id => !b.openElements.contains id
    | none => false
  let (b, fresh) := b.reopen closed
  { b with formatting := fresh ++ b.formatting.drop closed.length }

/-! ### End tags -/

/-- Closes the nearest element of a tag, unless a special element stands before it. -/
def closeAny (b : Builder) (tag : String) : Builder :=
  let stopped := b.openElements.dropWhile fun id =>
    !isHtmlOf [tag] (b.nameOf id) && !isHtmlOf specialTags (b.nameOf id)
  match stopped with
  | [] => b
  | id :: _ =>
    if isHtmlOf [tag] (b.nameOf id) then
      let b := b.closeImplied tag
      { b with openElements := (b.openElements.dropWhile (· ≠ id)).tail }
    else b

/-- Moves the elements between a formatting element and the block inside it into the block's place: each
is made anew around what has been moved so far, but for those beyond the third and those that are no
formatting.  `between` are these elements from the inside, `last` is what has been moved, and `mark` is
the node after which the new formatting element is listed. -/
def moveOut (b : Builder) (count : Nat) (last : NodeId) (mark : Option NodeId) :
    List NodeId → Builder × NodeId × Option NodeId
  | [] => (b, last, mark)
  | node :: rest =>
    let listed := b.formatting.findSome? fun
      | .element id t => if id == node then some t else none
      | .mark => none
    match listed with
    | some t =>
      if 3 ≤ count then
        ((b.removeFormatting node).removeOpen node).moveOut (count + 1) last mark rest
      else
        let (b, fresh) := b.make (elementOf t)
        let b := b.replaceFormatting node (.element fresh t)
        let b := { b with
          openElements := b.openElements.map fun id => if id = node then fresh else id
          tree := b.tree.append fresh last }
        b.moveOut (count + 1) fresh (some (mark.getD fresh)) rest
    | none => (b.removeOpen node).moveOut (count + 1) last mark rest

/-- One round of closing a formatting element across blocks; answers whether to go on. -/
def adoptOnce (b : Builder) (tag : String) : Builder × Bool :=
  match b.formattingElement? tag with
  | none => (b.closeAny tag, false)
  | some (target, t) =>
    if !b.openElements.contains target then (b.removeFormatting target, false)
    else if !b.inScopeWhere .general (· == target) then (b, false)
    else
      let inside := b.openElements.takeWhile (· ≠ target)
      let outside := (b.openElements.dropWhile (· ≠ target)).tail
      match inside.reverse.find? fun id => isHtmlOf specialTags (b.nameOf id) with
      | none => ({ b with openElements := outside }.removeFormatting target, false)
      | some block =>
        let between := (inside.dropWhile (· ≠ block)).tail
        let (b, last, mark) := b.moveOut 0 block none between
        let b := { b with tree := b.tree.detach last }
        let b := b.putNode (b.placeIn (outside.headD Tree.document)) last
        let (b, fresh) := b.make (elementOf t)
        let b := { b with tree := (b.tree.moveChildren block fresh).append block fresh }
        let entry := Formatting.element fresh t
        let b := match mark with
          | none => b.replaceFormatting target entry
          | some id => (b.insertFormattingAfter id entry).removeFormatting target
        let b := b.removeOpen target
        ({ b with openElements := b.openElements.flatMap fun id =>
            if id = block then [fresh, id] else [id] }, true)

/-- Rounds of closing a formatting element. -/
def adoptRounds (b : Builder) (tag : String) : Nat → Builder
  | 0 => b
  | rounds + 1 =>
    match b.adoptOnce tag with
    | (b, true) => b.adoptRounds tag rounds
    | (b, false) => b

/-- Closes a formatting element, also where blocks have been opened inside it. -/
def adopt (b : Builder) (tag : String) : Builder :=
  if isHtmlOf [tag] b.currentName && !b.isFormatting b.current then b.pop
  else b.adoptRounds tag 8

/-- A link ends the link that is open. -/
def closeOpenLink (b : Builder) : Builder :=
  match b.formattingElement? "a" with
  | some (id, _) => ((b.adopt "a").removeFormatting id).removeOpen id
  | none => b

/-! ### Modes -/

/-- The mode that an open element asks for. -/
def modeFor? (b : Builder) (id : NodeId) : Option Mode :=
  match b.nameOf id with
  | (.html, tag) =>
    match tag with
    | "td" | "th" => some .inCell
    | "tr" => some .inRow
    | "tbody" | "thead" | "tfoot" => some .inTableBody
    | "caption" => some .inCaption
    | "colgroup" => some .inColumnGroup
    | "table" => some .inTable
    | "template" => b.templateModes.head?
    | "body" | "html" => some .inBody
    | _ => none
  | _ => none

/-- Goes back to the mode that the open elements ask for. -/
def resetMode (b : Builder) : Builder :=
  { b with mode := (b.openElements.findSome? b.modeFor?).getD .inBody }

/-- Closes a template and everything in it. -/
def closeTemplate (b : Builder) : Builder :=
  if b.hasOpen "template" then
    let b := (b.popWhile (isHtmlOf allImpliedEnds)).popThrough ["template"]
    { b.clearToMark with templateModes := b.templateModes.tail }.resetMode
  else b

/-- Closes an open table cell. -/
def closeCell (b : Builder) : Builder :=
  { (b.closeImplied.popThrough ["td", "th"]).clearToMark with mode := .inRow }

end Builder

end Folio.Html
