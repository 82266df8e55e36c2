import Folio.Html.Allowed
import Folio.Html.Formula
import Folio.Html.Structure
import Folio.Html.Tree

/-! # Passes over a tree

The body of a page is finished inside its tree.  A pass lists the nodes that it is about before it
changes the first of them, and then takes them in document order; nodes that it has taken out of the
tree meanwhile are changed all the same, where nobody sees them.  `Tree.setMath` renders formulas,
`Tree.markInlineCode` turns code into marked text, `Tree.sanitize` removes what is not allowed, and
`Tree.withStructure` adds the structure of the page.  What formulas, cleaning and the structure make of what
is below the root is written on forests as well (`Forest.setMath`, `Forest.sanitize`,
`Forest.withStructure`). -/

namespace Folio.Html

open Folio.Outline

namespace Tree

/-- Whether a node is an element that satisfies `p`. -/
def isElementOf (t : Tree) (id : NodeId) (p : Element → Bool) : Bool := (t.element? id).any p

/-- The elements below a node that satisfy `p`, in document order. -/
def elementsBelow (t : Tree) (root : NodeId) (p : Element → Bool) : List NodeId :=
  (t.descendants root).filter (t.isElementOf · p)

/-! ### Math -/

/-- The paragraph that holds a node and otherwise blank texts only. -/
def soleParagraph? (t : Tree) (id : NodeId) : Option NodeId :=
  (t.parent? id).filter fun p =>
    t.isElement p "p" && (t.children p).all fun c => c == id || (t.text? c).any isBlankText

/-- Renders a formula: its content becomes its source in delimiters. -/
def setFormula (t : Tree) (id : NodeId) : Tree :=
  let source := t.textContent id
  let display := t.isElementOf id (·.hasClass displayMathClass)
  let emptied := (t.children id).foldl detach t
  let filled := emptied.appendText id (delimited display source)
  let labelled := filled.modifyElement id fun e => (e.setAttr "aria-label" source).addClass "math"
  if display then
    let block := labelled.rename id "div"
    match block.soleParagraph? id with
    | some p => block.unwrap p
    | none => block
  else labelled

/-- Renders every formula below a node. -/
def setMath (t : Tree) (root : NodeId) : Tree := (t.elementsBelow root isMath).foldl setFormula t

/-! ### Inline code -/

/-- Turns code into marked text, outside preformatted blocks and outside formulas. -/
def markCode (t : Tree) (id : NodeId) : Tree :=
  let inMath := (t.closestAncestor? id (·.hasClass "math")).isSome
  let inPre := (t.closestAncestor? id (·.tag == "pre")).isSome
  if inMath || inPre then t else t.modifyElement id inlineCodeMark

/-- Turns the code below a node into marked text. -/
def markInlineCode (t : Tree) (root : NodeId) : Tree :=
  (t.elementsBelow root isCode).foldl markCode t

end Tree

/-! ### Cleaning -/

/-- A tree that is being cleaned, with the count of what has been removed. -/
structure Cleaning where
  tree : Tree
  removed : Removed := {}
deriving DecidableEq, Repr

namespace Cleaning

/-- Takes a node out of the tree. -/
def drop (s : Cleaning) (id : NodeId) : Cleaning := { s with tree := s.tree.detach id }

/-- Replaces a node by its children. -/
def unwrap (s : Cleaning) (id : NodeId) : Cleaning := { s with tree := s.tree.unwrap id }

/-- Leaves an allowed element the attributes that stay. -/
def cleanAttrs (s : Cleaning) (id : NodeId) : Cleaning :=
  { s with tree := s.tree.modifyElement id cleanElement }

/-- Counts what has been removed. -/
def count (s : Cleaning) (r : Removed) : Cleaning := { s with removed := s.removed + r }

/-- Cleans a node with what is below it, down to a depth. -/
def node : Nat → Cleaning → NodeId → Cleaning
  | 0, s, _ => s
  | depth + 1, s, id =>
    match (s.tree.cell id).kind with
    | .text _ => s
    | .element e =>
      if allowsElement e then
        let s := (s.cleanAttrs id).count ⟨0, 0, (e.attrs.filter (!keepsAttr e ·)).length⟩
        (s.tree.children id).foldl (node depth) s
      else if dropsContent e then (s.drop id).count ⟨1, 0, 0⟩
      else (((s.tree.children id).foldl (node depth) s).unwrap id).count ⟨0, 1, 0⟩
    | .comment _ | .doctype | .document => s.drop id

end Cleaning

namespace Tree

/-- Cleans what is below a node. -/
def sanitize (t : Tree) (root : NodeId) : Cleaning :=
  (t.children root).foldl (Cleaning.node t.cells.size) ⟨t, {}⟩

/-! ### Structure -/

/-- The id of a heading, and the ids after it: its own, or the next one for its text. -/
def headingId (t : Tree) (ids : GivenIds) (heading : NodeId) : String × GivenIds :=
  match (t.element? heading).bind ownId? with
  | some id => (id, ids)
  | none => ids.issue (String.ofList (Text.trim (t.textContent heading).toList))

/-- Moves what a node holds into a new element, which is not in its place yet. -/
def moveIntoNew (t : Tree) (id : NodeId) (e : Element) : Tree :=
  (t.create (.element e)).moveChildren id t.cells.size

/-- Makes the anchor of a heading, which is not in its place yet. -/
def makeAnchor (t : Tree) (id : String) : Tree :=
  (t.create (.element (anchorElement id))).appendText t.cells.size "#"

/-- Puts a wrapper around what a heading holds, with an anchor at its end. -/
def wrapHeading (t : Tree) (heading : NodeId) (id : String) : Tree :=
  let wrapper := t.cells.size
  let moved := t.moveIntoNew heading headingWrapper
  let anchor := moved.cells.size
  ((moved.makeAnchor id).append wrapper anchor).append heading wrapper

/-- Gives a heading its id and its anchor. -/
def anchorHeading (s : Tree × GivenIds) (heading : NodeId) : Tree × GivenIds :=
  let (id, ids) := s.1.headingId s.2 heading
  ((s.1.modifyElement heading (identified · id)).wrapHeading heading id, ids)

/-- Gives the headings below a node ids and anchors; every id that a heading has is taken first. -/
def identifyHeadings (t : Tree) (root : NodeId) (registry : SlugRegistry) : Tree :=
  let headings := t.elementsBelow root isListedHeading
  let owned := headings.filterMap fun id => (t.element? id).bind ownId?
  (headings.foldl anchorHeading (t, owned.foldl GivenIds.hold (GivenIds.start registry))).1

/-- Changes every element below a node that satisfies `p`. -/
def modifyBelow (t : Tree) (root : NodeId) (p : Element → Bool) (f : Element → Element) : Tree :=
  (t.elementsBelow root p).foldl (fun t id => t.modifyElement id f) t

/-- An item of a list gets its classes. -/
def classifyItem (t : Tree) (id : NodeId) : Tree :=
  let item := t.modifyElement id (·.addClass "list-item")
  if (item.children id).any (item.isElementOf · isTaskBox) then
    item.modifyElement id (·.addClass "task-list-item")
  else item

/-- Lists and their items below a node get classes. -/
def classifyLists (t : Tree) (root : NodeId) : Tree :=
  let bulleted := t.modifyBelow root (·.tag == "ul") (·.addClass "list-disc")
  let numbered := bulleted.modifyBelow root (·.tag == "ol") (·.addClass "list-decimal")
  (numbered.elementsBelow root (·.tag == "li")).foldl classifyItem numbered

/-- Wraps a block unless its parent is a wrapper. -/
def frameBlock (cls : String) (t : Tree) (id : NodeId) : Tree :=
  if (t.parent? id).any (t.isElementOf · (isWrapper cls)) then t
  else (t.create (.element (blockWrapper cls))).wrap id t.cells.size

/-- Wraps the elements of a tag below a node. -/
def frameBlocks (t : Tree) (root : NodeId) (tag cls : String) : Tree :=
  (t.elementsBelow root (·.tag == tag)).foldl (frameBlock cls) t

/-- Adds the structure of the page below a node. -/
def withStructure (t : Tree) (root : NodeId) (registry : SlugRegistry) : Tree :=
  let linked := (t.identifyHeadings root registry).modifyBelow root (·.tag == "a") markInternalLink
  ((linked.classifyLists root).frameBlocks root "pre" "code-block").frameBlocks
    root "table" "table-wrapper"

/-- Finishes what is below a node. -/
def finish (t : Tree) (root : NodeId) (registry : SlugRegistry) : Tree :=
  (((t.setMath root).markInlineCode root).sanitize root).tree.withStructure root registry

end Tree

end Folio.Html
