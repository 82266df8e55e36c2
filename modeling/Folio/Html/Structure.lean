import Folio.Html.Forest
import Folio.Outline.Contents

/-! # Structure of the page

Inline code becomes marked text (`inlineCodeMark`).  Then headings get ids and anchors, links
inside the site, lists and their items get classes, and code blocks and tables get wrappers
(`Forest.withStructure`). -/

namespace Folio.Html

open Folio.Outline

/-! ### Inline code -/

/-- A code element as marked text. -/
def inlineCodeMark (e : Element) : Element :=
  (({ e with tag := "mark" }).removeAttr "class").addClass "inline-code"

/-- Whether an element is code. -/
def isCode (e : Element) : Bool := e.tag == "code"

/-! ### Headings -/

/-- The number that a text writes in decimal, a plus sign in front allowed, if it fits one byte. -/
def byteNumber? (cs : List Char) : Option Nat :=
  let digits := if cs.head? = some '+' then cs.drop 1 else cs
  if digits.isEmpty || !digits.all Char.isDigit then none
  else
    let n := digits.foldl (fun n c => 10 * n + (c.toNat - '0'.toNat)) 0
    if n < 256 then some n else none

/-- The level of a heading that gets an anchor. -/
def listedLevel? (e : Element) : Option Nat :=
  match e.tag.toList with
  | 'h' :: rest => (byteNumber? rest).filter isListed
  | _ => none

/-- Whether an element is a heading that gets an anchor. -/
def isListedHeading (e : Element) : Bool := (listedLevel? e).isSome

/-- The id that an element has, if it is not empty. -/
def ownId? (e : Element) : Option String := (e.attr? "id").filter (· ≠ "")

/-- The anchor inside a heading. -/
def anchorElement (id : String) : Element :=
  .ofHtml "a"
    [("class", "heading-anchor"), ("href", "#" ++ id), ("aria-label", "Copy link to heading")]

/-- The anchor inside a heading, with its text. -/
def headingAnchor (id : String) : Forest := .element (anchorElement id) (.text "#" .nil) .nil

/-- The wrapper of what a heading holds. -/
def headingWrapper : Element := .ofHtml "span" [("class", "heading-wrapper")]

/-- The id of a heading, and the ids after it: its own, or the next one for its text. -/
def headingId (ids : GivenIds) (e : Element) (children : Forest) : String × GivenIds :=
  match ownId? e with
  | some id => (id, ids)
  | none => ids.issue (String.ofList (Text.trim children.textChars))

/-- A heading with its id. -/
def identified (e : Element) (id : String) : Element :=
  if (ownId? e).isSome then e else e.setAttr "id" id

namespace Forest

/-- Gives headings ids and anchors, in document order. -/
def anchorHeadings (ids : GivenIds) : Forest → Forest × GivenIds
  | nil => (nil, ids)
  | text s next =>
    let (next, ids) := next.anchorHeadings ids
    (text s next, ids)
  | comment s next =>
    let (next, ids) := next.anchorHeadings ids
    (comment s next, ids)
  | doctype next =>
    let (next, ids) := next.anchorHeadings ids
    (doctype next, ids)
  | element e children next =>
    if isListedHeading e then
      let (id, ids) := headingId ids e children
      let (inner, ids) := children.anchorHeadings ids
      let (next, ids) := next.anchorHeadings ids
      (element (identified e id) (element headingWrapper (inner ++ headingAnchor id) nil) next, ids)
    else
      let (children, ids) := children.anchorHeadings ids
      let (next, ids) := next.anchorHeadings ids
      (element e children next, ids)

/-- The ids that headings have already. -/
def headingIds (f : Forest) : List String := (f.elements.filter isListedHeading).filterMap ownId?

/-- Gives headings ids and anchors; every id that a heading has is taken first. -/
def identifyHeadings (registry : SlugRegistry) (f : Forest) : Forest :=
  (f.anchorHeadings (f.headingIds.foldl GivenIds.hold (GivenIds.start registry))).1

end Forest

/-! ### Links, lists and blocks -/

/-- Whether an address stays inside the site. -/
def isInternalUrl (url : String) : Bool :=
  "/".toList.isPrefixOf url.toList && !"//".toList.isPrefixOf url.toList

/-- A link inside the site gets a class. -/
def markInternalLink (e : Element) : Element :=
  if e.tag = "a" ∧ (e.attr? "href").any isInternalUrl then e.addClass "internal-link" else e

/-- Whether an element is the check box of a task. -/
def isTaskBox (e : Element) : Bool := e.tag == "input" && e.attr? "type" == some "checkbox"

/-- An item of a list gets its classes, one more if it is a task. -/
def classifyListItem (e : Element) (children : Forest) : Element :=
  let item := e.addClass "list-item"
  if children.anyTop isTaskBox then item.addClass "task-list-item" else item

/-- Lists and their items get classes. -/
def classifyList (e : Element) (children : Forest) : Element :=
  if e.tag = "ul" then e.addClass "list-disc"
  else if e.tag = "ol" then e.addClass "list-decimal"
  else if e.tag = "li" then classifyListItem e children
  else e

/-- Whether an element wraps blocks of a class. -/
def isWrapper (cls : String) (e : Element) : Bool := e.tag == "div" && e.hasClass cls

/-- A wrapper of blocks of a class. -/
def blockWrapper (cls : String) : Element := .ofHtml "div" [("class", cls)]

namespace Forest

/-- Wraps the elements of a tag that are not wrapped yet, `wrapped` telling whether the forest itself
is inside a wrapper. -/
def frameBlocks (tag cls : String) (wrapped : Bool) : Forest → Forest
  | nil => nil
  | text s next => text s (next.frameBlocks tag cls wrapped)
  | comment s next => comment s (next.frameBlocks tag cls wrapped)
  | doctype next => doctype (next.frameBlocks tag cls wrapped)
  | element e children next =>
    let inner := children.frameBlocks tag cls (isWrapper cls e)
    let after := next.frameBlocks tag cls wrapped
    if e.tag = tag ∧ !wrapped then
      element (blockWrapper cls) (element e inner nil) after
    else element e inner after

/-- The finished structure of a page, `wrapped` telling of which classes the forest itself is inside a
wrapper. -/
def withStructure (registry : SlugRegistry) (f : Forest) (wrapped : String → Bool := fun _ => false) :
    Forest :=
  let linked := (f.identifyHeadings registry).mapElements fun e _ => markInternalLink e
  let framed := (linked.mapElements classifyList).frameBlocks "pre" "code-block" (wrapped "code-block")
  framed.frameBlocks "table" "table-wrapper" (wrapped "table-wrapper")

end Forest

end Folio.Html
