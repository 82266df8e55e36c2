import Folio.Html.Printer

/-! # Trees under construction

While HTML is read, nodes move: they are appended, detached, put before a sibling, wrapped and
unwrapped.  A `Tree` keeps all nodes ever made in one array, each with a link to its parent and the
list of its children, and node 0 is the document.  `Tree.Linked` says that the two directions of
links agree, and `Tree.WellFormed` also which nodes may hold which.  `Tree.forest` reads off the nodes
below a node, and `Edit` gathers what can be done. -/

namespace Folio.Html

/-- The place of a node in its tree. -/
abbrev NodeId := Nat

/-- What a node is. -/
inductive NodeKind where
  | document
  | element (e : Element)
  | text (s : String)
  | comment (s : String)
  | doctype
deriving DecidableEq, Repr

/-- Whether a node can hold others. -/
def NodeKind.holds : NodeKind → Bool
  | .document | .element _ => true
  | .text _ | .comment _ | .doctype => false

/-- A node with its links. -/
structure Cell where
  kind : NodeKind
  parent : Option NodeId := none
  children : List NodeId := []
deriving DecidableEq, Repr

instance : Inhabited Cell := ⟨⟨.document, none, []⟩⟩

/-- Every node ever made. -/
structure Tree where
  cells : Array Cell
deriving DecidableEq, Repr

namespace Tree

/-- The tree that holds nothing but the document. -/
def empty : Tree := ⟨(Array.empty : Array Cell).push ⟨.document, none, []⟩⟩

instance : Inhabited Tree := ⟨empty⟩

/-- The document. -/
def document : NodeId := 0

/-! ### Looking -/

/-- A node; outside the tree there are only empty documents. -/
def cell (t : Tree) (id : NodeId) : Cell := t.cells.getD id default

/-- The parent of a node. -/
def parent? (t : Tree) (id : NodeId) : Option NodeId := (t.cell id).parent

/-- The children of a node, in order. -/
def children (t : Tree) (id : NodeId) : List NodeId := (t.cell id).children

/-- The element that a node is. -/
def element? (t : Tree) (id : NodeId) : Option Element :=
  match (t.cell id).kind with
  | .element e => some e
  | _ => none

/-- The tag of a node. -/
def tag? (t : Tree) (id : NodeId) : Option String := (t.element? id).map (·.tag)

/-- Whether a node is an element of a tag. -/
def isElement (t : Tree) (id : NodeId) (tag : String) : Bool := t.tag? id == some tag

/-- The text of a text node. -/
def text? (t : Tree) (id : NodeId) : Option String :=
  match (t.cell id).kind with
  | .text s => some s
  | _ => none

/-! ### Changing -/

/-- Changes one node. -/
def modify (t : Tree) (id : NodeId) (f : Cell → Cell) : Tree := ⟨t.cells.modify id f⟩

/-- Adds a node without a parent; its place is the former size of the tree. -/
def create (t : Tree) (kind : NodeKind) : Tree := ⟨t.cells.push ⟨kind, none, []⟩⟩

/-- Changes the element that a node is. -/
def modifyElement (t : Tree) (id : NodeId) (f : Element → Element) : Tree :=
  t.modify id fun c =>
    match c.kind with
    | .element e => { c with kind := .element (f e) }
    | _ => c

/-- Gives a node a parent, or none. -/
def setParent (t : Tree) (id : NodeId) (parent : Option NodeId) : Tree :=
  t.modify id fun c => { c with parent := parent }

/-- Changes the children of a node. -/
def modifyChildren (t : Tree) (id : NodeId) (f : List NodeId → List NodeId) : Tree :=
  t.modify id fun c => { c with children := f c.children }

/-- Takes a node out of its parent. -/
def detach (t : Tree) (id : NodeId) : Tree :=
  match t.parent? id with
  | none => t
  | some p => (t.setParent id none).modifyChildren p (·.filter (· ≠ id))

/-- Makes a node the last child of another. -/
def append (t : Tree) (parent child : NodeId) : Tree :=
  ((t.detach child).setParent child (some parent)).modifyChildren parent (· ++ [child])

/-- Adds text at the end of a node: to its last child if that is a text, else as a new node. -/
def appendText (t : Tree) (parent : NodeId) (s : String) : Tree :=
  match (t.children parent).getLast? with
  | some last =>
    match t.text? last with
    | some old => t.modify last fun c => { c with kind := .text (old ++ s) }
    | none => (t.create (.text s)).append parent t.cells.size
  | none => (t.create (.text s)).append parent t.cells.size

/-- Puts a node in front of another, at the end if that is not there. -/
def insertAt (sibling child : NodeId) (children : List NodeId) : List NodeId :=
  children.takeWhile (· ≠ sibling) ++ child :: children.dropWhile (· ≠ sibling)

/-- Puts a node directly before a sibling that has a parent. -/
def insertBefore (t : Tree) (sibling child : NodeId) : Tree :=
  match t.parent? sibling with
  | none => t
  | some p =>
    ((t.detach child).setParent child (some p)).modifyChildren p (insertAt sibling child)

/-- Gives every child of a node to the end of another. -/
def moveChildren (t : Tree) (source target : NodeId) : Tree :=
  let moved := t.children source
  let emptied := t.modifyChildren source fun _ => []
  (moved.foldl (fun t c => t.setParent c (some target)) emptied).modifyChildren target (· ++ moved)

/-- The children of a node put in its place in a list. -/
def spliceAt (id : NodeId) (inner children : List NodeId) : List NodeId :=
  children.takeWhile (· ≠ id) ++ inner ++ (children.dropWhile (· ≠ id)).drop 1

/-- Replaces a node by its children. -/
def unwrap (t : Tree) (id : NodeId) : Tree :=
  match t.parent? id with
  | none => t
  | some p =>
    if (t.children p).contains id then
      let inner := t.children id
      let emptied := t.modifyChildren id fun _ => []
      ((inner.foldl (fun t c => t.setParent c (some p)) emptied).modifyChildren p
        (spliceAt id inner)).setParent id none
    else t

/-- Puts a wrapper in the place of a node and the node inside it. -/
def wrap (t : Tree) (id wrapper : NodeId) : Tree :=
  match t.parent? id with
  | none => t
  | some _ => (t.insertBefore id wrapper).append wrapper id

/-- Gives an element another tag. -/
def rename (t : Tree) (id : NodeId) (tag : String) : Tree :=
  t.modifyElement id fun e => { e with tag := tag }

/-! ### Walking -/

/-- Nodes in document order, the next to visit first on the stack; as many steps as there are
nodes. -/
def descendantsFrom (t : Tree) : Nat → List NodeId → List NodeId
  | 0, _ | _ + 1, [] => []
  | steps + 1, id :: stack => id :: t.descendantsFrom steps (t.children id ++ stack)

/-- The nodes below a node, in document order. -/
def descendants (t : Tree) (id : NodeId) : List NodeId :=
  t.descendantsFrom t.cells.size (t.children id)

/-- The elements of a tag below a node, in document order. -/
def descendantsOfTag (t : Tree) (id : NodeId) (tag : String) : List NodeId :=
  (t.descendants id).filter (t.isElement · tag)

/-- The text of a node and of all nodes below it, in document order. -/
def textContent (t : Tree) (id : NodeId) : String :=
  String.join ((id :: t.descendants id).filterMap t.text?)

/-- The nodes above a node, the nearest first; as many steps as there are nodes. -/
def ancestorsFrom (t : Tree) : Nat → Option NodeId → List NodeId
  | 0, _ | _ + 1, none => []
  | steps + 1, some id => id :: t.ancestorsFrom steps (t.parent? id)

/-- The nodes above a node, the nearest first. -/
def ancestors (t : Tree) (id : NodeId) : List NodeId := t.ancestorsFrom t.cells.size (t.parent? id)

/-- The closest element above a node that satisfies `p`. -/
def closestAncestor? (t : Tree) (id : NodeId) (p : Element → Bool) : Option NodeId :=
  (t.ancestors id).find? fun a => (t.element? a).any p

/-- The first `body` of the document, or the document. -/
def body (t : Tree) : NodeId := ((t.descendantsOfTag document "body").head?).getD document

/-- One node with the nodes below it, in front of those after it. -/
def nodeForest (kind : NodeKind) (inner next : Forest) : Forest :=
  match kind with
  | .document => inner ++ next
  | .element e => .element e inner next
  | .text s => .text s next
  | .comment s => .comment s next
  | .doctype => .doctype next

/-- The forest of some nodes, down to a depth. -/
def forestBelow (t : Tree) : Nat → List NodeId → Forest
  | 0, _ => .nil
  | depth + 1, ids =>
    ids.foldr (fun id next =>
      nodeForest (t.cell id).kind (t.forestBelow depth (t.children id)) next) .nil

/-- The nodes below a node. -/
def forest (t : Tree) (id : NodeId) : Forest := t.forestBelow t.cells.size (t.children id)

/-- The content of a node as HTML. -/
def html (t : Tree) (id : NodeId) : String :=
  (t.forest id).html (((t.tag? id).map isRawText).getD false)

/-! ### Well-formed trees -/

/-- `Reaches t n id`: going up `n` links from a node ends at a node without a parent. -/
def Reaches (t : Tree) : Nat → NodeId → Prop
  | 0, id => t.parent? id = none
  | n + 1, id => ∃ p, t.parent? id = some p ∧ t.Reaches n p

/-- The links of a tree agree: a child list names exactly the nodes that name its owner as their
parent, each once; every chain of parents ends; and the document has no parent. -/
structure Linked (t : Tree) : Prop where
  mem_children_iff : ∀ p c, c ∈ t.children p ↔ t.parent? c = some p
  children_nodup : ∀ p, (t.children p).Nodup
  reaches : ∀ id, ∃ n, t.Reaches n id
  document_parent : t.parent? document = none

/-- A well-formed tree: its links agree, only elements and the document hold nodes, and nothing holds
the document.  A parser of HTML puts nodes nowhere else, and the passes over a page count on it: the edits
themselves would put nodes under a text, where they are not written. -/
structure WellFormed (t : Tree) : Prop extends t.Linked where
  holds_of_parent : ∀ c p, t.parent? c = some p → (t.cell p).kind.holds = true
  kind_of_parent : ∀ c p, t.parent? c = some p → (t.cell c).kind ≠ .document

/-- The nodes that can be reached from a node through child lists. -/
inductive IsBelow (t : Tree) (r : NodeId) : NodeId → Prop
  | child {c : NodeId} (h : c ∈ t.children r) : t.IsBelow r c
  | step {p c : NodeId} (hp : t.IsBelow r p) (h : c ∈ t.children p) : t.IsBelow r c

end Tree

/-! ### Edits -/

/-- What can be done to a tree. -/
inductive Edit where
  | create (kind : NodeKind)
  | append (parent child : NodeId)
  | appendText (id : NodeId) (s : String)
  | insertBefore (sibling child : NodeId)
  | detach (id : NodeId)
  | moveChildren (source target : NodeId)
  | unwrap (id : NodeId)
  | wrap (id wrapper : NodeId)
  | rename (id : NodeId) (tag : String)
  | setAttr (id : NodeId) (name value : String)
  | removeAttr (id : NodeId) (name : String)
  | addClass (id : NodeId) (cls : String)
deriving DecidableEq, Repr

/-- A tree after an edit. -/
def Tree.apply (t : Tree) : Edit → Tree
  | .create kind => t.create kind
  | .append parent child => t.append parent child
  | .appendText id s => t.appendText id s
  | .insertBefore sibling child => t.insertBefore sibling child
  | .detach id => t.detach id
  | .moveChildren source target => t.moveChildren source target
  | .unwrap id => t.unwrap id
  | .wrap id wrapper => t.wrap id wrapper
  | .rename id tag => t.rename id tag
  | .setAttr id name value => t.modifyElement id (·.setAttr name value)
  | .removeAttr id name => t.modifyElement id (·.removeAttr name)
  | .addClass id cls => t.modifyElement id (·.addClass cls)

end Folio.Html
