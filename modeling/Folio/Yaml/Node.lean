import Folio.Yaml.Token

/-! # The tree of a YAML document

`document?` builds the tree of the one document that a text may hold.  A `Node` keeps how its scalars are
written and which tags stand before them, for this decides what they mean.  An alias carries the node
that it stands for; one that lies inside of that very node stands for nothing finite (`Node.endless`). -/

namespace Folio.Yaml

/-- A node of a document. -/
inductive Node where
  | scalar (tag : Option String) (style : Style) (text : String)
  | sequence (tag : Option String) (items : List Node)
  | mapping (tag : Option String) (entries : List (Node × Node))
  | reference (target : Node)
  | endless

namespace Node

/-- What stands where nothing is written. -/
def empty : Node := scalar none .plain ""

instance : Inhabited Node := ⟨empty⟩

mutual

/-- How many marks a node takes in the course of its document: one for a scalar or an alias, and two
for a collection beside those of its parts. -/
def marks : Node → Nat
  | scalar .. | reference _ | endless => 1
  | sequence _ items => 2 + marksOfItems items
  | mapping _ entries => 2 + marksOfEntries entries

/-- The marks of the items of a sequence. -/
def marksOfItems : List Node → Nat
  | [] => 0
  | n :: ns => n.marks + marksOfItems ns

/-- The marks of the entries of a mapping. -/
def marksOfEntries : List (Node × Node) → Nat
  | [] => 0
  | (k, v) :: es => k.marks + v.marks + marksOfEntries es

end

end Node

/-! ### Composition -/

/-- What is left to compose, the handles of tags, the anchors by number with the latest first, and the
nodes of those anchors that are complete. -/
structure Composer where
  tokens : List Token
  handles : List (String × String) := []
  anchors : List (String × Nat) := []
  complete : List (Nat × Node) := []

/-- A step of composition, which fails where the tokens fit no rule. -/
abbrev Compose := StateT Composer Option

namespace Compose

/-- The token that comes next. -/
def peek : Compose (Option Token) := do return (← get).tokens.head?

/-- Passes over a token. -/
def skip : Compose Unit := modify fun s => { s with tokens := s.tokens.tail }

/-- Whether a token comes next, which is then passed over. -/
def accept (t : Token) : Compose Bool := do
  if (← peek) == some t then
    skip
    return true
  else return false

/-- Passes over a token that has to come. -/
def expect (t : Token) : Compose Unit := do
  if !(← accept t) then failure

/-- Whether one of some tokens comes next. -/
def comesOne (ts : List Token) : Compose Bool := do return (← peek).any ts.contains

/-- The tag that a handle and a suffix write. -/
def resolveTag (handle suffix : String) : Compose String := do
  if handle = "" then return suffix
  match (← get).handles.lookup handle with
  | some expansion => return expansion ++ suffix
  | none => failure

/-- The anchor and the tag in front of a node, in either order. -/
def properties : Compose (Option String × Option String) := do
  let anchor : Compose (Option String) := do
    match ← peek with
    | some (.anchor name) => skip; return some name
    | _ => return none
  let tag : Compose (Option String) := do
    match ← peek with
    | some (.tag handle suffix) => skip; return some (← resolveTag handle suffix)
    | _ => return none
  match ← anchor with
  | some name => return (some name, ← tag)
  | none =>
    let tag ← tag
    return (← anchor, tag)

/-- Remembers that an anchor is met; answers its number. -/
def begin (name : Option String) : Compose Nat := do
  let s ← get
  let number := s.anchors.length
  match name with
  | some name => set { s with anchors := (name, number) :: s.anchors }
  | none => pure ()
  return number

/-- Remembers the node of an anchor. -/
def complete (name : Option String) (number : Nat) (node : Node) : Compose Node := do
  if name.isSome then modify fun s => { s with complete := (number, node) :: s.complete }
  return node

/-- The node that an alias stands for. -/
def aliased (name : String) : Compose Node := do
  let s ← get
  match s.anchors.lookup name with
  | none => failure
  | some number =>
    match s.complete.lookup number with
    | some node => return .reference node
    | none => return .endless

/-- A scalar; a lone exclamation mark before it is no tag. -/
def scalarNode (tag : Option String) (style : Style) (text : String) : Node :=
  .scalar (if tag = some "!" then none else tag) style text

mutual

/-- Composes a node.  With `block` it may be a block; with `bare` a sequence may stand in it without
indentation. -/
def node (block bare : Bool) : Nat → Compose Node
  | 0 => failure
  | steps + 1 => do
    match ← peek with
    | some (.reference name) =>
      skip
      aliased name
    | _ =>
      let (name, tag) ← properties
      let number ← begin name
      let finish (n : Node) : Compose Node := complete name number n
      match ← peek with
      | some (.scalar style text) =>
        skip
        finish (scalarNode tag style text)
      | some .flowSequence =>
        skip
        finish (.sequence tag (← flowItems true steps))
      | some .flowMapping =>
        skip
        finish (.mapping tag (← flowEntries true steps))
      | next =>
        if bare && next == some .blockEntry then finish (.sequence tag (← bareItems steps))
        else if block && next == some .blockSequence then
          skip
          finish (.sequence tag (← blockItems steps))
        else if block && next == some .blockMapping then
          skip
          finish (.mapping tag (← blockEntries steps))
        else if name.isSome || tag.isSome then finish (.scalar tag .plain "")
        else failure

/-- Composes the items of a block. -/
def blockItems : Nat → Compose (List Node)
  | 0 => failure
  | steps + 1 => do
    if ← accept .blockEnd then return []
    expect .blockEntry
    let item ←
      if ← comesOne [.blockEntry, .blockEnd] then pure .empty else node true false steps
    return item :: (← blockItems steps)

/-- Composes the items of a sequence without indentation. -/
def bareItems : Nat → Compose (List Node)
  | 0 => failure
  | steps + 1 => do
    if ← accept .blockEntry then
      let item ←
        if ← comesOne [.blockEntry, .key, .value, .blockEnd] then pure .empty
        else node true false steps
      return item :: (← bareItems steps)
    else return []

/-- Composes the entries of a block. -/
def blockEntries : Nat → Compose (List (Node × Node))
  | 0 => failure
  | steps + 1 => do
    if ← accept .blockEnd then return []
    expect .key
    let key ← if ← comesOne [.key, .value, .blockEnd] then pure .empty else node true true steps
    let value ←
      if ← accept .value then
        if ← comesOne [.key, .value, .blockEnd] then pure .empty else node true true steps
      else pure .empty
    return (key, value) :: (← blockEntries steps)

/-- Composes the items of a sequence in brackets; an item may be a mapping of one entry. -/
def flowItems (first : Bool) : Nat → Compose (List Node)
  | 0 => failure
  | steps + 1 => do
    if ← accept .flowSequenceEnd then return []
    if !first then expect .flowEntry
    if ← accept .flowSequenceEnd then return []
    let item ←
      if ← accept .key then
        let key ←
          if ← comesOne [.value, .flowEntry, .flowSequenceEnd] then
            skip
            pure .empty
          else node false false steps
        let value ← flowValue .flowSequenceEnd steps
        pure (.mapping none [(key, value)])
      else node false false steps
    return item :: (← flowItems false steps)

/-- Composes the value after a key inside brackets, if there is one. -/
def flowValue (closing : Token) : Nat → Compose Node
  | 0 => failure
  | steps + 1 => do
    if ← accept .value then
      if ← comesOne [.flowEntry, closing] then return .empty else node false false steps
    else return .empty

/-- Composes the entries of a mapping in braces; a node alone is a key without a value. -/
def flowEntries (first : Bool) : Nat → Compose (List (Node × Node))
  | 0 => failure
  | steps + 1 => do
    if ← accept .flowMappingEnd then return []
    if !first then expect .flowEntry
    if ← accept .flowMappingEnd then return []
    let entry ←
      if ← accept .key then
        let key ←
          if ← comesOne [.value, .flowEntry, .flowMappingEnd] then pure .empty
          else node false false steps
        pure (key, ← flowValue .flowMappingEnd steps)
      else
        pure (← node false false steps, .empty)
    return entry :: (← flowEntries false steps)

end

/-! ### Documents -/

/-- The handles that are known without a directive. -/
def standardHandles : List (String × String) := [("!", "!"), ("!!", "tag:yaml.org,2002:")]

/-- Reads directives; the version is 1.1 or 1.2, and nothing is said twice. -/
def directives (versioned : Bool) : Nat → Compose Unit
  | 0 => failure
  | steps + 1 => do
    match ← peek with
    | some (.version major minor) =>
      if versioned || major ≠ 1 || (minor ≠ 1 && minor ≠ 2) then failure
      skip
      directives true steps
    | some (.handle name expansion) =>
      let s ← get
      if (s.handles.lookup name).isSome then failure
      set { s with handles := (name, expansion) :: s.handles }
      skip
      directives versioned steps
    | _ => modify fun s => { s with handles := s.handles ++ standardHandles }

/-- Passes over the marks of the end of a document. -/
def skipDocumentEnds : Nat → Compose Unit
  | 0 => pure ()
  | steps + 1 => do
    if ← accept .documentEnd then skipDocumentEnds steps

/-- Whether a document with directives or a mark at its start comes next. -/
def isExplicit : Option Token → Bool
  | some (.version _ _) | some (.handle _ _) | some .documentStart => true
  | _ => false

/-- Composes the content of the document that comes next. -/
def content (steps : Nat) : Compose Node := do
  if isExplicit (← peek) then
    directives false steps
    expect .documentStart
    let next ← peek
    if isExplicit next || next == some .documentEnd || next == some .streamEnd then return .empty
    else node true false steps
  else
    directives false steps
    node true false steps

/-- Composes the one document of a text; a text without one stands for nothing. -/
def document (steps : Nat) : Compose Node := do
  if (← peek) == some .streamEnd then return .empty
  let root ← content steps
  skipDocumentEnds steps
  expect .streamEnd
  return root

end Compose

/-- The tree of the document that a text holds, if it is well formed and holds no second one. -/
def document? (text : String) : Option Node := do
  let tokens ← tokens? text
  (Compose.document (2 * tokens.size + 2)).run' { tokens := tokens.toList }

end Folio.Yaml
