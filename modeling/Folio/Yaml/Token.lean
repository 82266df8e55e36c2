import Folio.Yaml.Text

/-! # Tokens of a YAML text

`tokens?` cuts a text into tokens; blocks, which the text shows by indentation alone, are given a
start and an end.  That a scalar is the key of a mapping shows only at the colon after it.  So each
place where a key could begin is remembered (`PendingKey`), one for every open bracket, and when the
colon comes the token `key` is put in at that place. -/

namespace Folio.Yaml

/-- How a scalar is written. -/
inductive Style where
  | plain
  | quoted
  | literal
  | folded
deriving DecidableEq, Repr

/-- A token. -/
inductive Token where
  | streamEnd
  | version (major minor : Nat)
  | handle (name expansion : String)
  | documentStart
  | documentEnd
  | blockSequence
  | blockMapping
  | blockEnd
  | flowSequence
  | flowSequenceEnd
  | flowMapping
  | flowMappingEnd
  | blockEntry
  | flowEntry
  | key
  | value
  | reference (name : String)
  | anchor (name : String)
  | tag (handle suffix : String)
  | scalar (style : Style) (text : String)
deriving DecidableEq, Repr

/-! ### Names, tags and directives -/

/-- The name at a place, which may be empty. -/
def takeName (c : Cursor) : String × Cursor :=
  (String.ofList (c.rest.takeWhile isNameChar), c.skipWhile isNameChar)

/-- The name of an anchor after its mark. -/
def anchorName? (c : Cursor) : Option (String × Cursor) :=
  let (name, c) := takeName (c.advance 1)
  let closed := endsOr (fun x => isSpacing x || "?:,]\x7d%@\x60".toList.contains x) c.rest
  if name ≠ "" && closed then some (name, c) else none

/-- Whether a character may stand in a tag; inside angle brackets commas and brackets may, too. -/
def isTagChar (pointed : Bool) (c : Char) : Bool :=
  isNameChar c || ";/?:@&=+$.%!~*\x27()".toList.contains c || (pointed && ",[]".toList.contains c)

/-- The bytes that escapes with a percent sign at the start of a text write, `count` of them. -/
def percentBytes? : Nat → List Char → Option (List UInt8)
  | 0, _ => some []
  | count + 1, '%' :: a :: b :: rest => do
    let n ← Text.hexNumber? [a, b]
    let bytes ← percentBytes? count rest
    some (n.toUInt8 :: bytes)
  | _ + 1, _ => none

/-- How many bytes a character takes whose first byte is given. -/
def utf8Width? (n : Nat) : Option Nat :=
  if n < 0x80 then some 1
  else if n < 0xC0 then none
  else if n < 0xE0 then some 2
  else if n < 0xF0 then some 3
  else if n < 0xF8 then some 4
  else none

/-- The character that escapes with percent signs at the start of a text write, and how many
characters they take. -/
def percentChar? (cs : List Char) : Option (Char × Nat) := do
  let first ← percentBytes? 1 cs
  let width ← utf8Width? (first.headD 0).toNat
  let bytes ← percentBytes? width cs
  let s ← String.fromUTF8? ⟨bytes.toArray⟩
  let c ← s.toList.head?
  some (c, 3 * width)

/-- The characters of a tag at a place, escapes read. -/
def tagChars? (pointed : Bool) : Nat → Cursor → Option (List Char × Cursor)
  | 0, c => some ([], c)
  | steps + 1, c =>
    match c.rest with
    | [] => some ([], c)
    | x :: _ =>
      if !isTagChar pointed x then some ([], c)
      else do
        let (y, n) ← if x == '%' then percentChar? c.rest else some (x, 1)
        let (text, c) ← tagChars? pointed steps (c.advance n)
        some (y :: text, c)

/-- The characters of a tag at a place, which may not be empty. -/
def tagText? (pointed : Bool) (c : Cursor) : Option (String × Cursor) := do
  let (text, next) ← tagChars? pointed c.rest.length c
  if text = [] then none else some (String.ofList text, next)

/-- A handle at a place: an exclamation mark, a name and, if there is one, another mark. -/
def handle? (c : Cursor) : Option (String × Cursor) :=
  if c.at? '!' then
    let (name, next) := takeName (c.advance 1)
    if next.at? '!' then some ("!" ++ name ++ "!", next.advance 1) else some ("!" ++ name, next)
  else none

/-- A tag that starts with a handle or with a single mark. -/
def shortTag? (c : Cursor) : Option (Token × Cursor) := do
  let (handle, next) ← handle? c
  if handle ≠ "!" && handle.toList.getLast? == some '!' then
    let (suffix, next) ← tagText? false next
    some (.tag handle suffix, next)
  else
    let (more, next) ← tagChars? false next.rest.length next
    let suffix := String.ofList (handle.toList.drop 1 ++ more)
    some (if suffix = "" then .tag "" "!" else .tag "!" suffix, next)

/-- The tag at a place. -/
def tag? (flow : Bool) (c : Cursor) : Option (Token × Cursor) := do
  let (tag, c) ←
    if c.rest.tail.head? == some '<' then do
      let (suffix, c) ← tagText? true (c.advance 2)
      if c.at? '>' then some (Token.tag "" suffix, c.advance 1) else none
    else shortTag? c
  if (flow && c.at? ',') || endsOr isSpacing c.rest then some (tag, c) else none

/-- A number of at most nine digits at a place. -/
def directiveNumber? (c : Cursor) : Option (Nat × Cursor) :=
  let digits := c.rest.takeWhile Char.isDigit
  if digits = [] ∨ 9 < digits.length then none
  else (String.ofList digits).toNat?.map fun n => (n, c.advance digits.length)

/-- What a version directive says. -/
def version? (c : Cursor) : Option (Token × Cursor) := do
  let (major, c) ← directiveNumber? (c.skipWhile isBlank)
  if !c.at? '.' then none
  let (minor, c) ← directiveNumber? (c.advance 1)
  some (.version major minor, c)

/-- What a tag directive says. -/
def handleDirective? (c : Cursor) : Option (Token × Cursor) := do
  let (name, c) ← handle? (c.skipWhile isBlank)
  if name ≠ "!" && name.toList.getLast? ≠ some '!' then none
  if !c.rest.head?.any isBlank then none
  let (expansion, c) ← tagText? true (c.skipWhile isBlank)
  if endsOr isSpacing c.rest then some (.handle name expansion, c) else none

/-- The directive at a place, with the rest of its line. -/
def directive? (c : Cursor) : Option (Token × Cursor) := do
  let (name, c) := takeName (c.advance 1)
  if !endsOr isSpacing c.rest then none
  let (token, c) ←
    match name with
    | "YAML" => version? c
    | "TAG" => handleDirective? c
    | _ => none
  some (token, ← c.restOfLine?)

/-! ### Reading tokens -/

/-- A place where a key could begin: its number among the tokens, where it stands in the text, and
whether nothing but a key can stand there. -/
structure PendingKey where
  position : Nat
  index : Nat
  line : Nat
  column : Nat
  required : Bool
deriving DecidableEq, Repr

/-- What has been read, and what is open: the indentation of the blocks, innermost first, and for every
open bracket, and for what is outside of them, the key that could begin there. -/
structure Scan where
  cursor : Cursor
  tokens : Array Token := #[]
  indentation : Int := -1
  outer : List Int := []
  depth : Nat := 0
  keys : List (Option PendingKey) := [none]
  keyAllowed : Bool := true

namespace Scan

/-- Whether a bracket is open. -/
def flow (s : Scan) : Bool := s.depth ≠ 0

/-- Adds a token. -/
def push (s : Scan) (t : Token) : Scan := { s with tokens := s.tokens.push t }

/-- Adds a token whose end is given. -/
def pushAt (s : Scan) (t : Token) (c : Cursor) : Scan := { s.push t with cursor := c }

/-- The key that could begin inside the innermost bracket. -/
def pending? (s : Scan) : Option PendingKey := s.keys.head?.join

/-- Forgets the key that could begin inside the innermost bracket, unless it has to be one. -/
def forgetKey? (s : Scan) : Option Scan :=
  if s.pending?.any (·.required) then none else some { s with keys := none :: s.keys.tail }

/-- Remembers that a key could begin here. -/
def saveKey? (s : Scan) : Option Scan :=
  if s.keyAllowed then do
    let s ← s.forgetKey?
    let key : PendingKey :=
      { position := s.tokens.size
        index := s.cursor.index
        line := s.cursor.line
        column := s.cursor.column
        required := !s.flow && s.indentation == s.cursor.column }
    some { s with keys := some key :: s.keys.tail }
  else some s

/-- The longest key. -/
def keyLimit : Nat := 1024

/-- Whether a key that began at a place can no longer end here: it is on another line, or too long. -/
def isStale (s : Scan) (k : PendingKey) : Bool :=
  k.line < s.cursor.line || k.index + keyLimit < s.cursor.index

/-- Forgets the keys that can no longer end, unless one of them has to be a key. -/
def forgetStale? (s : Scan) : Option Scan :=
  if s.keys.any (fun k => k.any fun k => s.isStale k && k.required) then none
  else some { s with keys := s.keys.map fun k => k.filter fun k => !s.isStale k }

/-- Opens a block at a column if it is deeper than those that are open; its start is put before the
token of a number. -/
def openBlock (s : Scan) (column : Int) (position : Nat) (start : Token) : Scan :=
  if s.flow || column ≤ s.indentation then s
  else
    { s with
      indentation := column
      outer := s.indentation :: s.outer
      tokens := s.tokens.insertIdxIfInBounds position start }

/-- Closes the blocks that are deeper than a column. -/
def closeBlocksTo (column : Int) (s : Scan) : List Int → Scan
  | [] => s
  | i :: rest =>
    if column < s.indentation then
      closeBlocksTo column { s.push .blockEnd with indentation := i, outer := rest } rest
    else s

/-- Closes the blocks that are deeper than a column, unless a bracket is open. -/
def closeBlocks (s : Scan) (column : Int) : Scan :=
  if s.flow then s else closeBlocksTo column s s.outer

/-- Passes over blanks, comments and line breaks.  A new line outside of brackets may begin a key;
where one may begin, a tab is no blank. -/
def skipFiller : Nat → Scan → Scan
  | 0, s => s
  | steps + 1, s =>
    let c := if s.cursor.index = 0 && s.cursor.at? byteOrderMark then s.cursor.advance 1 else s.cursor
    let tabs := s.flow || !s.keyAllowed
    let c := (c.skipWhile fun x => x == ' ' || (tabs && x == '\t')).skipComment
    if c.rest.head?.any isBreak then
      skipFiller steps { s with cursor := c.skipBreak, keyAllowed := s.keyAllowed || !s.flow }
    else { s with cursor := c }

/-- Ends the text: everything open is closed. -/
def finish? (s : Scan) : Option Scan := do
  let c := s.cursor
  let c := if c.column = 0 then c else { c with line := c.line + 1, column := 0 }
  let s ← ({ s with cursor := c }.closeBlocks (-1)).forgetKey?
  some (s.push .streamEnd)

/-- Leaves all blocks, for what stands at the top of a text. -/
def leaveBlocks? (s : Scan) : Option Scan := do
  let s ← (s.closeBlocks (-1)).forgetKey?
  some { s with keyAllowed := false }

/-- Reads the mark of the start or the end of a document. -/
def documentMark? (s : Scan) (t : Token) : Option Scan := do
  let s ← s.leaveBlocks?
  some (s.pushAt t (s.cursor.advance 3))

/-- Reads an opening bracket. -/
def openBracket? (s : Scan) (t : Token) : Option Scan := do
  let s ← s.saveKey?
  let s := s.pushAt t (s.cursor.advance 1)
  some { s with depth := s.depth + 1, keys := none :: s.keys, keyAllowed := true }

/-- Reads a closing bracket. -/
def closeBracket? (s : Scan) (t : Token) : Option Scan := do
  let s ← s.forgetKey?
  let s := s.pushAt t (s.cursor.advance 1)
  let keys := if s.flow then s.keys.tail else s.keys
  some { s with depth := s.depth - 1, keys := keys, keyAllowed := false }

/-- Reads the comma between two items. -/
def comma? (s : Scan) : Option Scan := do
  let s ← s.forgetKey?
  some { s.pushAt .flowEntry (s.cursor.advance 1) with keyAllowed := true }

/-- Reads the mark of an item of a block, or of a key. -/
def blockMark? (s : Scan) (start mark : Token) (keyAfter : Bool) : Option Scan := do
  if !s.flow && !s.keyAllowed then none
  let s ← (s.openBlock s.cursor.column s.tokens.size start).forgetKey?
  some { s.pushAt mark (s.cursor.advance 1) with keyAllowed := keyAfter }

/-- Reads the colon before a value.  What a key could have begun with becomes one. -/
def colon? (s : Scan) : Option Scan :=
  match s.pending? with
  | some k =>
    let s := { s with tokens := s.tokens.insertIdxIfInBounds k.position .key }
    let s := s.openBlock k.column k.position .blockMapping
    let s := s.pushAt .value (s.cursor.advance 1)
    some { s with keys := none :: s.keys.tail, keyAllowed := false }
  | none =>
    if !s.flow && !s.keyAllowed then none
    else
      let s := s.openBlock s.cursor.column s.tokens.size .blockMapping
      some { s.pushAt .value (s.cursor.advance 1) with keyAllowed := !s.flow }

/-- Reads a token that may begin a key. -/
def keyStart? (s : Scan) (read : Cursor → Option (Token × Cursor)) : Option Scan := do
  let s ← s.saveKey?
  let (t, c) ← read s.cursor
  some { s.pushAt t c with keyAllowed := false }

/-- Reads a plain scalar. -/
def plainScalar? (s : Scan) : Option Scan := do
  let s ← s.saveKey?
  let (text, broken, c) ← plain? s.flow (s.indentation + 1).toNat s.cursor
  some { s.pushAt (.scalar .plain (String.ofList text)) c with keyAllowed := broken }

/-- Reads a block of lines. -/
def blockScalar? (s : Scan) (folded : Bool) : Option Scan := do
  let s ← s.forgetKey?
  let (text, c) ← block? folded s.indentation s.cursor
  let style := if folded then Style.folded else .literal
  some { s.pushAt (.scalar style (String.ofList text)) c with keyAllowed := true }

/-- Whether a plain scalar can begin with a character, given what follows it. -/
def startsPlain (flow : Bool) (x : Char) (rest : List Char) : Bool :=
  if x == '-' then !rest.head?.any isBlank
  else if x == '?' || x == ':' then !flow && !endsOr isSpacing rest
  else !(isSpacing x || ",[]\x7b\x7d#&*!|>\x27\"%@\x60".toList.contains x)

/-- Reads the token at a place that is not the end of the text. -/
def token? (s : Scan) (x : Char) (rest : List Char) : Option Scan :=
  let c := s.cursor
  let alone := endsOr isSpacing rest
  if c.column = 0 && x == '%' then do
    let s ← s.leaveBlocks?
    let (t, c) ← directive? s.cursor
    some (s.pushAt t c)
  else if c.column = 0 && c.atTriple '-' then s.documentMark? .documentStart
  else if c.column = 0 && c.atTriple '.' then s.documentMark? .documentEnd
  else if x == '[' then s.openBracket? .flowSequence
  else if x == '\x7b' then s.openBracket? .flowMapping
  else if x == ']' then s.closeBracket? .flowSequenceEnd
  else if x == '\x7d' then s.closeBracket? .flowMappingEnd
  else if x == ',' then s.comma?
  else if x == '-' && alone then s.blockMark? .blockSequence .blockEntry true
  else if x == '?' && (s.flow || alone) then s.blockMark? .blockMapping .key (!s.flow)
  else if x == ':' && (s.flow || alone) then s.colon?
  else if x == '*' then s.keyStart? fun c => (anchorName? c).map fun (n, c) => (.reference n, c)
  else if x == '&' then s.keyStart? fun c => (anchorName? c).map fun (n, c) => (.anchor n, c)
  else if x == '!' then s.keyStart? (tag? s.flow)
  else if x == '|' && !s.flow then s.blockScalar? false
  else if x == '>' && !s.flow then s.blockScalar? true
  else if x == '"' || x == '\x27' then
    s.keyStart? fun c =>
      (quoted? (x == '\x27') c).map fun (text, c) => (.scalar .quoted (String.ofList text), c)
  else if startsPlain s.flow x rest then s.plainScalar?
  else none

/-- Reads tokens up to the end of the text. -/
def run? : Nat → Scan → Option (Array Token)
  | 0, _ => none
  | steps + 1, s => do
    let s := s.skipFiller (s.cursor.rest.length + 1)
    let s ← s.forgetStale?
    let s := s.closeBlocks s.cursor.column
    match s.cursor.rest with
    | [] => (← s.finish?).tokens
    | x :: rest => run? steps (← s.token? x rest)

end Scan

/-- The tokens of a text, if it can be cut into some. -/
def tokens? (text : String) : Option (Array Token) :=
  let cs := text.toList
  let cs := if cs.head? == some byteOrderMark then cs.tail else cs
  if cs.all isAllowed then Scan.run? (cs.length + 1) { cursor := ⟨cs, 0, 0, 0⟩ } else none

end Folio.Yaml
