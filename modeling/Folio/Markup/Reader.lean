import Folio.Markup.Block
import Folio.Markup.BlockStart

/-! # Reading blocks

The lines of a document are read in order.  A `Reader` holds the containers that are open, the blocks
finished in each of them, and what has been defined.  A line first goes on with the open containers, as
many as it can; it may open new ones; and what is left of it begins a leaf, which takes as many of the
lines after it as belong to it. -/

namespace Folio.Markup

/-! ### Containers -/

/-- An open container. -/
inductive Container where
  | quote
  | list (mark : Char) (first : Option Nat) (tight : Bool)
  | item (indent : Nat)
  | footnote (label : String)
deriving DecidableEq, Repr

namespace Container

/-- The tag of a container. -/
def tag : Container → Tag
  | quote => .blockQuote
  | list _ first _ => .list first
  | item _ => .item
  | footnote label => .footnoteDefinition label

/-- What is left of a line that goes on with a container. -/
def continue? (k : Container) (c : Cursor) : Option Cursor :=
  let indented (n : Nat) : Option Cursor :=
    let (k, c) := c.indent n
    if k = n || c.isAtEnd then some c else none
  match k with
  | quote => (c.indent 3).2.quoteMark?
  | list _ _ _ => some c
  | item n => indented n
  | footnote _ => indented 4

end Container

/-- Goes on with containers, the outermost first; answers how many a line goes on with. -/
def continueAll : List Container → Cursor → Nat × Cursor
  | [], c => (0, c)
  | k :: ks, c =>
    match k.continue? c with
    | some next =>
      let (n, last) := continueAll ks next
      (n + 1, last)
    | none => (0, c)

/-- What is left of a line behind its containers, and whether it goes on with all of them. -/
def enter (outer : List Container) (l : Line) : Bool × Cursor :=
  let (n, c) := continueAll outer (Cursor.ofLine l)
  (n == outer.length, c)

/-! ### What ends a paragraph -/

/-- Whether a bullet with nothing behind it has a blank line after it. -/
def isEmptyItem (behind : List Char) (next : Option Line) : Bool :=
  isBlankLine behind && next.all fun l => isBlankLine l.chars

/-- Whether a line begins a list item that may end a paragraph or a table. -/
def itemInterrupts (inside inTable : Bool) (cs : List Char) (next : Option Line) : Bool :=
  match bullet? cs with
  | some b =>
    let behind := cs.drop b.width
    (behind.head?.all fun c => c == ' ' || c == '\t') &&
      (!inside || inTable || (b.number.all (· == 1) && !isEmptyItem behind next))
  | none => false

/-- The label of a footnote definition at the start of a line, and what follows its colon. -/
def footnoteStart? (d : Dialect) (cs : List Char) : Option (String × List Char) :=
  match d, footnoteLabel? cs with
  | .extended, some (label, ':' :: rest) => some (label, rest)
  | _, _ => none

/-- Whether a line ends the paragraph or the table before it. -/
def interrupts (d : Dialect) (inside inTable : Bool) (cs : List Char) (next : Option Line) : Bool :=
  isBlankLine cs || isRule cs || (numberSigns? cs).isSome || (fence? cs).isSome ||
    cs.head? == some '>' || itemInterrupts inside inTable cs next || (strongHtml? cs).isSome ||
    (footnoteStart? d cs).isSome

/-- The columns of the table whose head row is given, if the next line is its delimiter row. -/
def tableColumns? (d : Dialect) (outer : List Container) (head : List Char) (next : Option Line) :
    Option (List Alignment) :=
  match d, next with
  | .extended, some l =>
    let (inside, c) := enter outer l
    let (k, c) := c.indent 4
    match delimiterRow? c.rest with
    | some columns =>
      if inside && k < 4 && headColumns? head == some columns.length then some columns else none
    | none => none
  | _, _ => none

/-- The rest of a paragraph: its further lines, how it ends, and whether its last line has an end. -/
structure Continuation where
  lines : List (List Char) := []
  closed : Bool
  underline : Option Nat := none

/-- The lines that go on with a paragraph, `closed` telling whether the line before has an end. -/
def continuation (d : Dialect) (outer : List Container) (closed : Bool) : List Line → Continuation
  | [] => { closed }
  | l :: rest =>
    let (inside, c) := enter outer l
    let (k, shifted) := c.indent 4
    let level := if inside && k < 4 then underline? shifted.rest else none
    if level.isSome then { closed, underline := level }
    else if shifted.trimmed = [] then { closed }
    else if k < 4 && (interrupts d inside false shifted.rest rest.head? ||
        (shifted.rest.head? == some '|' && (tableColumns? d outer shifted.rest rest.head?).isSome)) then
      { closed }
    else
      let more := continuation d outer (l.ending ≠ 0) rest
      { more with lines := c.rest :: more.lines }

/-! ### Leaves of several lines -/

/-- The pieces of a fenced block, and how many lines it takes. -/
def fencedLines (outer : List Container) (f : Fence) (indent : Nat) (p : Pieces) (used : Nat) :
    List Line → Pieces × Nat
  | [] => (p, used)
  | l :: rest =>
    let (inside, c) := enter outer l
    if !inside then (p, used)
    else
      let c := (c.indent indent).2
      let (k, shifted) := c.indent 4
      if k < 4 && f.closedBy shifted.rest then (p, used + 1)
      else fencedLines outer f indent (p.addLine c l.ending) (used + 1) rest

/-- The pieces of an indented block up to its last line that is not blank, how many lines it takes, and
whether blank lines come last. -/
def indentedLines (outer : List Container) (kept p : Pieces) (used : Nat) (blank : Bool) :
    List Line → Pieces × Nat × Bool
  | [] => (kept, used, blank)
  | l :: rest =>
    let (inside, c) := enter outer l
    let (k, c) := c.indent 4
    if inside && (k = 4 || c.isAtEnd) then
      let p := p.addLine c l.ending
      if c.isBlank then indentedLines outer kept p (used + 1) true rest
      else indentedLines outer p p (used + 1) false rest
    else (kept, used, blank)

/-- A line of HTML behind some blanks, as events. -/
def htmlLine (blanks : Nat) (cs : List Char) (ending : Nat) : List Event :=
  (if blanks = 0 then [] else [.text (String.ofList (List.replicate blanks ' '))]) ++
    match ending with
    | 0 => [.html (String.ofList cs)]
    | 1 => [.html (String.ofList (cs ++ ['\n']))]
    | _ => [.html (String.ofList cs), .html "\n"]

/-- The lines of a block of HTML after its first, `previous` being the line before; and how many they
are. -/
def htmlLines (outer : List Container) (stop : HtmlEnd) (previous : List Char) (used : Nat) :
    List Line → List Event × Nat
  | [] => ([], used)
  | l :: rest =>
    let (inside, c) := enter outer l
    let done := match stop with
      | .text mark => (after? mark.toList previous).isSome
      | .blankLine => c.isBlank
    if !inside || done then ([], used)
    else
      let (more, used) := htmlLines outer stop c.rest (used + 1) rest
      (htmlLine c.pending c.rest l.ending ++ more, used)

/-- Cells brought to the number of columns. -/
def fitCells (n : Nat) (cells : List (List Char)) : List Prose :=
  ((cells ++ List.replicate (n - cells.length) []).take n).map fun cs => ⟨cs, false, true⟩

/-- The rows of a table. -/
def tableRows (d : Dialect) (outer : List Container) (n : Nat) : List Line → List (List Prose)
  | [] => []
  | l :: rest =>
    let (inside, c) := enter outer l
    if !inside || interrupts d true true c.trimmed rest.head? then []
    else fitCells n (rowCells c.trimmed) :: tableRows d outer n rest

/-! ### Headings -/

/-- A heading of a level without attributes. -/
def plainHeading (level : Nat) : HeadingTag := ⟨level, none, [], []⟩

/-- Takes one word of an attribute block into a heading. -/
def addAttribute (h : HeadingTag) (word : List Char) : HeadingTag :=
  match word with
  | [] => h
  | [_] => h
  | '#' :: id => { h with id := some (String.ofList id) }
  | '.' :: cls => { h with classes := h.classes ++ [String.ofList cls] }
  | _ =>
    let name := String.ofList (word.takeWhile (· ≠ '='))
    let value := match word.dropWhile (· ≠ '=') with
      | _ :: value => some (String.ofList value)
      | [] => none
    { h with attrs := h.attrs ++ [(name, value)] }

/-- Takes the attribute block in braces off the end of a heading. -/
def headingAttributes (d : Dialect) (level : Nat) (cs : List Char) : HeadingTag × List Char :=
  match d, cs.reverse.dropWhile isAnyBlank with
  | .extended, '}' :: before =>
    let isInner := fun c : Char =>
      !(c == '{' || c == '}' || c == '<' || c == '>' || c == '\\' || isLineEnd c)
    match before.dropWhile isInner with
    | '{' :: content =>
      let words := Text.pieces isAnyBlank (before.takeWhile isInner).reverse
      (words.foldl addAttribute (plainHeading level), content.reverse)
    | _ => (plainHeading level, cs)
  | _, _ => (plainHeading level, cs)

/-- The content of a heading without the number signs that close it. -/
def dropClosingSigns (cs : List Char) : List Char :=
  let isEnd := fun c : Char => c == ' ' || isLineEnd c
  let limit := cs.reverse.dropWhile isEnd
  match limit.dropWhile (· == '#') with
  | [] => []
  | ' ' :: before => (before.dropWhile (· == ' ')).reverse
  | _ => limit.reverse

/-! ### The reader -/

/-- An open container with the blocks finished in it. -/
structure Frame where
  container : Container
  done : Blocks → Blocks

/-- What has been read. -/
structure Reader where
  dialect : Dialect
  frames : List Frame := []
  done : Blocks → Blocks := id
  defs : Definitions := {}
  /-- Whether the last line was blank. -/
  afterBlank : Bool := false
  /-- Whether the last line began an item that holds nothing yet. -/
  emptyItem : Bool := false
  /-- The mark of a task whose paragraph is still to come. -/
  task : Option Bool := none

namespace Reader

/-- The open containers, the innermost first. -/
def containers (r : Reader) : List Container := r.frames.map (·.container)

/-- Adds blocks in the innermost container. -/
def place (r : Reader) (add : Blocks → Blocks) : Reader :=
  match r.frames with
  | [] => { r with done := fun next => r.done (add next) }
  | f :: fs => { r with frames := { f with done := fun next => f.done (add next) } :: fs }

/-- Adds a leaf. -/
def leaf (r : Reader) (l : Leaf) : Reader := r.place (.leaf l)

/-- Opens a container. -/
def push (r : Reader) (k : Container) : Reader := { r with frames := ⟨k, id⟩ :: r.frames }

/-- Closes the innermost container. -/
def pop (r : Reader) : Reader :=
  match r.frames with
  | [] => r
  | f :: fs =>
    let inner := f.done .nil
    let inner := match f.container with
      | .list _ _ true => inner.tightenItems
      | _ => inner
    { r with frames := fs }.place (.within f.container.tag inner)

/-- Closes containers until only `n` are open. -/
def closeTo (r : Reader) (n : Nat) : Reader :=
  (List.range (r.frames.length - n)).foldl (fun r _ => r.pop) r

/-- Closes an item that began with a blank line and holds nothing. -/
def finishEmptyItem (r : Reader) : Reader :=
  let r' := match r.emptyItem && r.afterBlank, r.containers with
    | true, .item _ :: _ => r.pop
    | _, _ => r
  { r' with emptyItem := false }

/-- Makes a list loose. -/
def loosen : Frame → Frame
  | ⟨.list mark first _, done⟩ => ⟨.list mark first false, done⟩
  | f => f

/-- Leaves a list that the line does not go on with; a blank line before a further block makes the list
around it loose. -/
def finishList (r : Reader) : Reader :=
  let r := r.finishEmptyItem
  let r := match r.containers with
    | .list _ _ _ :: _ => r.pop
    | _ => r
  if r.afterBlank then
    { r with
      afterBlank := false
      frames := match r.frames with
        | top :: below :: rest => top :: loosen below :: rest
        | fs => fs }
  else r

/-- Goes on with the list of a mark, or begins one. -/
def continueList (r : Reader) (b : Bullet) : Reader :=
  let r := r.finishEmptyItem
  let start (r : Reader) : Reader :=
    { r.push (.list b.mark b.number true) with afterBlank := false }
  match r.frames with
  | f :: fs =>
    match f.container with
    | .list mark _ _ =>
      if mark = b.mark then
        if r.afterBlank then { r with frames := loosen f :: fs, afterBlank := false } else r
      else start r.finishList
    | _ => start r.finishList
  | [] => start r

/-- The mark of a task at the start of an item. -/
def taskMark? (c : Cursor) : Option (Bool × Cursor) :=
  let c := (c.indent 3).2
  match c.rest with
  | '[' :: x :: ']' :: b :: _ =>
    if isInlineBlank b && (isInlineBlank x || x == 'x' || x == 'X') then
      some (!isInlineBlank x, c.advance 3)
    else none
  | _ => none

/-- The list item that begins `outer` columns in: its mark, its indentation, and what follows. -/
def item? (outer : Nat) (c : Cursor) : Option (Bullet × Nat × Cursor) :=
  if isRule c.rest then none
  else
    match bullet? c.rest with
    | none => none
    | some b =>
      let (k, c) := (c.advance b.width).indent 1
      if k = 1 || c.isAtEnd then
        let indent := outer + b.width + 1
        let (more, shifted) := c.indent 4
        if !c.isBlank && more < 4 then some (b, indent + more, shifted) else some (b, indent, c)
      else none

/-- Opens the containers that a line begins, in as many steps as are allowed; answers what follows them,
or nothing if the line is used up. -/
def openContainers : Nat → Reader → Cursor → Reader × Option Cursor
  | 0, r, c => (r, some c)
  | steps + 1, r, c =>
    let (outer, inner) := c.indent 4
    if outer = 4 then (r, some c)
    else
      match footnoteStart? r.dialect inner.rest with
      | some (label, rest) =>
        let r := r.finishList
        let r := match r.containers with
          | .footnote _ :: _ => r.pop
          | _ => r
        let r := { r with defs := r.defs.addFootnote label }.push (.footnote label)
        let rest := rest.dropWhile isInlineBlank
        let used := inner.rest.length - rest.length
        openContainers steps r ⟨inner.position + used, 0, 0, rest⟩
      | none =>
        match item? outer inner with
        | some (b, indent, c) =>
          let r := (r.continueList b).push (.item indent)
          if c.isBlank then ({ r with emptyItem := true }, none)
          else
            match r.dialect, taskMark? c with
            | .extended, some (checked, c) =>
              if c.isBlank then ({ r.leaf (.task checked) with emptyItem := true }, none)
              else openContainers steps { r with task := some checked } c
            | _, _ => openContainers steps r c
        | none =>
          match inner.quoteMark? with
          | some c => openContainers steps (r.finishList.push .quote) c
          | none => (r, some c)

/-- Takes note of a blank line. -/
def blank (r : Reader) : Reader :=
  match r.frames with
  | ⟨.quote, _⟩ :: _ => r
  | ⟨.item _, done⟩ :: fs =>
    if r.emptyItem then { r with afterBlank := true, frames := ⟨.item 0, done⟩ :: fs }
    else { r with afterBlank := true }
  | _ => { r with afterBlank := true }

/-- Reads a paragraph, an underlined heading or a table; answers how many further lines it takes. -/
def paragraph (r : Reader) (cs : List Char) (closed : Bool) (rest : List Line) : Reader × Nat :=
  let outer := r.containers.reverse
  match tableColumns? r.dialect outer cs rest.head? with
  | some columns =>
    let n := columns.length
    let rows := tableRows r.dialect outer n (rest.drop 1)
    (r.leaf (.table columns (fitCells n (rowCells cs)) rows), rows.length + 1)
  | none =>
    let more := continuation r.dialect outer closed rest
    let text := Text.joinWith ['\n'] (cs :: more.lines)
    match more.underline with
    | some level =>
      let (tag, content) := headingAttributes r.dialect level text
      let content := (content.reverse.dropWhile isInlineBlank).reverse
      ({ r.leaf (.heading tag ⟨content, true, false⟩) with task := none }, more.lines.length + 1)
    | none =>
      ({ r.leaf (.paragraph false r.task ⟨text, more.closed, false⟩) with task := none },
        more.lines.length)

/-- Reads a leaf that begins at a place of a line; answers how many further lines it takes. -/
def readLeaf (r : Reader) (c : Cursor) (ending : Nat) (rest : List Line) : Reader × Nat :=
  let outer := r.containers.reverse
  let (k, inner) := c.indent 4
  let cs := inner.rest
  if k = 4 then
    let p := Pieces.addLine {} inner ending
    let (p, used, blank) := indentedLines outer p p 0 false rest
    ({ r.leaf (.code .indented p.texts) with afterBlank := blank }, used)
  else
    match htmlBlock? cs with
    | some stop =>
      let (more, used) := htmlLines outer stop cs 0 rest
      (r.leaf (.html (htmlLine (max c.pending k) cs ending ++ more)), used)
    | none =>
      if isRule cs then (r.leaf .rule, 0)
      else
        match numberSigns? cs with
        | some (level, content) =>
          let content := content.dropWhile isInlineBlank
          let (tag, content) := headingAttributes r.dialect level content
          (r.leaf (.heading tag ⟨dropClosingSigns content, false, false⟩), 0)
        | none =>
          match fence? cs with
          | some f =>
            let (p, used) := fencedLines outer f k {} 0 rest
            (r.leaf (.code (.fenced (unescape (Text.trimMatches isAnyBlank f.info))) p.texts), used)
          | none =>
            let more := continuation r.dialect outer (ending ≠ 0) rest
            let text := Text.joinWith ['\n'] (cs :: more.lines)
            match definition? text with
            | some (e, after) =>
              ({ r with defs := r.defs.addLink e }, more.lines.length - after.count '\n')
            | none => r.paragraph cs (ending ≠ 0) rest

/-- Reads a line; answers how many further lines it takes. -/
def readLine (r : Reader) (l : Line) (rest : List Line) : Reader × Nat :=
  let (n, c) := continueAll r.containers.reverse (Cursor.ofLine l)
  match openContainers (l.chars.length + 1) (r.closeTo n) c with
  | (r, none) => (r, 0)
  | (r, some c) => if c.isBlank then (r.blank, 0) else r.finishList.readLeaf c l.ending rest

/-- Reads lines, the first `skip` of which are used already. -/
def readLines (r : Reader) : Nat → List Line → Reader
  | _, [] => r
  | skip + 1, _ :: rest => r.readLines skip rest
  | 0, l :: rest =>
    let (r, skip) := r.readLine l rest
    r.readLines skip rest

end Reader

/-- The events of a markdown document. -/
def parse (d : Dialect) (text : String) : List Event :=
  let r := ({ dialect := d : Reader }).readLines 0 (Line.split text.toList)
  ((r.closeTo 0).done .nil).events (Prose.events d r.defs)

end Folio.Markup
