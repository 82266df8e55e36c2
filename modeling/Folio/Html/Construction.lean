import Folio.Html.Builder

/-! # Construction of a document

The rules of each mode say what a token does.  A rule finishes the token, or hands it on to the mode that
is in force after it (`Outcome.again`).  Inside SVG and MathML the rules of foreign content come first.
`readPage` reads a text as the content of the body of a page. -/

namespace Folio.Html

/-- What a rule has made of a token. -/
inductive Outcome where
  | done (b : Builder)
  | again (b : Builder) (t : Token)

namespace Builder

/-- Splits text into the blanks in front and the rest. -/
def splitBlanks (cs : List Char) : List Char × List Char :=
  (cs.takeWhile Unicode.isAsciiBlank, cs.dropWhile Unicode.isAsciiBlank)

/-! ### Content that any mode may hold -/

/-- The rules for the tags of the document head. -/
def headRule (b : Builder) (t : TagToken) : Builder :=
  if t.closing then b.closeTemplate
  else
    match t.name with
    | "title" => b.openLiteral t (.escapable "title")
    | "noframes" | "style" => b.openLiteral t (.raw t.name)
    | "script" => b.openLiteral t .script
    | "template" =>
      let b := b.openTag t |>.pushMark
      { b with mode := .inTemplate, templateModes := .inTemplate :: b.templateModes }
    | _ => b.addTag t

/-- Whether a tag belongs to the rules of the document head. -/
def isHeadTag (t : TagToken) : Bool :=
  if t.closing then t.name == "template" else headTags.contains t.name

/-! ### Foreign content -/

/-- Opens an SVG or MathML element. -/
def openForeign (b : Builder) (space : Space) (t : TagToken) : Builder :=
  let e : Element := ⟨space, foreignTag space t.name, foreignAttrs space t.attrs⟩
  if t.selfClosing then (b.insertElement e).1 else b.openElement e

/-- Whether a token is read by the rules of foreign content. -/
def isForeign (b : Builder) (t : Token) : Bool :=
  let n := b.currentName
  let isText := match t with
    | .chars _ | .null => true
    | _ => false
  let start? := match t with
    | .tag t => if t.closing then none else some t.name
    | _ => none
  if t == .stop || b.openElements.isEmpty || n.1 == .html then false
  else if isMathText n && (isText || start?.any fun s => s != "mglyph" && s != "malignmark") then false
  else if isSvgHtml n && (isText || start?.isSome) then false
  else if n == (.mathml, "annotation-xml") && start? == some "svg" then false
  else true

/-- Whether a start tag ends foreign content. -/
def breaksOut (t : TagToken) : Bool :=
  if t.closing then t.name == "br" || t.name == "p"
  else breakoutTags.contains t.name ||
    (t.name == "font" && t.attrs.any fun a => ["color", "face", "size"].contains a.name)

/-- The end tag of a foreign element: the nearest foreign element of its name is closed; nothing comes of
it if an HTML element stands in between. -/
def closeForeign (b : Builder) (tag : String) : List NodeId → Option Builder
  | [] => some b
  | id :: rest =>
    let n := b.nameOf id
    if n.1 == .html then none
    else if n.2.toLower == tag then
      some { b with openElements := (b.openElements.dropWhile (· ≠ id)).tail }
    else b.closeForeign tag rest

/-! ### The body -/

/-- Closes the list item that a new item of the same kind ends. -/
def closeItem (b : Builder) (tags : List String) : Builder :=
  let stopped := b.openElements.dropWhile fun id =>
    let n := b.nameOf id
    !isHtmlOf tags n &&
      (!isHtmlOf specialTags n || isHtmlOf ["address", "div", "p"] n)
  match stopped with
  | [] => b
  | id :: _ =>
    let n := b.nameOf id
    if isHtmlOf tags n then (b.closeImplied n.2).popThrough [n.2] else b

/-- A start tag in the body. -/
def bodyStart (b : Builder) (t : TagToken) : Builder :=
  let name := t.name
  if headTags.contains name then b.headRule t
  else if blockStartTags.contains name then b.closeParagraphInScope.openTag t
  else if headingTags.contains name then
    let b := b.closeParagraphInScope
    (if b.currentIs headingTags then b.pop else b).openTag t
  else if formattingTags.contains name then b.reconstruct.openFormatting t
  else if tablePartTags.contains name then b
  else
    match name with
    | "html" =>
      if b.hasOpen "template" then b
      else b.addMissingAttrs (b.openElements.getLast?.getD Tree.document) t.attrs
    | "body" =>
      match b.openElements.reverse with
      | _ :: second :: _ =>
        if isHtmlOf ["body"] (b.nameOf second) && !b.hasOpen "template" then
          b.addMissingAttrs second t.attrs
        else b
      | _ => b
    | "frame" | "frameset" | "head" => b
    | "pre" | "listing" => { b.closeParagraphInScope.openTag t with skipLineFeed := true }
    | "form" =>
      let free := b.hasOpen "template"
      if b.form.isSome && !free then b
      else
        let b := b.closeParagraphInScope.openTag t
        if free then b else { b with form := some b.current }
    | "li" => (b.closeItem ["li"]).closeParagraphInScope.openTag t
    | "dd" | "dt" => (b.closeItem ["dd", "dt"]).closeParagraphInScope.openTag t
    | "plaintext" => { b.closeParagraphInScope.openTag t with textMode := .plain }
    | "button" =>
      let b := if b.inScope .general ["button"] then b.closeImplied.popThrough ["button"] else b
      b.reconstruct.openTag t
    | "a" => b.closeOpenLink.reconstruct.openFormatting t
    | "nobr" =>
      let b := b.reconstruct
      let b := if b.inScope .general ["nobr"] then (b.adopt "nobr").reconstruct else b
      b.openFormatting t
    | "applet" | "marquee" | "object" => (b.reconstruct.openTag t).pushMark
    | "table" => { b.closeParagraphInScope.openTag t with mode := .inTable }
    | "area" | "br" | "embed" | "img" | "keygen" | "wbr" => b.reconstruct.addTag t
    | "image" => b.reconstruct.addTag { t with name := "img" }
    | "input" =>
      let b := if b.inScope .general ["select"] then b.popThrough ["select"] else b
      b.reconstruct.addTag t
    | "param" | "source" | "track" => b.addTag t
    | "hr" =>
      let b := b.closeParagraphInScope
      (if b.inScope .general ["select"] then b.closeImplied else b).addTag t
    | "textarea" => { b.openLiteral t (.escapable name) with skipLineFeed := true }
    | "xmp" => b.closeParagraphInScope.reconstruct.openLiteral t (.raw name)
    | "iframe" | "noembed" | "noscript" => b.openLiteral t (.raw name)
    | "select" =>
      if b.inScope .general ["select"] then b.popThrough ["select"] else b.reconstruct.openTag t
    | "option" =>
      let b := if b.inScope .general ["select"] then b.closeImplied "optgroup"
        else if b.currentIs ["option"] then b.pop else b
      b.reconstruct.openTag t
    | "optgroup" =>
      let b := if b.inScope .general ["select"] then b.closeImplied
        else if b.currentIs ["option"] then b.pop else b
      b.reconstruct.openTag t
    | "rb" | "rtc" =>
      (if b.inScope .general ["ruby"] then b.closeImplied else b).openTag t
    | "rp" | "rt" =>
      (if b.inScope .general ["ruby"] then b.closeImplied "rtc" else b).openTag t
    | "math" => b.reconstruct.openForeign .mathml t
    | "svg" => b.reconstruct.openForeign .svg t
    | _ => b.reconstruct.openTag t

/-- An end tag in the body. -/
def bodyEnd (b : Builder) (t : TagToken) : Outcome :=
  let name := t.name
  if name == "template" then .done b.closeTemplate
  else if blockEndTags.contains name then
    .done (if b.inScope .general [name] then b.closeImplied.popThrough [name] else b)
  else if headingTags.contains name then
    .done (if b.inScope .general headingTags then b.closeImplied.popThrough headingTags else b)
  else if formattingTags.contains name then .done (b.adopt name)
  else
    match name with
    | "body" => .done (if b.inScope .general ["body"] then { b with mode := .afterBody } else b)
    | "html" =>
      if b.inScope .general ["body"] then .again { b with mode := .afterBody } (.tag t) else .done b
    | "form" =>
      if b.hasOpen "template" then
        .done (if b.inScope .general ["form"] then b.closeImplied.popThrough ["form"] else b)
      else
        let freed := { b with form := none }
        match b.form with
        | some id =>
          .done (if b.inScopeWhere .general (· == id) then freed.closeImplied.removeOpen id else freed)
        | none => .done freed
    | "p" =>
      .done (if b.inScope .button ["p"] then b.closeParagraph
        else (b.openPhantom "p").closeParagraph)
    | "li" =>
      .done (if b.inScope .listItem ["li"] then (b.closeImplied "li").popThrough ["li"] else b)
    | "dd" | "dt" =>
      .done (if b.inScope .general [name] then (b.closeImplied name).popThrough [name] else b)
    | "a" | "nobr" => .done (b.adopt name)
    | "applet" | "marquee" | "object" =>
      .done (if b.inScope .general [name] then (b.closeImplied.popThrough [name]).clearToMark else b)
    | "br" => .done (b.reconstruct.addTag ⟨false, "br", [], false⟩)
    | _ => .done (b.closeAny name)

/-- The rules of a template at the end of the text. -/
def templateStop (b : Builder) : Outcome :=
  if b.hasOpen "template" then
    let b := (b.popThrough ["template"]).clearToMark
    .again { b with templateModes := b.templateModes.tail }.resetMode .stop
  else .done b

/-- The rules of the body. -/
def bodyRule (b : Builder) (t : Token) : Outcome :=
  match t with
  | .chars cs => .done (b.reconstruct.addText cs)
  | .null | .doctype => .done b
  | .comment s => .done (b.addComment s)
  | .tag t => if t.closing then b.bodyEnd t else .done (b.bodyStart t)
  | .stop => if b.templateModes.isEmpty then .done b else b.templateStop

/-- The rules of the body with stray children moved in front of the table. -/
def fosterRule (b : Builder) (t : Token) : Outcome :=
  match ({ b with fostering := true } : Builder).bodyRule t with
  | .done b => .done { b with fostering := false }
  | .again b t => .again { b with fostering := false } t

/-! ### Tables -/

/-- The rules of a table. -/
def tableRule (b : Builder) (t : Token) : Outcome :=
  let inTable := b.popTo ["table"]
  match t with
  | .chars _ | .null =>
    if b.currentIs fosterTags then
      .again { b with returnMode := b.mode, mode := .inTableText, pendingText := [] } t
    else b.fosterRule t
  | .comment s => .done (b.addComment s)
  | .doctype => .done b
  | .stop => b.bodyRule t
  | .tag tag =>
    if tag.closing then
      if tag.name == "table" then
        .done (if b.inScope .table ["table"] then (b.popThrough ["table"]).resetMode else b)
      else if tag.name == "template" then .done (b.headRule tag)
      else if tablePartTags.contains tag.name || tag.name == "body" || tag.name == "html" then .done b
      else b.fosterRule t
    else
      match tag.name with
      | "caption" => .done { (inTable.pushMark).openTag tag with mode := .inCaption }
      | "colgroup" => .done { inTable.openTag tag with mode := .inColumnGroup }
      | "col" => .again { inTable.openPhantom "colgroup" with mode := .inColumnGroup } t
      | "tbody" | "tfoot" | "thead" => .done { inTable.openTag tag with mode := .inTableBody }
      | "td" | "th" | "tr" => .again { inTable.openPhantom "tbody" with mode := .inTableBody } t
      | "table" =>
        if b.inScope .table ["table"] then .again (b.popThrough ["table"]).resetMode t else .done b
      | "style" | "script" | "template" => .done (b.headRule tag)
      | "input" =>
        let hidden := (Attr.find? tag.attrs "type").any fun v => v.toLower == "hidden"
        if hidden then .done (b.addTag tag) else b.fosterRule t
      | "form" =>
        if b.hasOpen "template" || b.form.isSome then .done b
        else .done { b.addTag tag with form := some b.tree.cells.size }
      | _ => b.fosterRule t

/-- The text of a table: blanks stay where they are, anything else is moved in front of the table. -/
def flushTableText (b : Builder) : Builder :=
  let texts := b.pendingText.reverse
  let b := { b with pendingText := [], mode := b.returnMode }
  if texts.all (·.all Unicode.isAsciiBlank) then texts.foldl addText b
  else
    texts.foldl (fun b cs =>
      match b.fosterRule (.chars cs) with
      | .done b | .again b _ => b) b

/-- The rules for text in a table. -/
def tableTextRule (b : Builder) (t : Token) : Outcome :=
  match t with
  | .null => .done b
  | .chars cs => .done { b with pendingText := cs :: b.pendingText }
  | _ => .again b.flushTableText t

/-- The rules of a caption. -/
def captionRule (b : Builder) (t : Token) : Outcome :=
  match t with
  | .tag tag =>
    let ends :=
      if tag.closing then tag.name == "table" || tag.name == "caption"
      else tablePartTags.contains tag.name
    if ends then
      if b.inScope .table ["caption"] then
        let b := { (b.closeImplied.popThrough ["caption"]).clearToMark with mode := .inTable }
        if tag.closing && tag.name == "caption" then .done b else .again b t
      else .done b
    else if tag.closing && (tablePartTags.contains tag.name || tag.name == "body" ||
        tag.name == "html") then .done b
    else b.bodyRule t
  | _ => b.bodyRule t

/-- The rules of a column group. -/
def columnGroupRule (b : Builder) (t : Token) : Outcome :=
  let leave (t : Token) : Outcome :=
    if b.currentIs ["colgroup"] then .again { b.pop with mode := .inTable } t else .done b
  match t with
  | .chars cs =>
    match splitBlanks cs with
    | ([], _) => leave t
    | (blanks, []) => .done (b.addText blanks)
    | (blanks, rest) => .again (b.addText blanks) (.chars rest)
  | .comment s => .done (b.addComment s)
  | .doctype => .done b
  | .stop => b.bodyRule t
  | .null => leave t
  | .tag tag =>
    match tag.closing, tag.name with
    | false, "html" => b.bodyRule t
    | false, "col" => .done (b.addTag tag)
    | _, "template" => .done (b.headRule tag)
    | true, "colgroup" =>
      .done (if b.currentIs ["colgroup"] then { b.pop with mode := .inTable } else b)
    | true, "col" => .done b
    | _, _ => leave t

/-- The rules of a table body. -/
def tableBodyRule (b : Builder) (t : Token) : Outcome :=
  let parts := ["tbody", "tfoot", "thead"]
  let inBody := b.popTo parts
  match t with
  | .tag tag =>
    if tag.closing then
      if parts.contains tag.name then
        .done (if b.inScope .table [tag.name] then { inBody.pop with mode := .inTable } else b)
      else if tag.name == "table" then
        if b.inScope .table parts then .again { inBody.pop with mode := .inTable } t else .done b
      else if tablePartTags.contains tag.name || tag.name == "body" || tag.name == "html" then .done b
      else b.tableRule t
    else
      match tag.name with
      | "tr" => .done { inBody.openTag tag with mode := .inRow }
      | "td" | "th" => .again { inBody.openPhantom "tr" with mode := .inRow } t
      | "caption" | "col" | "colgroup" | "tbody" | "tfoot" | "thead" =>
        if b.inScope .table parts then .again { inBody.pop with mode := .inTable } t else .done b
      | _ => b.tableRule t
  | _ => b.tableRule t

/-- The rules of a table row. -/
def rowRule (b : Builder) (t : Token) : Outcome :=
  let parts := ["tbody", "tfoot", "thead"]
  let inRow := b.popTo ["tr"]
  let hasRow := b.inScope .table ["tr"]
  let left := { inRow.pop with mode := .inTableBody }
  match t with
  | .tag tag =>
    if tag.closing then
      if tag.name == "tr" then .done (if hasRow then left else b)
      else if tag.name == "table" then if hasRow then .again left t else .done b
      else if parts.contains tag.name then
        if b.inScope .table [tag.name] && hasRow then .again left t else .done b
      else if tablePartTags.contains tag.name || tag.name == "body" || tag.name == "html" then .done b
      else b.tableRule t
    else
      match tag.name with
      | "td" | "th" => .done { (inRow.openTag tag).pushMark with mode := .inCell }
      | "caption" | "col" | "colgroup" | "tbody" | "tfoot" | "thead" | "tr" =>
        if hasRow then .again left t else .done b
      | _ => b.tableRule t
  | _ => b.tableRule t

/-- The rules of a table cell. -/
def cellRule (b : Builder) (t : Token) : Outcome :=
  match t with
  | .tag tag =>
    if tag.closing then
      match tag.name with
      | "td" | "th" =>
        .done (if b.inScope .table [tag.name] then
          { (b.closeImplied.popThrough [tag.name]).clearToMark with mode := .inRow } else b)
      | "body" | "caption" | "col" | "colgroup" | "html" => .done b
      | "table" | "tbody" | "tfoot" | "thead" | "tr" =>
        if b.inScope .table [tag.name] then .again b.closeCell t else .done b
      | _ => b.bodyRule t
    else if tablePartTags.contains tag.name then
      if b.inScope .table ["td", "th"] then .again b.closeCell t else .done b
    else b.bodyRule t
  | _ => b.bodyRule t

/-! ### Templates and the end -/

/-- The rules of a template. -/
def templateRule (b : Builder) (t : Token) : Outcome :=
  let change (mode : Mode) : Outcome :=
    .again { b with mode, templateModes := mode :: b.templateModes.tail } t
  match t with
  | .tag tag =>
    if isHeadTag tag then .done (b.headRule tag)
    else if tag.closing then .done b
    else
      match tag.name with
      | "caption" | "colgroup" | "tbody" | "tfoot" | "thead" => change .inTable
      | "col" => change .inColumnGroup
      | "tr" => change .inTableBody
      | "td" | "th" => change .inRow
      | _ => change .inBody
  | .stop => b.templateStop
  | _ => b.bodyRule t

/-- The rules for text that is read literally. -/
def textRule (b : Builder) (t : Token) : Outcome :=
  let closed := { b.pop with mode := b.returnMode, textMode := .markup }
  match t with
  | .chars cs => .done (b.addText cs)
  | .stop => .again closed t
  | .tag _ => .done closed
  | _ => .done b

/-- The rules behind the body: blanks and tags belong to the body, and comments go to `parent`. -/
def afterRule (b : Builder) (parent : NodeId) (t : Token) : Outcome :=
  let back (t : Token) : Outcome := .again { b with mode := .inBody } t
  match t with
  | .chars cs =>
    match splitBlanks cs with
    | ([], _) => back t
    | (blanks, []) => b.bodyRule (.chars blanks)
    | (blanks, rest) =>
      match b.bodyRule (.chars blanks) with
      | .done b | .again b _ => .again b (.chars rest)
  | .comment s => .done (b.addCommentIn parent s)
  | .doctype | .stop => .done b
  | .null => back t
  | .tag tag =>
    if !tag.closing && tag.name == "html" then b.bodyRule t
    else if tag.closing && tag.name == "html" && b.mode == .afterBody then
      .done { b with mode := .afterDocument }
    else back t

/-- The rules of the mode in force. -/
def rule (b : Builder) (t : Token) : Outcome :=
  match b.mode with
  | .inBody => b.bodyRule t
  | .text => b.textRule t
  | .inTable => b.tableRule t
  | .inTableText => b.tableTextRule t
  | .inCaption => b.captionRule t
  | .inColumnGroup => b.columnGroupRule t
  | .inTableBody => b.tableBodyRule t
  | .inRow => b.rowRule t
  | .inCell => b.cellRule t
  | .inTemplate => b.templateRule t
  | .afterBody => b.afterRule (b.openElements.getLast?.getD Tree.document) t
  | .afterDocument => b.afterRule Tree.document t

/-- The rules of foreign content. -/
def foreignRule (b : Builder) (t : Token) : Outcome :=
  match t with
  | .null => .done (b.addText [replacement])
  | .chars cs => .done (b.addText cs)
  | .comment s => .done (b.addComment s)
  | .doctype | .stop => .done b
  | .tag tag =>
    if breaksOut tag then
      (b.popWhile fun n => n.1 != .html && !isMathText n && !isSvgHtml n).rule t
    else if tag.closing then
      match b.closeForeign tag.name b.openElements with
      | some b => .done b
      | none => b.rule t
    else .done (b.openForeign b.currentName.1 tag)

/-- Reads a token, which may be handed on a number of times. -/
def process : Nat → Builder → Token → Builder
  | 0, b, _ => b
  | steps + 1, b, t =>
    match if b.isForeign t then b.foreignRule t else b.rule t with
    | .done b => b
    | .again b t => process steps b t

/-- How often a token may be handed on. -/
def handOns (b : Builder) : Nat := 2 * b.openElements.length + 16

/-- Reads a token; a line feed directly behind some start tags does not count. -/
def read (b : Builder) (t : Token) : Builder :=
  match b.skipLineFeed, t with
  | true, .chars ('\n' :: cs) =>
    let b := { b with skipLineFeed := false }
    if cs = [] then b else process b.handOns b (.chars cs)
  | _, _ => process b.handOns { b with skipLineFeed := false } t

/-- Reads a text to its end, in as many steps as there are characters. -/
def readAll : Nat → Builder → List Char → Builder
  | 0, b, _ => b.read .stop
  | _ + 1, b, [] => b.read .stop
  | steps + 1, b, cs =>
    let foreign := !b.openElements.isEmpty && b.currentName.1 != .html
    match nextToken b.textMode foreign cs with
    | (some t, rest) => readAll steps (b.read t) rest
    | (none, rest) => readAll steps b rest

/-- An empty page whose body is open. -/
def page : Builder :=
  let start : Builder := ⟨(Tree.empty.create .doctype).append Tree.document 1, [], [], .inBody, .inBody,
    [], [], none, false, false, .markup⟩
  let b := start.openPhantom "html"
  let b := { b with tree := (b.tree.create (.element (.ofHtml "head"))).append b.current b.tree.cells.size }
  b.openPhantom "body"

end Builder

/-- The tree of a page whose body holds a text. -/
def readPage (html : String) : Tree :=
  let cs := normalizeLineEnds (html.toList ++ "</body></html>".toList)
  (Builder.readAll (cs.length + 1) Builder.page cs).tree

end Folio.Html
