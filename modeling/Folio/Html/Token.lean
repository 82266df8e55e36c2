import Folio.Html.Element
import Folio.Text.Reference
import Folio.Unicode.Whitespace

/-! # Tokens of HTML

HTML text is cut into character runs, tags, comments and document types.  What the next token is depends
on the element being built: inside `title` only character references count, inside `style` and `script`
nothing but the end tag does, and CDATA sections exist in foreign content only.  `nextToken?` takes that
`TextMode` and answers the token together with the rest of the text. -/

namespace Folio.Html

/-- A start tag or an end tag. -/
structure TagToken where
  closing : Bool
  name : String
  attrs : List Attr := []
  selfClosing : Bool := false
deriving DecidableEq, Repr

/-- A token. -/
inductive Token where
  | chars (cs : List Char)
  | null
  | tag (t : TagToken)
  | comment (s : String)
  | doctype
  | stop
deriving DecidableEq, Repr

/-- How text is read. -/
inductive TextMode where
  | markup
  /-- Up to an end tag, with character references. -/
  | escapable (tag : String)
  /-- Up to an end tag, literally. -/
  | raw (tag : String)
  /-- Up to the end tag of a script, which comments may hide. -/
  | script
  /-- Up to the end of the text. -/
  | plain
deriving DecidableEq, Repr

open Unicode (isAsciiBlank)

/-- The replacement character. -/
def replacement : Char := Char.ofNat 0xFFFD

/-- A null character gives way to the replacement character. -/
def replaceNull (c : Char) : Char := if c.toNat = 0 then replacement else c

/-- Line ends are line feeds. -/
def normalizeLineEnds : List Char → List Char
  | '\r' :: '\n' :: cs => '\n' :: normalizeLineEnds cs
  | '\r' :: cs => '\n' :: normalizeLineEnds cs
  | c :: cs => c :: normalizeLineEnds cs
  | [] => []

/-! ### Character references -/

/-- The characters that the numbers 0x80 to 0x9F stand for in old pages; 0 where there is none. -/
def legacyNumbers : List Nat :=
  [0x20AC, 0, 0x201A, 0x0192, 0x201E, 0x2026, 0x2020, 0x2021, 0x02C6, 0x2030, 0x0160, 0x2039, 0x0152,
   0, 0x017D, 0, 0, 0x2018, 0x2019, 0x201C, 0x201D, 0x2022, 0x2013, 0x2014, 0x02DC, 0x2122, 0x0161,
   0x203A, 0x0153, 0, 0x017E, 0x0178]

/-- The character that a number stands for. -/
def numberedChar (n : Nat) : Char :=
  let legacy := if 0x80 ≤ n then legacyNumbers.getD (n - 0x80) 0 else 0
  if legacy ≠ 0 then Char.ofNat legacy
  else if n = 0 ∨ !n.isValidChar then replacement
  else Char.ofNat n

/-- What follows an optional semicolon. -/
def skipSemicolon : List Char → List Char
  | ';' :: cs => cs
  | cs => cs

/-- A numbered reference, its number sign passed, and what follows it. -/
def numberedReference? (cs : List Char) : Option (List Char × List Char) :=
  let read (base : Nat) (digits rest : List Char) : Option (List Char × List Char) :=
    if digits = [] then none
    else some ([numberedChar (Text.digitsValue base digits)], skipSemicolon rest)
  match cs with
  | x :: more =>
    if x == 'x' || x == 'X' then
      read 16 (more.takeWhile Text.isHexDigit) (more.dropWhile Text.isHexDigit)
    else read 10 (cs.takeWhile Char.isDigit) (cs.dropWhile Char.isDigit)
  | [] => none

/-- How many characters a reference takes at the start of a text, if it stands there. -/
def referenceLength? (r : Text.Reference) (cs : List Char) : Option Nat :=
  if r.name.isPrefixOf cs then
    if (cs.drop r.name.length).head? == some ';' then some (r.name.length + 1)
    else if r.bare then some r.name.length
    else none
  else none

/-- The longest named reference at the start of a text, its ampersand passed, and its length. -/
def longestReference? (cs : List Char) : Option (List Char × Nat) :=
  Text.references.foldl (fun best r =>
    match referenceLength? r cs with
    | some n => if (best.map (·.2)).getD 0 < n then some (r.text, n) else best
    | none => best) none

/-- A reference, its ampersand passed, and what follows it.  In an attribute a name without a semicolon
does not count before a letter, a digit or an equals sign. -/
def reference? (inAttr : Bool) (cs : List Char) : Option (List Char × List Char) :=
  match cs with
  | '#' :: rest => numberedReference? rest
  | _ =>
    if cs.head?.any Char.isAlphanum then
      match longestReference? cs with
      | some (s, n) =>
        let closed := (cs.drop (n - 1)).head? == some ';'
        let rest := cs.drop n
        if inAttr && !closed && rest.head?.any (fun c => c == '=' || c.isAlphanum) then none
        else some (s, rest)
      | none => none
    else none

/-- A text with its references resolved; as many steps as there are characters. -/
def decodeFrom (inAttr : Bool) : Nat → List Char → List Char
  | 0, cs => cs
  | _, [] => []
  | steps + 1, '&' :: cs =>
    match reference? inAttr cs with
    | some (s, rest) => s ++ decodeFrom inAttr steps rest
    | none => '&' :: decodeFrom inAttr steps cs
  | steps + 1, c :: cs => replaceNull c :: decodeFrom inAttr steps cs

/-- A text with its references resolved. -/
def decode (inAttr : Bool) (cs : List Char) : List Char := decodeFrom inAttr cs.length cs

/-! ### Tags -/

/-- Whether a character ends the name of a tag. -/
def endsTagName (c : Char) : Bool := isAsciiBlank c || c == '/' || c == '>'

/-- Whether a character ends the name of an attribute. -/
def endsAttrName (c : Char) : Bool := endsTagName c || c == '='

/-- A name as it is stored. -/
def storedName (cs : List Char) : String :=
  String.ofList (cs.map fun c => replaceNull c.toLower)

/-- The value of an attribute behind its equals sign, and what follows; nothing if the text ends. -/
def attrValue? (cs : List Char) : Option (List Char × List Char) :=
  let quoted (q : Char) (rest : List Char) : Option (List Char × List Char) :=
    match rest.dropWhile (· ≠ q) with
    | _ :: after => some (rest.takeWhile (· ≠ q), after)
    | [] => none
  match cs.dropWhile isAsciiBlank with
  | '"' :: rest => quoted '"' rest
  | '\x27' :: rest => quoted '\x27' rest
  | rest =>
    let isBare := fun c : Char => !(isAsciiBlank c || c == '>')
    match rest.dropWhile isBare with
    | [] => none
    | after => some (rest.takeWhile isBare, after)

/-- Adds an attribute unless there is one of its name. -/
def addAttr (attrs : List Attr) (name : String) (value : List Char) : List Attr :=
  if attrs.any (·.name == name) then attrs
  else attrs ++ [⟨name, String.ofList (decode true value)⟩]

/-- Reads attributes up to the end of a tag, in as many steps as there are characters; nothing if the
text ends. -/
def finishTag? : Nat → TagToken → List Char → Option (TagToken × List Char)
  | 0, _, _ => none
  | steps + 1, t, cs =>
    match cs.dropWhile isAsciiBlank with
    | [] => none
    | '>' :: rest => some (t, rest)
    | '/' :: '>' :: rest => some ({ t with selfClosing := true }, rest)
    | '/' :: rest => finishTag? steps t rest
    | c :: rest =>
      let name := storedName (c :: rest.takeWhile (!endsAttrName ·))
      match (rest.dropWhile (!endsAttrName ·)).dropWhile isAsciiBlank with
      | '=' :: valueText =>
        match attrValue? valueText with
        | some (value, after) => finishTag? steps { t with attrs := addAttr t.attrs name value } after
        | none => none
      | after => finishTag? steps { t with attrs := addAttr t.attrs name [] } after

/-- A tag whose name begins here; nothing if the text ends. -/
def tag? (closing : Bool) (cs : List Char) : Option (TagToken × List Char) :=
  let rest := cs.dropWhile (!endsTagName ·)
  finishTag? (rest.length + 1) ⟨closing, storedName (cs.takeWhile (!endsTagName ·)), [], false⟩ rest

/-! ### Comments -/

/-- The text of a comment up to its end, and what follows. -/
def commentText : List Char → List Char × List Char
  | [] => ([], [])
  | '-' :: '-' :: '>' :: rest => ([], rest)
  | '-' :: '-' :: '!' :: '>' :: rest => ([], rest)
  | ['-'] => ([], [])
  | ['-', '-'] => ([], [])
  | ['-', '-', '!'] => ([], [])
  | c :: cs =>
    let (s, rest) := commentText cs
    (replaceNull c :: s, rest)

/-- Something odd between angle brackets is a comment. -/
def oddComment (cs : List Char) : Token × List Char :=
  (.comment (String.ofList ((cs.takeWhile (· ≠ '>')).map replaceNull)),
    (cs.dropWhile (· ≠ '>')).drop 1)

/-- The text up to a mark, and what follows the mark. -/
def upTo (mark : List Char) : List Char → List Char × List Char
  | [] => ([], [])
  | c :: cs =>
    if mark.isPrefixOf (c :: cs) then ([], (c :: cs).drop mark.length)
    else
      let (s, rest) := upTo mark cs
      (c :: s, rest)

/-- A declaration whose exclamation mark has been passed. -/
def declaration (foreign : Bool) (cs : List Char) : Token × List Char :=
  match cs with
  | '-' :: '-' :: '>' :: rest => (.comment "", rest)
  | '-' :: '-' :: '-' :: '>' :: rest => (.comment "", rest)
  | '-' :: '-' :: rest =>
    let (s, after) := commentText rest
    (.comment (String.ofList s), after)
  | _ =>
    if Text.eqIgnoringCase (cs.take 7) "doctype".toList then
      (.doctype, (cs.dropWhile (· ≠ '>')).drop 1)
    else if foreign && "[CDATA[".toList.isPrefixOf cs then
      let (s, rest) := upTo "]]>".toList (cs.drop 7)
      (.chars (s.map replaceNull), rest)
    else oddComment cs

/-! ### Literal text -/

/-- Whether the end tag of an element stands at the start of a text. -/
def endsElement (tag : String) (cs : List Char) : Bool :=
  match cs with
  | '<' :: '/' :: rest =>
    let n := tag.length
    Text.eqIgnoringCase (rest.take n) tag.toList && (rest.drop n).head?.any endsTagName
  | _ => false

/-- The text up to the end tag of an element, and the rest from there on. -/
def literalText (tag : String) : List Char → List Char × List Char
  | [] => ([], [])
  | c :: cs =>
    if endsElement tag (c :: cs) then ([], c :: cs)
    else
      let (s, rest) := literalText tag cs
      (c :: s, rest)

/-- Where a script stands: in the open, in a comment, or in a script inside a comment. -/
inductive ScriptDepth where
  | code
  | hidden
  | nested
deriving DecidableEq, Repr

/-- Where a script stands behind a character, with the number of hyphens directly before. -/
def ScriptDepth.next (d : ScriptDepth) (hyphens : Nat) (cs : List Char) : ScriptDepth × Nat :=
  match cs with
  | '-' :: _ => (d, hyphens + 1)
  | '>' :: _ => (if 2 ≤ hyphens then .code else d, 0)
  | '<' :: rest =>
    match d with
    | .code => (if "!--".toList.isPrefixOf rest then .hidden else .code, 0)
    | .hidden =>
      let starts := Text.eqIgnoringCase (rest.take 6) "script".toList &&
        (rest.drop 6).head?.any endsTagName
      (if starts then .nested else .hidden, 0)
    | .nested => (if endsElement "script" cs then .hidden else .nested, 0)
  | _ => (d, 0)

/-- The text of a script up to its end tag, and the rest from there on. -/
def scriptText (d : ScriptDepth) (hyphens : Nat) : List Char → List Char × List Char
  | [] => ([], [])
  | c :: cs =>
    if d ≠ .nested && endsElement "script" (c :: cs) then ([], c :: cs)
    else
      let (d, hyphens) := d.next hyphens (c :: cs)
      let (s, rest) := scriptText d hyphens cs
      (c :: s, rest)

/-! ### The next token -/

/-- Whether a character ends a run of text. -/
def endsRun (c : Char) : Bool := c == '<' || c == '&' || c == '\n' || c.toNat == 0

/-- The token behind an angle bracket, if there is one, and what follows it. -/
def markupToken (foreign : Bool) (cs : List Char) : Option Token × List Char :=
  let text (s rest : List Char) : Option Token × List Char := (some (.chars s), rest)
  let tag (closing : Bool) (cs : List Char) : Option Token × List Char :=
    match tag? closing cs with
    | some (t, rest) => (some (.tag t), rest)
    | none => (none, [])
  match cs with
  | '!' :: rest =>
    let (t, after) := declaration foreign rest
    (some t, after)
  | '/' :: '>' :: rest => (none, rest)
  | '/' :: c :: rest =>
    if c.isAlpha then tag true (c :: rest)
    else
      let (t, after) := oddComment (c :: rest)
      (some t, after)
  | ['/'] => text ['<', '/'] []
  | '?' :: rest =>
    let (t, after) := oddComment ('?' :: rest)
    (some t, after)
  | c :: rest => if c.isAlpha then tag false (c :: rest) else text ['<'] (c :: rest)
  | [] => text ['<'] []

/-- The token at the start of markup, if there is one, and what follows it. -/
def nextMarkup (foreign : Bool) (cs : List Char) : Option Token × List Char :=
  match cs with
  | [] => (none, [])
  | '<' :: rest => markupToken foreign rest
  | '&' :: rest =>
    match reference? false rest with
    | some (s, after) => (some (.chars s), after)
    | none => (some (.chars ['&']), rest)
  | c :: rest =>
    if c.toNat = 0 then (some .null, rest)
    else if c == '\n' then (some (.chars ['\n']), rest)
    else (some (.chars (cs.takeWhile (!endsRun ·))), cs.dropWhile (!endsRun ·))

/-- The token at the start of a text, if there is one, and what follows it. -/
def nextToken (mode : TextMode) (foreign : Bool) (cs : List Char) : Option Token × List Char :=
  let literal (s rest : List Char) : Option Token × List Char :=
    if s = [] then nextMarkup foreign rest else (some (.chars s), rest)
  match mode with
  | .markup => nextMarkup foreign cs
  | .escapable tag =>
    let (s, rest) := literalText tag cs
    literal (decode false s) rest
  | .raw tag =>
    let (s, rest) := literalText tag cs
    literal (s.map replaceNull) rest
  | .script =>
    let (s, rest) := scriptText .code 0 cs
    literal (s.map replaceNull) rest
  | .plain => (some (.chars (cs.map replaceNull)), [])

end Folio.Html
