import Folio.Markup.Token
import Folio.Unicode.CaseFold

/-! # Labels, destinations and definitions

The parts of links: a label in brackets, a destination and a title.  A link reference definition puts
the three together, and `Definitions` keeps what a document defines; labels are compared without
regard to case and to the width of blanks. -/

namespace Folio.Markup

/-! ### Labels -/

/-- The longest label. -/
def labelLimit : Nat := 999

/-- What follows a label whose opening bracket has been passed, and the label as it stands. -/
def scanLabel : List Char → Option (List Char × List Char)
  | [] => none
  | '\\' :: c :: cs => (scanLabel cs).map fun (label, rest) => ('\\' :: c :: label, rest)
  | c :: cs =>
    if c == '[' then none
    else if c == ']' then some ([], cs)
    else (scanLabel cs).map fun (label, rest) => (c :: label, rest)

/-- A label with each stretch of blanks narrowed to one. -/
def narrowLabel (label : List Char) : List Char :=
  let narrow := fun (c : Char) (rest : List Char) =>
    if isAnyBlank c then (if rest.head?.any isAnyBlank then rest else ' ' :: rest) else c :: rest
  (Text.trimMatches isAnyBlank label).foldr narrow []

/-- The label whose opening bracket has been passed, and what follows it. -/
def label? (cs : List Char) : Option (String × List Char) :=
  match scanLabel cs with
  | some (label, rest) =>
    if label.all isAnyBlank || labelLimit < label.length then none
    else some (String.ofList (narrowLabel label), rest)
  | none => none

/-- The label of a footnote at the start of a text, and what follows it. -/
def footnoteLabel? (cs : List Char) : Option (String × List Char) :=
  match cs with
  | '[' :: '^' :: rest =>
    match label? rest with
    | some (label, after) =>
      if (rest.take (rest.length - after.length)).any isLineEnd then none else some (label, after)
    | none => none
  | _ => none

/-- What a label is compared by. -/
def labelKey (label : String) : List Char := Unicode.fold label.toList

/-! ### Destinations and titles -/

/-- The deepest nesting of parentheses in a destination. -/
def nestingLimit : Nat := 6

/-- A destination without angle brackets, inside `depth` parentheses; `skip` characters are taken
already. -/
def scanBareTarget (depth : Nat) : Nat → List Char → Option (List Char × List Char)
  | _, [] => if depth = 0 then some ([], []) else none
  | skip + 1, c :: cs => (scanBareTarget depth skip cs).map fun (t, rest) => (c :: t, rest)
  | 0, c :: cs =>
    let keep (depth skip : Nat) :=
      (scanBareTarget depth skip cs).map fun (t, rest) => (c :: t, rest)
    if c.toNat ≤ 0x20 then if depth = 0 then some ([], c :: cs) else none
    else if c == '(' then if depth < nestingLimit then keep (depth + 1) 0 else none
    else if c == ')' then if depth = 0 then some ([], c :: cs) else keep (depth - 1) 0
    else if c == '\\' && cs.head?.any Unicode.isAsciiPunctuation then keep depth 1
    else keep depth 0

/-- A destination in angle brackets, the first of which has been passed. -/
def scanPointedTarget : List Char → Option (List Char × List Char)
  | [] => none
  | '\\' :: c :: cs =>
    if Unicode.isAsciiPunctuation c then
      (scanPointedTarget cs).map fun (t, rest) => ('\\' :: c :: t, rest)
    else (scanPointedTarget (c :: cs)).map fun (t, rest) => ('\\' :: t, rest)
  | c :: cs =>
    if isLineEnd c || c == '<' then none
    else if c == '>' then some ([], cs)
    else (scanPointedTarget cs).map fun (t, rest) => (c :: t, rest)

/-- The destination at the start of a text, and what follows it. -/
def target? : List Char → Option (List Char × List Char)
  | '<' :: cs => scanPointedTarget cs
  | cs => scanBareTarget 0 0 cs

/-- The text up to a closing mark that is not escaped, and what follows the mark; `inner` may not stand
in it. -/
def scanTitle (inner close : Char) : List Char → Option (List Char × List Char)
  | [] => none
  | '\\' :: c :: cs => (scanTitle inner close cs).map fun (t, rest) => ('\\' :: c :: t, rest)
  | c :: cs =>
    if c == close then some ([], cs)
    else if c == inner then none
    else (scanTitle inner close cs).map fun (t, rest) => (c :: t, rest)

/-- The lines of a title without their indentation. -/
def unindentLines : Bool → List Char → List Char
  | _, [] => []
  | start, c :: cs =>
    if start && isInlineBlank c then unindentLines true cs
    else c :: unindentLines (c == '\n') cs

/-- The title at the start of a text, and what follows it. -/
def title? (cs : List Char) : Option (String × List Char) :=
  let read (inner close : Char) (rest : List Char) :=
    (scanTitle inner close rest).map fun (t, after) => (unescape (unindentLines false t), after)
  match cs with
  | '"' :: rest => read '"' '"' rest
  | '\x27' :: rest => read '\x27' '\x27' rest
  | '(' :: rest => read '(' ')' rest
  | _ => none

/-- Passes over blanks with at most one line end among them. -/
def skipSeparator (cs : List Char) : List Char :=
  match cs.dropWhile isInlineBlank with
  | '\n' :: rest => rest.dropWhile isInlineBlank
  | rest => rest

/-- The destination and the title in the parentheses at the start of a text, and what follows. -/
def inlineTarget? (cs : List Char) : Option (String × String × List Char) :=
  match cs with
  | '(' :: rest =>
    match target? (skipSeparator rest) with
    | some (url, after) =>
      let after := skipSeparator after
      let (title, after) := match title? after with
        | some (title, more) => (title, skipSeparator more)
        | none => ("", after)
      match after with
      | ')' :: more => some (unescape url, title, more)
      | _ => none
    | none => none
  | _ => none

/-! ### Definitions -/

/-- What a label is defined as. -/
structure Definition where
  label : String
  url : String
  title : String
deriving DecidableEq, Repr

/-- What a document defines: the labels of links, and the labels of footnotes. -/
structure Definitions where
  links : List Definition := []
  footnotes : List String := []

namespace Definitions

/-- The first definition of a label. -/
def link? (d : Definitions) (label : String) : Option Definition :=
  d.links.find? fun e => labelKey e.label == labelKey label

/-- Whether a footnote of a label is defined. -/
def hasFootnote (d : Definitions) (label : String) : Bool :=
  d.footnotes.any fun e => labelKey e == labelKey label

/-- Adds a definition; an earlier one of its label stays in force. -/
def addLink (d : Definitions) (e : Definition) : Definitions := { d with links := d.links ++ [e] }

/-- Adds the label of a footnote. -/
def addFootnote (d : Definitions) (label : String) : Definitions :=
  { d with footnotes := d.footnotes ++ [label] }

end Definitions

/-- Whether nothing but blanks is left up to the end of the line. -/
def restIsBlank (cs : List Char) : Bool := (cs.takeWhile (· ≠ '\n')).all isInlineBlank

/-- The link reference definition at the start of a text, and what follows it. -/
def definition? (cs : List Char) : Option (Definition × List Char) :=
  match cs with
  | '[' :: inner =>
    match label? inner with
    | some (label, ':' :: afterLabel) =>
      let start := skipSeparator afterLabel
      match target? start with
      | some (url, afterUrl) =>
        if afterUrl.length = start.length then none
        else
          let untitled := some (⟨label, unescape url, ""⟩, afterUrl)
          let next := skipSeparator afterUrl
          let ownLine := restIsBlank afterUrl
          if next = [] then untitled
          else if next.length = afterUrl.length then none
          else
            match title? next with
            | some (title, afterTitle) =>
              if restIsBlank afterTitle then some (⟨label, unescape url, title⟩, afterTitle)
              else if ownLine then untitled
              else none
            | none => if ownLine then untitled else none
      | none => none
    | _ => none
  | _ => none

end Folio.Markup
