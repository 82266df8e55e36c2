import Folio.Text.Html

/-! # Highlighted JSON

A JSON text is written with a span around each of its parts: the whole, constants, numbers, strings
with their quotes and escapes, arrays, and dictionaries with their keys and values.  The reader keeps
a stack of the parts that are open and never fails: a character that does not fit where it stands is
marked as such. -/

namespace Folio.Highlight

/-- A part of a JSON text that can be open. -/
inductive JsonPart where
  | whole
  | array
  | dictionary
  | value
  | key
  | string
  | blockComment
deriving DecidableEq, Repr

/-- Opens a span. -/
def openSpan (scope : String) : String := "<span class=\"" ++ scope ++ "\">"

/-- Closes a span. -/
def closeSpan : String := "</span>"

/-- A text in a span of its own. -/
def spanned (scope : String) (cs : List Char) : String :=
  openSpan scope ++ Text.escapeHtml (String.ofList cs) ++ closeSpan

/-- The number of spans that a part has open. -/
def JsonPart.spans : JsonPart → Nat
  | .key => 2
  | _ => 1

/-- The end tags of a part. -/
def JsonPart.close (part : JsonPart) : String := String.join (List.replicate part.spans closeSpan)

/-- Whether a character continues a word. -/
def isWordChar (c : Char) : Bool := c.isAlphanum || c == '_'

/-- The constant that a text starts with, `before` being the character in front of it. -/
def jsonConstant? (before : Option Char) (cs : List Char) : Option (List Char × List Char) :=
  let word := cs.takeWhile isWordChar
  if before.any isWordChar then none
  else if word = "true".toList ∨ word = "false".toList ∨ word = "null".toList then
    some (word, cs.drop word.length)
  else none

/-- The fraction or exponent digits after a mark of one character and an optional sign. -/
def jsonDigitsAfter (mark : Char → Bool) (signs : Bool) (cs : List Char) :
    Option (List Char × List Char) :=
  match cs with
  | c :: rest =>
    if mark c then
      let sign := if signs then rest.takeWhile (fun c => c == '+' || c == '-') |>.take 1 else []
      let tail := rest.drop sign.length
      let digits := tail.takeWhile Char.isDigit
      if digits.isEmpty then none else some (c :: sign ++ digits, tail.drop digits.length)
    else none
  | [] => none

/-- The number that a text starts with. -/
def jsonNumber? (cs : List Char) : Option (List Char × List Char) :=
  let sign := cs.take (if cs.head? == some '-' then 1 else 0)
  let tail := cs.drop sign.length
  let whole :=
    match tail with
    | '0' :: _ => ['0']
    | c :: _ => if c.isDigit then tail.takeWhile Char.isDigit else []
    | [] => []
  if whole.isEmpty then none
  else
    let tail := tail.drop whole.length
    let (fraction, tail) := (jsonDigitsAfter (· == '.') false tail).getD ([], tail)
    let (exponent, tail) :=
      (jsonDigitsAfter (fun c => c == 'e' || c == 'E') true tail).getD ([], tail)
    some (sign ++ whole ++ fraction ++ exponent, tail)

/-- The escape that a text starts with, and whether it is a known one. -/
def jsonEscape? (cs : List Char) : Option (List Char × Bool × List Char) :=
  match cs with
  | '\\' :: 'u' :: rest =>
    let hex := (rest.take 4).takeWhile fun c => c.isDigit || ('a' ≤ c.toLower && c.toLower ≤ 'f')
    if hex.length = 4 then some ('\\' :: 'u' :: hex, true, rest.drop 4)
    else some (['\\', 'u'], false, rest)
  | '\\' :: c :: rest =>
    if c = '\n' then none else some (['\\', c], "\"\\/bfnrt".toList.contains c, rest)
  | _ => none

/-- What a value may start with, in the part on top of the stack. -/
def jsonValue? (before : Option Char) (stack : List JsonPart) (cs : List Char) :
    Option (String × List JsonPart × List Char) :=
  match jsonConstant? before cs with
  | some (word, rest) => some (spanned "constant language json" word, stack, rest)
  | none =>
    match jsonNumber? cs with
    | some (number, rest) => some (spanned "constant numeric json" number, stack, rest)
    | none =>
      match cs with
      | '"' :: rest =>
        some (openSpan "string quoted double json" ++
          spanned "punctuation definition string begin json" ['"'], .string :: stack, rest)
      | '[' :: rest =>
        some (openSpan "meta structure array json" ++
          spanned "punctuation section array begin json" ['['], .array :: stack, rest)
      | '{' :: rest =>
        some (openSpan "meta structure dictionary json" ++
          spanned "punctuation section dictionary begin json" ['{'], .dictionary :: stack, rest)
      | _ => none

/-- A comment that starts here. -/
def jsonComment? (stack : List JsonPart) (cs : List Char) :
    Option (String × List JsonPart × List Char) :=
  match cs with
  | '/' :: '*' :: rest =>
    some (openSpan "comment block json" ++ spanned "punctuation definition comment json" ['/', '*'],
      .blockComment :: stack, rest)
  | '/' :: '/' :: rest =>
    let line := rest.takeWhile (· ≠ '\n')
    let after := rest.drop line.length
    some (openSpan "comment line double-slash js" ++
      spanned "punctuation definition comment json" ['/', '/'] ++
      Text.escapeHtml (String.ofList (line ++ after.take 1)) ++ closeSpan, stack, after.drop 1)
  | _ => none

/-- A character of the text as it is. -/
def plainChar (c : Char) : String := Text.escapeHtml (String.ofList [c])

/-- A blank stands as it is; any other character is marked with the scope of what was expected. -/
def jsonStray (scope : String) (c : Char) : String :=
  if c.isWhitespace then plainChar c else spanned scope [c]

/-- One step of the reader: what is written, the stack after it and the rest of the text. -/
def jsonStep (before : Option Char) (stack : List JsonPart) (c : Char) (rest : List Char) :
    String × List JsonPart × List Char :=
  let cs := c :: rest
  match stack with
  | .string :: below =>
    if c = '"' then
      (spanned "punctuation definition string end json" [c] ++ closeSpan, below, rest)
    else
      match jsonEscape? cs with
      | some (e, true, rest) => (spanned "constant character escape json" e, stack, rest)
      | some (e, false, rest) => (spanned "invalid illegal unrecognized-string-escape json" e, stack, rest)
      | none => (plainChar c, stack, rest)
  | .key :: below =>
    if c = '"' then
      (spanned "punctuation definition string end json" [c] ++ JsonPart.key.close, below, rest)
    else
      match jsonEscape? cs with
      | some (e, true, rest) => (spanned "constant character escape json" e, stack, rest)
      | some (e, false, rest) => (spanned "invalid illegal unrecognized-string-escape json" e, stack, rest)
      | none => (plainChar c, stack, rest)
  | .blockComment :: below =>
    match cs with
    | '*' :: '/' :: rest => (spanned "punctuation definition comment json" ['*', '/'] ++ closeSpan, below, rest)
    | _ => (plainChar c, stack, rest)
  | .array :: below =>
    if c = ']' then (spanned "punctuation section array end json" [c] ++ closeSpan, below, rest)
    else
      match (jsonValue? before stack cs).or (jsonComment? stack cs) with
      | some r => r
      | none =>
        if c = ',' then (spanned "punctuation separator array json" [c], stack, rest)
        else (jsonStray "invalid illegal expected-array-separator json" c, stack, rest)
  | .dictionary :: below =>
    if c = '}' then (spanned "punctuation section dictionary end json" [c] ++ closeSpan, below, rest)
    else if c = '"' then
      (openSpan "meta structure dictionary key json" ++ openSpan "string quoted double json" ++
        spanned "punctuation definition string begin json" [c], .key :: stack, rest)
    else
      match jsonComment? stack cs with
      | some r => r
      | none =>
        if c = ':' then
          (openSpan "meta structure dictionary value json" ++
            spanned "punctuation separator dictionary key-value json" [c], .value :: stack, rest)
        else (jsonStray "invalid illegal expected-dictionary-separator json" c, stack, rest)
  | .value :: below =>
    if c = ',' then
      (spanned "punctuation separator dictionary pair json" [c] ++ closeSpan, below, rest)
    else if c = '}' then
      match below with
      | .dictionary :: under =>
        (closeSpan ++ spanned "punctuation section dictionary end json" [c] ++ closeSpan, under, rest)
      | _ => (closeSpan ++ plainChar c, below, rest)
    else
      match (jsonValue? before stack cs).or (jsonComment? stack cs) with
      | some r => r
      | none => (jsonStray "invalid illegal expected-dictionary-separator json" c, stack, rest)
  | _ =>
    match (jsonValue? before stack cs).or (jsonComment? stack cs) with
    | some r => r
    | none => (plainChar c, stack, rest)

/-- Reads a JSON text within a number of steps; every step takes a character, so as many steps as the
text has characters suffice. -/
def jsonFrom : Nat → Option Char → List JsonPart → List Char → List String
  | 0, _, stack, _ | _ + 1, _, stack, [] => stack.map JsonPart.close
  | steps + 1, before, stack, c :: rest =>
    let (out, stack', rest') := jsonStep before stack c rest
    out :: jsonFrom steps (some ((c :: rest).getD (rest.length - rest'.length) c)) stack' rest'

/-- A JSON text with its parts in spans; an empty text has none. -/
def jsonHtml (code : String) : String :=
  let cs := code.toList
  if cs.isEmpty then ""
  else openSpan "source json" ++ String.join (jsonFrom (cs.length + 1) none [.whole] cs)

end Folio.Highlight
