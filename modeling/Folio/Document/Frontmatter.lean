import Std.Data.TreeMap
import Folio.Document.Date
import Folio.Engines.Basic
import Folio.Json.Value
import Folio.Text.Quoted

/-! # Frontmatter

A document may open with a YAML mapping between two lines of three hyphens (`splitFrontmatter`).  Some of
its fields are known (`Frontmatter`), and all others are kept as they are.  `Document.ofText` reads a
document, and `Frontmatter.json` writes the fields for an artifact. -/

namespace Folio

/-- The fields of a document. -/
structure Frontmatter where
  title : Option String := none
  description : Option String := none
  tags : List String := []
  redirects : List String := []
  pinned : Bool := false
  draft : Bool := false
  dateText : Option String := none
  summarized : Bool := false
  summaries : List String := []
  extra : Std.TreeMap String Yaml.Value := ∅

/-- The day of a document. -/
def Frontmatter.date? (f : Frontmatter) : Option Date := f.dateText.bind Date.ofText?

/-- A source file: its fields and its text. -/
structure Document where
  frontmatter : Frontmatter
  body : String

/-! ### Values of fields -/

/-- The text of a number; one that is not finite has a word of its own. -/
def Yaml.floatText (f : Float) : String :=
  match Decimal.split f with
  | .inl .nan => ".nan"
  | .inl (.infinite negative) => if negative then "-.inf" else ".inf"
  | .inr b => b.compact

namespace Yaml.Value

/-- A value without the tag in front of it. -/
def untagged : Value → Value
  | tagged _ v => untagged v
  | v => v

mutual

/-- Whether a tag stands anywhere in a value. -/
def hasTag : Value → Bool
  | tagged _ _ => true
  | sequence items => hasTagItems items
  | mapping entries => hasTagEntries entries
  | _ => false

/-- Whether a tag stands in one of some values. -/
def hasTagItems : List Value → Bool
  | [] => false
  | v :: vs => v.hasTag || hasTagItems vs

/-- Whether a tag stands in one of some entries. -/
def hasTagEntries : List (Value × Value) → Bool
  | [] => false
  | (k, v) :: es => k.hasTag || v.hasTag || hasTagEntries es

end

/-- The text of a value that is a text, a number or a truth value. -/
def scalarText? : Value → Option String
  | text s => some s
  | int n => some (toString n)
  | float f => some (floatText f)
  | bool b => some (toString b)
  | _ => none

/-- The texts of a list, or of a value alone. -/
def texts : Value → List String
  | sequence items => items.filterMap scalarText?
  | v => v.scalarText?.toList

/-- How a message names a value. -/
def kind : Value → String
  | null => "unit value"
  | bool b => "boolean \x60" ++ toString b ++ "\x60"
  | int n => "integer \x60" ++ toString n ++ "\x60"
  | float f =>
    let digits :=
      match Decimal.split f with
      | .inl .nan => "NaN"
      | .inl (.infinite negative) => if negative then "-inf" else "inf"
      | .inr b => b.positional
    "floating point \x60" ++ digits ++ "\x60"
  | text s => "string " ++ Text.quoted s
  | sequence _ => "sequence"
  | mapping _ => "map"
  | tagged _ _ => "enum"

end Yaml.Value

/-! ### Errors -/

/-- What a field has to be. -/
inductive FieldType where
  | bool
  | text
  | name
deriving DecidableEq, Repr

/-- How a message names what a field has to be. -/
def FieldType.title : FieldType → String
  | .bool => "a boolean"
  | .text => "a string"
  | .name => "field identifier"

/-- Why frontmatter is refused; what is malformed comes with the report of the reader. -/
inductive FrontmatterError where
  | malformed {report : String}
  | notMapping
  | wrongType (found : Yaml.Value) (expected : FieldType)
  | repeated (field : String)
  | taggedField

/-- The wording of a refusal. -/
def FrontmatterError.message : FrontmatterError → String
  | @malformed report => "Invalid YAML: " ++ report
  | .notMapping => "Frontmatter must be a mapping"
  | .wrongType found expected =>
    "Invalid YAML: invalid type: " ++ found.kind ++ ", expected " ++ expected.title
  | .repeated field => "Invalid YAML: duplicate field \x60" ++ field ++ "\x60"
  | .taggedField => "Invalid YAML: untagged and internally tagged enums do not support enum input"

/-! ### Reading -/

/-- What follows a line break, with a carriage return or without one. -/
def afterBreak? : List Char → Option (List Char)
  | '\r' :: '\n' :: rest => some rest
  | '\n' :: rest => some rest
  | _ => none

/-- What follows three hyphens and the blanks after them. -/
def afterFence? : List Char → Option (List Char)
  | '-' :: '-' :: '-' :: rest => some (rest.dropWhile fun c => c == ' ' || c == '\t')
  | _ => none

/-- The body that a text is followed by, if it stands after a line break and a closing line. -/
def closedBody? (cs : List Char) : Option (List Char) := do
  let rest ← (← afterBreak? cs) |> afterFence?
  if rest = [] then some [] else afterBreak? rest

/-- The text up to the first closing line, and the body after it. -/
def splitAtFence : List Char → Option (List Char × List Char)
  | [] => none
  | c :: cs =>
    match closedBody? (c :: cs) with
    | some body => some ([], body)
    | none => (splitAtFence cs).map fun (front, body) => (c :: front, body)

/-- The frontmatter and the body of a text that opens with frontmatter. -/
def splitFrontmatter (source : String) : Option (String × String) := do
  let cs := source.toList
  let cs := if cs.head? = some '\uFEFF' then cs.tail else cs
  let rest ← (← afterFence? cs) |> afterBreak?
  let (front, body) ← splitAtFence rest
  some (String.ofList front, String.ofList body)

/-- The text of a field that holds a text or nothing. -/
def optionalText : Yaml.Value → Except FrontmatterError (Option String)
  | .null => .ok none
  | v =>
    match v.untagged with
    | .text s => .ok (some s)
    | v => .error (.wrongType v .text)

/-- The truth value of a field. -/
def flag (v : Yaml.Value) : Except FrontmatterError Bool :=
  match v.untagged with
  | .bool b => .ok b
  | v => .error (.wrongType v .bool)

/-- The name of a field. -/
def fieldName (v : Yaml.Value) : Except FrontmatterError String :=
  match v.untagged with
  | .text s => .ok s
  | v => .error (.wrongType v .name)

/-- The fields that a document may set. -/
def knownFields : List String :=
  ["title", "description", "tags", "redirect", "pinned", "draft", "date", "ai_summary",
    "ai_generated_summary"]

/-- Sets one field. -/
def Frontmatter.set (f : Frontmatter) (name : String) (v : Yaml.Value) :
    Except FrontmatterError Frontmatter :=
  match name with
  | "title" => .ok { f with title := v.scalarText? }
  | "description" => (optionalText v).map fun s => { f with description := s }
  | "tags" => .ok { f with tags := v.texts }
  | "redirect" => .ok { f with redirects := v.texts }
  | "pinned" => (flag v).map fun b => { f with pinned := b }
  | "draft" => (flag v).map fun b => { f with draft := b }
  | "date" => .ok { f with dateText := v.scalarText? }
  | "ai_summary" => (flag v).map fun b => { f with summarized := b }
  | "ai_generated_summary" => .ok { f with summaries := v.texts }
  | _ => if v.hasTag then .error .taggedField else .ok { f with extra := f.extra.insert name v }

/-- Sets the fields of a mapping in order; `names` are those that have been set. -/
def Frontmatter.setAll (f : Frontmatter) (names : List String) :
    List (Yaml.Value × Yaml.Value) → Except FrontmatterError Frontmatter
  | [] => .ok f
  | (key, v) :: rest => do
    let name ← fieldName key
    if knownFields.contains name && names.contains name then throw (.repeated name)
    let f ← f.set name v
    f.setAll (name :: names) rest

/-- The fields that a YAML text sets. -/
def Frontmatter.ofYaml [Engines] (source : String) : Except FrontmatterError Frontmatter :=
  match Engines.yaml source with
  | .error report => .error (@FrontmatterError.malformed report)
  | .ok .null => .ok {}
  | .ok (.mapping entries) => Frontmatter.setAll {} [] entries
  | .ok _ => .error .notMapping

/-- Reads a document; a text that does not open with frontmatter is all body. -/
def Document.ofText [Engines] (source : String) : Except FrontmatterError Document :=
  match splitFrontmatter source with
  | none => .ok ⟨{}, source⟩
  | some (front, body) => (Frontmatter.ofYaml front).map fun f => ⟨f, body⟩

/-! ### Writing -/

/-- Why a value cannot be written as JSON. -/
inductive JsonKeyError where
  | notText
  | notFinite
deriving DecidableEq, Repr

/-- The wording of a failure. -/
def JsonKeyError.message : JsonKeyError → String
  | .notText => "key must be a string"
  | .notFinite => "float key must be finite"

namespace Yaml.Value

/-- The name of a member whose key is a value. -/
def memberName (v : Value) : Except JsonKeyError String :=
  match v with
  | text s => .ok s
  | int n => .ok (toString n)
  | bool b => .ok (toString b)
  | float f =>
    match Decimal.split f with
    | .inl _ => .error .notFinite
    | .inr b => .ok b.compact
  | _ => .error .notText

mutual

/-- A value as JSON. -/
def json : Value → Except JsonKeyError Json
  | null => .ok .null
  | bool b => .ok (.bool b)
  | int n => .ok (.int n)
  | float f => .ok (.float f)
  | text s => .ok (.str s)
  | sequence items => (jsonItems items).map .arr
  | mapping entries => (jsonEntries entries).map .obj
  | tagged tag v => v.json.map fun j => .obj [("!" ++ tag, j)]

/-- Values as JSON. -/
def jsonItems : List Value → Except JsonKeyError (List Json)
  | [] => .ok []
  | v :: vs => do
    let j ← v.json
    let js ← jsonItems vs
    return j :: js

/-- Entries as members. -/
def jsonEntries : List (Value × Value) → Except JsonKeyError (List (String × Json))
  | [] => .ok []
  | (k, v) :: es => do
    let name ← k.memberName
    let j ← v.json
    let js ← jsonEntries es
    return (name, j) :: js

end

end Yaml.Value

/-- The fields of a document as JSON, those that are not known after the others. -/
def Frontmatter.json (f : Frontmatter) : Except JsonKeyError Json := do
  let extra ← Yaml.Value.jsonEntries (f.extra.toList.map fun e => (.text e.1, e.2))
  return .obj ([("title", Json.ofOption f.title), ("description", Json.ofOption f.description),
    ("tags", .strings f.tags), ("redirect", .strings f.redirects), ("pinned", .bool f.pinned),
    ("draft", .bool f.draft), ("date", Json.ofOption f.dateText), ("ai_summary", .bool f.summarized),
    ("ai_generated_summary", .strings f.summaries)] ++ extra)

end Folio
