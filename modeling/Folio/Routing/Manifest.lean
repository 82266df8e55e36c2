import Folio.Disk.Listing
import Folio.Json.Value
import Folio.Routing.AliasGraph

/-! # Manifests

A manifest is a JSON object whose values are strings.  Nothing else is accepted (`parseManifest?`), and
where a key comes twice the later value counts.  A manifest that is missing counts as empty; one that
cannot be read does so too, with a warning (`loadManifest`). -/

namespace Folio

/-- Drops the blanks between the tokens of a manifest. -/
def skipJsonBlanks (cs : List Char) : List Char :=
  cs.dropWhile fun c => c == ' ' || c == '\n' || c == '\t' || c == '\r'

/-- The number that four hexadecimal digits write, and what follows them. -/
def hexQuad? : List Char → Option (Nat × List Char)
  | a :: b :: c :: d :: rest => (Text.hexNumber? [a, b, c, d]).map fun n => (n, rest)
  | _ => none

/-- The character that the digits after `\u` write, a pair of surrogates being one, and what
follows. -/
def unicodeEscape? (cs : List Char) : Option (Char × List Char) := do
  let (n, rest) ← hexQuad? cs
  if 0xD800 ≤ n ∧ n ≤ 0xDBFF then
    match rest with
    | '\\' :: 'u' :: more => do
      let (m, after) ← hexQuad? more
      if 0xDC00 ≤ m ∧ m ≤ 0xDFFF then
        pure (Char.ofNat (0x10000 + (n - 0xD800) * 0x400 + (m - 0xDC00)), after)
      else none
    | _ => none
  else if 0xDC00 ≤ n ∧ n ≤ 0xDFFF then none
  else pure (Char.ofNat n, rest)

/-- The character that an escape stands for, and what follows it. -/
def jsonEscapeValue? : List Char → Option (Char × List Char)
  | 'u' :: rest => unicodeEscape? rest
  | c :: rest =>
    match c with
    | '"' | '\\' | '/' => some (c, rest)
    | 'b' => some (Char.ofNat 8, rest)
    | 'f' => some (Char.ofNat 12, rest)
    | 'n' => some ('\n', rest)
    | 'r' => some ('\r', rest)
    | 't' => some ('\t', rest)
    | _ => none
  | [] => none

/-- The rest of a string after its opening quote, within a number of steps, and what follows it. -/
def jsonStringTail? : Nat → List Char → Option (List Char × List Char)
  | 0, _ | _ + 1, [] => none
  | steps + 1, c :: rest =>
    if c = '"' then some ([], rest)
    else if c.toNat < 32 then none
    else if c = '\\' then do
      let (d, rest) ← jsonEscapeValue? rest
      let (tail, after) ← jsonStringTail? steps rest
      pure (d :: tail, after)
    else do
      let (tail, after) ← jsonStringTail? steps rest
      pure (c :: tail, after)

/-- A string and what follows it. -/
def jsonString? (cs : List Char) : Option (String × List Char) :=
  match skipJsonBlanks cs with
  | '"' :: rest => (jsonStringTail? rest.length rest).map fun r => (String.ofList r.1, r.2)
  | _ => none

/-- One member and what follows it. -/
def jsonMember? (cs : List Char) : Option ((String × String) × List Char) := do
  let (key, rest) ← jsonString? cs
  match skipJsonBlanks rest with
  | ':' :: rest =>
    let (value, rest) ← jsonString? rest
    pure ((key, value), skipJsonBlanks rest)
  | _ => none

/-- The members up to the closing brace, within a number of steps, and what follows it. -/
def jsonMembers? : Nat → List Char → Option (List (String × String) × List Char)
  | 0, _ => none
  | steps + 1, cs => do
    let (member, rest) ← jsonMember? cs
    match rest with
    | ',' :: rest =>
      let (members, rest) ← jsonMembers? steps rest
      pure (member :: members, rest)
    | '}' :: rest => pure ([member], rest)
    | _ => none

/-- The table that a manifest writes, if it is one. -/
def parseManifest? (source : String) : Option RawManifest := do
  match skipJsonBlanks source.toList with
  | '{' :: rest =>
    let (members, after) ←
      match skipJsonBlanks rest with
      | '}' :: after => some ([], after)
      | rest => jsonMembers? rest.length rest
    if (skipJsonBlanks after).isEmpty then
      some (members.foldl (fun m e => m.insert e.1 e.2) ∅)
    else none
  | _ => none

/-- Why there is no manifest. -/
inductive ManifestError where
  | read (path : DiskPath) (cause : ReadError)
  | parse (path : DiskPath)
deriving DecidableEq, Repr

/-- The wording of a failure. -/
def ManifestError.message : ManifestError → String
  | .read path cause => "Failed to read " ++ path.text ++ ": " ++ cause.message
  | .parse path => "Failed to parse " ++ path.text ++ ": expected an object of strings"

/-- Reads a manifest. -/
def manifestAt (disk : Disk) (path : DiskPath) : Except ManifestError RawManifest :=
  match disk.read path with
  | .error cause => .error (.read path cause)
  | .ok source =>
    match parseManifest? source with
    | some m => .ok m
    | none => .error (.parse path)

/-- A manifest that cannot be used is reported and counts as empty. -/
def unreadableManifest (path : DiskPath) (e : ManifestError) : Diagnostic :=
  { code := "manifest.unreadable"
    severity := .warning
    message := e.message
    path := some path.text }

/-- Reads a manifest; a missing one is empty, and so is any other that cannot be read, with a
warning. -/
def loadManifest (disk : Disk) (path : DiskPath) : RawManifest × List Diagnostic :=
  match manifestAt disk path with
  | .ok m => (m, [])
  | .error (.read _ .notFound) => (∅, [])
  | .error e => (∅, [unreadableManifest path e])

end Folio
