import Folio.Path.Basic

/-! # Document names and routes

A markdown document is a file named `stem.md` or `stem.mdx`.  A document is served under its path
without that extension, and a `readme` or `_index` is served under its directory
(`ContentPath.route`). -/

namespace Folio

/-- The extensions of markdown documents. -/
def markdownExtensions : List String := ["md", "mdx"]

/-- The stems that make a file the index of its directory, the strongest first. -/
def indexStems : List String := ["readme", "_index"]

/-- What precedes and what follows the last occurrence of a character. -/
def splitAtLast (sep : Char) (cs : List Char) : Option (List Char × List Char) :=
  match cs.reverse.dropWhile (· ≠ sep) with
  | [] => none
  | _ :: before => some (before.reverse, (cs.reverse.takeWhile (· ≠ sep)).reverse)

/-- The stem of a markdown file name, on characters. -/
def markdownStemChars? (name : List Char) : Option (List Char) :=
  match splitAtLast '.' name with
  | none => none
  | some (stem, ext) =>
    if stem ≠ [] ∧ markdownExtensions.any (fun e => Text.eqIgnoringCase ext e.toList) then some stem
    else none

/-- The stem of a file name that ends in `.md` or `.mdx`. -/
def documentStem? (name : String) : Option String :=
  (markdownStemChars? name.toList).map String.ofList

/-- Whether a file name carries a markdown extension. -/
def isMarkdownName (name : String) : Bool := (documentStem? name).isSome

/-- A path without the markdown extension of its last segment, on characters. -/
def dropMarkdownExtensionChars (path : List Char) : List Char :=
  match splitAtLast '/' path with
  | some (dir, name) =>
    match markdownStemChars? name with
    | some stem => dir ++ '/' :: stem
    | none => path
  | none => (markdownStemChars? path).getD path

/-- A path without the markdown extension of its last segment. -/
def dropMarkdownExtension (path : String) : String :=
  String.ofList (dropMarkdownExtensionChars path.toList)

/-- Whether a stem is `stem`, up to the case of ASCII letters. -/
def isStem (name stem : String) : Bool := Text.eqIgnoringCase name.toList stem.toList

/-- Whether a name without extension is that of a directory index. -/
def isIndexStem (name : String) : Bool := indexStems.any (isStem name)

namespace ContentPath

/-- A path whose last segment names a directory index stands for the directory. -/
def collapseIndex (p : ContentPath) : ContentPath :=
  match p.fileName? with
  | some name => if isIndexStem name then p.parent else p
  | none => p

/-- The route under which a source file is served. -/
def route (source : ContentPath) : ContentPath :=
  collapseIndex (ofString (dropMarkdownExtension source.text))

end ContentPath

end Folio
