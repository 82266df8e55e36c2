import Folio.Disk.Listing

/-! # The content tree

The documents below a content directory.  A directory registers a slug of its own unless it is
empty, and a second one when it holds a `readme`; every other markdown file registers its stem.
Entries whose names start with a dot are invisible.  `Listing.slugs` walks a whole directory,
`ContentTree.slugsUnder` one of its parts, and `ContentTree.fileOf?` leads from a content path
back to the file that renders it. -/

namespace Folio

/-- A document slug: segments relative to the directory of the walk. -/
abbrev Slug := List String

/-- How a directory presents itself, in order of precedence. -/
inductive DirectoryKind where
  | readme
  | index
  | listing
  | empty
deriving DecidableEq, Repr

/-- Whether an entry is left out of every walk. -/
def isHidden (name : String) : Bool := name.toList.head? = some '.'

/-- Whether the name of a file makes it the index of its directory under `stem`. -/
def isIndexFile (stem name : String) : Bool :=
  match documentStem? name with
  | some s => isStem s stem
  | none => false

namespace DirectoryKind

/-- The kind of a directory with the given visible entries. -/
def ofEntries (entries : List (String × Bool)) : DirectoryKind :=
  let has stem := entries.any fun e => !e.2 && isIndexFile stem e.1
  if has "readme" then .readme
  else if has "_index" then .index
  else if !entries.isEmpty then .listing
  else .empty

/-- The slugs that a directory of this kind registers at `base`; the directory of the walk itself
registers none. -/
def ownSlugs (kind : DirectoryKind) (base : Slug) : List Slug :=
  if base = [] then []
  else
    match kind with
    | .readme => [base, base ++ ["readme"]]
    | .index | .listing => [base]
    | .empty => []

/-- The name of a kind in reports. -/
def name : DirectoryKind → String
  | .readme => "Readme"
  | .index => "Index"
  | .listing => "Listing"
  | .empty => "Empty"

end DirectoryKind

namespace Listing

/-- The entries of a directory that a walk sees. -/
def visible (l : Listing) : List (String × Bool) := l.names.filter fun e => !isHidden e.1

/-- The kind of a directory. -/
def directoryKind (l : Listing) : DirectoryKind := DirectoryKind.ofEntries l.visible

/-- The slug that a file registers in the directory at `base`. -/
def fileSlugs (base : Slug) (name : String) : List Slug :=
  match documentStem? name with
  | none => []
  | some stem => if isIndexStem stem then [] else [base ++ [stem]]

/-- The slugs that the entries of the directory at `base` register; a directory that cannot be read is passed
over. -/
def entrySlugs (base : Slug) : Listing → List Slug
  | nil => []
  | file name _ next => (if isHidden name then [] else fileSlugs base name) ++ next.entrySlugs base
  | dir name inside next =>
    (if isHidden name then []
     else inside.directoryKind.ownSlugs (base ++ [name]) ++ inside.entrySlugs (base ++ [name])) ++
      next.entrySlugs base
  | closed _ _ next => next.entrySlugs base

/-- Every slug below a directory, in the order of the walk. -/
def slugs (l : Listing) : List Slug := l.directoryKind.ownSlugs [] ++ l.entrySlugs []

end Listing

/-- Why a directory could not be walked. -/
inductive TreeError where
  | missingDirectory (path : DiskPath)
  | unreadable (path : DiskPath)
deriving DecidableEq, Repr

/-- The wording of a failed walk. -/
def TreeError.message : TreeError → String
  | .missingDirectory path => "Directory does not exist: " ++ path.text
  | .unreadable path =>
    "Failed to read " ++ path.text ++ ": IO error for operation on " ++ path.text ++ ": " ++
      ReadError.denied.message

/-- A content directory on a disk. -/
structure ContentTree where
  disk : Disk
  root : DiskPath

namespace ContentTree

/-- Where a content path lies on disk. -/
def diskPath (t : ContentTree) (p : ContentPath) : DiskPath := t.root.joinAll p.segments

/-- The visible entries of a directory on disk, in order of names; a file has none. -/
def entriesAt (disk : Disk) (path : DiskPath) : Except TreeError (List (String × Bool)) :=
  match disk.at? path with
  | some (.dir inside) => .ok inside.visible
  | some (.file _) => .ok []
  | some (.closed _) | none => .error (.unreadable path)

/-- The file beside a path that carries its name with a markdown extension. -/
def sibling? (t : ContentTree) (p : ContentPath) : Option DiskPath :=
  match (t.diskPath p).parent?, p.fileName? with
  | some dir, some name =>
    (markdownExtensions.map fun ext => dir.join (name ++ "." ++ ext)).find? t.disk.isFile
  | _, _ => none

/-- The index file of the directory at a path. -/
def indexFile? (t : ContentTree) (p : ContentPath) : Option DiskPath :=
  match entriesAt t.disk (t.diskPath p) with
  | .error _ => none
  | .ok entries =>
    indexStems.findSome? fun stem =>
      (entries.find? fun e => !e.2 && isIndexFile stem e.1).map fun e => (t.diskPath p).join e.1

/-- The file that renders a content path: the document of that name, else the index of the
directory. -/
def fileOf? (t : ContentTree) (p : ContentPath) : Option DiskPath :=
  match if p.isRoot then none else t.sibling? p with
  | some file => some file
  | none => t.indexFile? p

/-- The slugs under a path, relative to it.  A path that names a single document has one empty
slug. -/
def slugsUnder (t : ContentTree) (p : ContentPath) : Except TreeError (List Slug) :=
  match t.disk.dirAt? (t.diskPath p) with
  | some inside => .ok inside.slugs
  | none =>
    if t.disk.isClosed (t.diskPath p) then .error (.unreadable (t.diskPath p))
    else if !p.isRoot && (t.fileOf? p).isSome then .ok [[]]
    else .error (.missingDirectory (t.diskPath p))

/-- Every slug of the tree. -/
def walk (t : ContentTree) : Except TreeError (List Slug) := t.slugsUnder ContentPath.root

/-- Every document path of the tree, as an ordered set. -/
def documents (t : ContentTree) : Except TreeError PathSet :=
  t.walk.map fun slugs => Std.TreeSet.ofList (slugs.map ContentPath.ofSegments)

end ContentTree

end Folio
