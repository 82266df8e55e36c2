import Folio.Path.Route

/-! # Paths on disk

A path on disk is a text that is kept as it was written: joining two paths never cleans them.  Its
components are what stands between slashes, `.` and empty pieces left out, and the directory and the
name of a path are read off its components. -/

namespace Folio

/-- A path on disk, by its text. -/
structure DiskPath where
  text : String
deriving DecidableEq, Repr

namespace DiskPath

instance : ToString DiskPath := ⟨text⟩

/-- Whether a path starts at the root of the file system. -/
def isAbsolute (p : DiskPath) : Bool := p.text.toList.head? = some '/'

/-- A path followed by another; an absolute one replaces it. -/
def join (p : DiskPath) (more : String) : DiskPath :=
  if more.toList.head? = some '/' ∨ p.text = "" then ⟨more⟩
  else if p.text.toList.getLast? = some '/' then ⟨p.text ++ more⟩
  else ⟨p.text ++ "/" ++ more⟩

/-- A path followed by segments one after the other. -/
def joinAll (p : DiskPath) (segments : List String) : DiskPath := segments.foldl join p

/-- The components of a path; `.` and empty pieces are none. -/
def components (p : DiskPath) : List String :=
  ((Text.pieces ContentPath.isSlash p.text.toList).filter fun s => s ≠ [] && s ≠ ['.']).map
    String.ofList

/-- A text, last character first, without the slashes and lone dots it ends with. -/
def dropFiller : List Char → List Char
  | '/' :: rest => dropFiller rest
  | '.' :: '/' :: rest => dropFiller ('/' :: rest)
  | rest => rest

/-- The directory that holds a path: everything before its last component.  The root and the empty
path have none. -/
def parent? (p : DiskPath) : Option DiskPath :=
  let body := dropFiller p.text.toList.reverse
  if body = [] then none
  else
    let before := body.dropWhile (· ≠ '/')
    match dropFiller before with
    | [] => some ⟨if before = [] then "" else "/"⟩
    | rest => some ⟨String.ofList rest.reverse⟩

/-- The last component of a path, unless it leads upwards. -/
def fileName? (p : DiskPath) : Option String :=
  match p.components.getLast? with
  | some ".." => none
  | name => name

/-- The name of a file without its last extension; a dot at its start begins none. -/
def fileStem? (p : DiskPath) : Option String :=
  p.fileName?.map fun name =>
    match splitAtLast '.' name.toList with
    | some (stem, _) => if stem = [] then name else String.ofList stem
    | none => name

end DiskPath

end Folio
