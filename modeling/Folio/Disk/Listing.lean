import Folio.Disk.Path

/-! # Files and directories

The files that the library sees are a value: a `Listing` gives the entries of a directory in the
order of their names, and a directory among them carries the listing of what it holds.  A `Disk` is the
listing of the root with the place of the working directory.  `Disk.at?` follows a path, and `Disk.read`
gives the text of a file or the reason why there is none.

A directory may be closed: its entries are there, but nothing that the program asks for shows them.  Of
symbolic links only those to files are told apart (`FileContent.linked`); such a link carries what the file
holds, so that a change of one of the two does not show in the other.  One that leads to a directory or
to nothing, a second name of a file, what may be written where, and limits on the length of names and paths
have no place here. -/

namespace Folio

/-- What a file holds: a text, bytes that are not one, or what may not be read.  An entry that is a symbolic
link to a file holds what this file does. -/
inductive FileContent where
  | text (s : String)
  | undecodable
  | unreadable
  | linked (target : FileContent)
deriving DecidableEq, Repr

/-- The entries of a directory; the entries of a closed one cannot be read. -/
inductive Listing where
  | nil
  | file (name : String) (content : FileContent) (next : Listing)
  | dir (name : String) (inside next : Listing)
  | closed (name : String) (inside next : Listing)
deriving Repr

/-- What a path leads to. -/
inductive DiskEntry where
  | file (content : FileContent)
  | dir (inside : Listing)
  | closed (inside : Listing)

/-- Why a file could not be read. -/
inductive ReadError where
  | notFound
  | notDirectory
  | isDirectory
  | invalidText
  | denied
deriving DecidableEq, Repr

/-- The wording of a failure to read. -/
def ReadError.message : ReadError → String
  | .notFound => "No such file or directory (os error 2)"
  | .notDirectory => "Not a directory (os error 20)"
  | .isDirectory => "Is a directory (os error 21)"
  | .invalidText => "stream did not contain valid UTF-8"
  | .denied => "Permission denied (os error 13)"

/-- The text that is read from a file; links are followed. -/
def FileContent.read : FileContent → Except ReadError String
  | text s => .ok s
  | undecodable => .error .invalidText
  | unreadable => .error .denied
  | linked target => target.read

namespace Listing

/-- The entry of a given name. -/
def find? (name : String) : Listing → Option DiskEntry
  | nil => none
  | file n content next => if n = name then some (.file content) else next.find? name
  | dir n inside next => if n = name then some (.dir inside) else next.find? name
  | closed n inside next => if n = name then some (.closed inside) else next.find? name

/-- The names in a directory, and whether each is a directory. -/
def names : Listing → List (String × Bool)
  | nil => []
  | file n _ next => (n, false) :: next.names
  | dir n _ next => (n, true) :: next.names
  | closed n _ next => (n, true) :: next.names

/-- A file put in its place by name, in place of an entry of that name. -/
def putFile (name : String) (content : FileContent) : Listing → Listing
  | nil => file name content nil
  | file n c next =>
    if name = n then file name content next
    else if name < n then file name content (file n c next)
    else file n c (next.putFile name content)
  | dir n inside next =>
    if name = n then file name content next
    else if name < n then file name content (dir n inside next)
    else dir n inside (next.putFile name content)
  | closed n inside next =>
    if name = n then file name content next
    else if name < n then file name content (closed n inside next)
    else closed n inside (next.putFile name content)

/-- A directory changed by `f`; one that is missing, and what is no open directory, count as empty. -/
def changeDir (name : String) (f : Listing → Listing) : Listing → Listing
  | nil => dir name (f nil) nil
  | file n c next =>
    if name = n then dir name (f nil) next
    else if name < n then dir name (f nil) (file n c next)
    else file n c (next.changeDir name f)
  | dir n inside next =>
    if name = n then dir name (f inside) next
    else if name < n then dir name (f nil) (dir n inside next)
    else dir n inside (next.changeDir name f)
  | closed n inside next =>
    if name = n then dir name (f nil) next
    else if name < n then dir name (f nil) (closed n inside next)
    else closed n inside (next.changeDir name f)

/-- A file put under a chain of directories, which are made where they are missing. -/
def putUnder : List String → String → FileContent → Listing → Listing
  | [], name, content, l => l.putFile name content
  | d :: ds, name, content, l => l.changeDir d (putUnder ds name content)

/-- A chain of directories, made where they are missing. -/
def makeDirs : List String → Listing → Listing
  | [], l => l
  | d :: ds, l => l.changeDir d (makeDirs ds)

/-- A listing with a file or, for a path that ends in a slash, an empty directory added. -/
def add (l : Listing) (path : String) (content : FileContent) : Listing :=
  let comps := (DiskPath.mk path).components
  if path.toList.getLast? = some '/' then l.makeDirs comps
  else
    match comps.reverse with
    | [] => l
    | name :: dirs => l.putUnder dirs.reverse name content

/-- Follows components from a directory that lies below those in `above`, the innermost first.  Above the
root there is the root itself. -/
def follow (above : List Listing) (l : Listing) : List String → Except ReadError DiskEntry
  | [] => .ok (.dir l)
  | ".." :: rest =>
    match above with
    | [] => follow [] l rest
    | up :: above => follow above up rest
  | name :: rest =>
    match l.find? name, rest with
    | none, _ => .error .notFound
    | some (.dir inside), _ => follow (l :: above) inside rest
    | some (.file content), [] => .ok (.file content)
    | some (.file _), _ :: _ => .error .notDirectory
    | some (.closed inside), [] => .ok (.closed inside)
    | some (.closed _), _ :: _ => .error .denied

end Listing

/-! ### Disks -/

/-- Whether a path can only name a directory: it ends in a slash or a lone dot. -/
def DiskPath.demandsDirectory (path : DiskPath) : Bool :=
  match path.text.toList.reverse with
  | '/' :: _ => true
  | '.' :: '/' :: _ => true
  | _ => false

/-- The files of a machine, and the names that lead from the root to the working directory. -/
structure Disk where
  root : Listing
  here : List String := []

namespace Disk

/-- The components that a path leads over from the root. -/
def way (d : Disk) (path : DiskPath) : List String :=
  if path.isAbsolute then path.components else d.here ++ path.components

/-- What a path leads to, or why it leads to nothing. -/
def lookUp (d : Disk) (path : DiskPath) : Except ReadError DiskEntry :=
  if path.text = "" then .error .notFound
  else
    match Listing.follow [] d.root (d.way path) with
    | .ok (.file content) => if path.demandsDirectory then .error .notDirectory else .ok (.file content)
    | r => r

/-- What a path leads to, if anything. -/
def at? (d : Disk) (path : DiskPath) : Option DiskEntry := (d.lookUp path).toOption

/-- The listing of a directory that can be read. -/
def dirAt? (d : Disk) (path : DiskPath) : Option Listing :=
  match d.at? path with
  | some (.dir inside) => some inside
  | _ => none

/-- Whether a path leads to a directory that cannot be read. -/
def isClosed (d : Disk) (path : DiskPath) : Bool :=
  match d.at? path with
  | some (.closed _) => true
  | _ => false

/-- Whether a path leads to a file. -/
def isFile (d : Disk) (path : DiskPath) : Bool :=
  match d.at? path with
  | some (.file _) => true
  | _ => false

/-- The text of the file at a path. -/
def read (d : Disk) (path : DiskPath) : Except ReadError String :=
  match d.lookUp path with
  | .ok (.file content) => content.read
  | .ok (.dir _) => .error .isDirectory
  | .ok (.closed _) => .error .denied
  | .error e => .error e

/-- The disk of a machine of which only the files of the working directory are known. -/
def ofListing (l : Listing) : Disk := ⟨.dir "here" l .nil, ["here"]⟩

instance : Coe Listing Disk := ⟨ofListing⟩

end Disk

/-- Whether a path leads to a file from the directory that is listed. -/
def Listing.isFile (l : Listing) (path : DiskPath) : Bool := (l : Disk).isFile path

end Folio
