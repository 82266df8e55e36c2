import Folio.Disk.Listing

/-! # Writing files

Directories are made and files are put in place on a disk (`Disk.createDirs`, `Disk.write`).  Both go by the
names that lead to the place of a path once its steps back are taken (`Disk.place`). -/

namespace Folio

/-- Why a file or a directory could not be written. -/
inductive WriteError where
  | notFound
  | exists
  | notDirectory
  | isDirectory
  | denied
deriving DecidableEq, Repr

/-- The wording of a failure. -/
def WriteError.message : WriteError → String
  | .notFound => "No such file or directory (os error 2)"
  | .exists => "File exists (os error 17)"
  | .notDirectory => "Not a directory (os error 20)"
  | .isDirectory => "Is a directory (os error 21)"
  | .denied => "Permission denied (os error 13)"

/-! ### Places -/

/-- The names of a place, one component further; a step back from the root stays there. -/
def takeStep (done : List String) (c : String) : List String :=
  if c = ".." then done.dropLast else done ++ [c]

/-- The names that lead from the root to the place of a path, steps back taken. -/
def Disk.place (d : Disk) (path : DiskPath) : List String := (d.way path).foldl takeStep []

/-- The names that lead to the place of a path from the working directory; there are none if it leads out
of that. -/
def DiskPath.inside? (p : DiskPath) : Option (List String) :=
  if p.isAbsolute then none
  else
    p.components.foldlM (fun (done : List String) c =>
      if c = ".." ∧ done = [] then none else some (takeStep done c)) []

namespace Listing

/-- What a chain of names leads to. -/
def entryAt (l : Listing) (names : List String) : Except ReadError DiskEntry := follow [] l names

/-- Makes the directories of a chain, those that lie before it being `done`. -/
def createFrom (l : Listing) (done : List String) : List String → Except WriteError Listing
  | [] => .ok l
  | name :: rest =>
    if name = ".." then l.createFrom done.dropLast rest
    else
      match l.entryAt (done ++ [name]), rest with
      | .ok (.dir _), _ => l.createFrom (done ++ [name]) rest
      | .ok (.closed _), [] => .ok l
      | .ok (.closed _), _ :: _ | .error .denied, _ => .error .denied
      | .ok (.file _), [] => .error .exists
      | .ok (.file _), _ :: _ => .error .notDirectory
      | .error _, _ => (l.makeDirs (done ++ [name])).createFrom (done ++ [name]) rest

/-- Writes a file at the place of some names, in a directory that is there. -/
def writeAt (l : Listing) (names : List String) (text : String) : Except WriteError Listing :=
  match l.entryAt names.dropLast, l.entryAt names with
  | .error .notDirectory, _ | .ok (.file _), _ => .error .notDirectory
  | .error .denied, _ | .ok (.closed _), _ => .error .denied
  | .error _, _ => .error .notFound
  | _, .ok (.dir _) | _, .ok (.closed _) => .error .isDirectory
  | _, _ => .ok (l.putUnder names.dropLast (names.getLastD "") (.text text))

end Listing

namespace Disk

/-- Makes a directory and those that it lies in. -/
def createDirs (d : Disk) (path : DiskPath) : Except WriteError Disk :=
  (d.root.createFrom [] (d.way path)).map fun root => { d with root := root }

/-- Writes a file into a directory that is there. -/
def write (d : Disk) (path : DiskPath) (text : String) : Except WriteError Disk :=
  (d.root.writeAt (d.place path) text).map fun root => { d with root := root }

end Disk

end Folio
