import Folio.Command.Run

/-! # The program

Reads the files below the working directory, runs the command that the arguments name on them, prints
what it answers and writes the files that it makes.  Of the machine the command sees the working directory
alone, links to directories left out: a path that leads elsewhere finds nothing. -/

namespace Folio.Command

/-- What a file holds, links followed. -/
def readContent (entry : IO.FS.DirEntry) : IO FileContent := do
  try
    match String.fromUTF8? (← IO.FS.readBinFile entry.path) with
    | some s => return .text s
    | none => return .undecodable
  catch _ => return .unreadable

/-- The files that the entries of a directory are or hold. -/
partial def readEntries (entries : Array IO.FS.DirEntry) : IO Listing := do
  let sorted := entries.toList.mergeSort fun a b => a.fileName ≤ b.fileName
  sorted.foldrM (fun entry next => do
    let isLink := (← entry.path.symlinkMetadata).type == .symlink
    if ← entry.path.isDir then
      if isLink then return next
      let inside ← try some <$> entry.path.readDir catch _ => pure none
      match inside with
      | some inside => return .dir entry.fileName (← readEntries inside) next
      | none => return .closed entry.fileName .nil next
    else
      let content ← readContent entry
      return .file entry.fileName (if isLink then .linked content else content) next) .nil

end Folio.Command

/-- Runs the program. -/
def main (args : List String) : IO UInt32 := do
  let files ← Folio.Command.readEntries (← (← IO.currentDir).readDir)
  let environment ← IO.getEnv "VAULTPRESS_CONFIG"
  let result := Folio.Command.run files environment args
  for (path, text) in result.written do
    match path.parent? with
    | some dir => IO.FS.createDirAll dir.text
    | none => pure ()
    IO.FS.writeFile path.text text
  IO.print result.output
  match result.error with
  | some e => IO.eprint e
  | none => pure ()
  return result.status.toUInt32
