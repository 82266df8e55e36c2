import Folio.Disk.Write
import Folio.Site.Build

/-! # Artifacts

What a build leaves behind: one JSON file for every page at a place that its route determines
(`pageFile`), the tables of the site and its reports, and the redirect table for the web server.  The
members of an object are written in the order of the fields that they come from. -/

namespace Folio

/-! ### JSON -/

/-- A table of paths. -/
def pathMapJson (m : PathMap) : Json := .obj (m.toList.map fun e => (e.1.text, .str e.2.text))

/-- A table of contents. -/
def Outline.Contents.json : Outline.Contents → List Json
  | .nil => []
  | .item e children next =>
    .obj [("id", .str e.id), ("value", .str e.value), ("depth", .nat e.depth),
      ("children", .arr children.json)] :: next.json

/-- A report. -/
def Diagnostic.json (d : Diagnostic) : Json :=
  .obj [("code", .str d.code), ("message", .str d.message), ("severity", .str d.severity.name),
    ("path", Json.ofOption d.path), ("context", Json.ofOption d.context)]

/-- The members of a rendered document. -/
def PageContent.members (d : PageContent) :
    Except JsonKeyError (List (String × Json)) := do
  let fields ← d.frontmatter.json
  return [("html", .str d.rendered.html), ("toc", .arr d.rendered.contents.json),
    ("summaryHtml", .str d.rendered.summaryHtml), ("blockCount", .nat d.rendered.blockCount),
    ("frontmatter", fields)]

/-- A rendered document. -/
def PageContent.json (d : PageContent) : Except JsonKeyError Json := return .obj (← d.members)

/-- A page. -/
def Page.json (p : Page) : Except JsonKeyError Json := do
  let members ← p.document.members
  return .obj ([("route", .str p.route.text), ("sourcePath", .str p.source.text),
    ("title", .str p.title), ("date", Json.ofOption (p.date.map Date.text))] ++ members)

/-! ### Files -/

/-- The file of the page that is served under a route. -/
def pageFile (output : DiskPath) (route : ContentPath) : DiskPath :=
  let content := output.join "content"
  match route.fileName? with
  | some name => (content.joinAll route.parent.segments).join (name ++ ".json")
  | none => content.join "index.json"

/-- What went wrong, and what that came from. -/
structure Failure where
  message : String
  causes : List String := []
deriving DecidableEq, Repr

/-- The files as they are, and those that have been written with the latest first. -/
structure Workspace where
  files : Disk
  written : List (DiskPath × String) := []

/-- A computation that writes files and may fail; what has been written before it fails stays. -/
abbrev Writing := ExceptT Failure (StateM Workspace)

/-- Makes a directory. -/
def createDirectory (path : DiskPath) (message : String) : Writing Unit := do
  let w ← get
  match w.files.createDirs path with
  | .ok files => set { w with files := files }
  | .error e => throw ⟨message, [e.message]⟩

/-- Writes a file. -/
def writeFile (path : DiskPath) (text message : String) : Writing Unit := do
  let w ← get
  match w.files.write path text with
  | .ok files => set (Workspace.mk files ((path, text) :: w.written))
  | .error e => throw ⟨message, [e.message]⟩

/-- Writes a JSON file. -/
def writeJsonFile (path : DiskPath) (j : Json) : Writing Unit :=
  writeFile path j.pretty ("Failed to write " ++ path.text)

/-- Writes the file of a page. -/
def writePageFile (output : DiskPath) (p : Page) : Writing Unit := do
  let path := pageFile output p.route
  match path.parent? with
  | some dir => createDirectory dir ("Failed to create " ++ dir.text)
  | none => pure ()
  match p.json with
  | .ok j => writeJsonFile path j
  | .error e => throw ⟨e.message, []⟩

/-- Writes everything that a build makes. -/
def Build.write (b : Build) (output : DiskPath) : Writing Unit := do
  createDirectory output "Failed to create output directory"
  b.pages.forM (writePageFile output)
  writeJsonFile (output.join "aliases.json") (pathMapJson b.aliases)
  writeJsonFile (output.join "redirects.json") (pathMapJson b.redirects)
  writeJsonFile (output.join "orphaned-redirects.json") (pathMapJson b.orphaned)
  writeJsonFile (output.join "static-paths.json") (pathMapJson b.shownContent)
  writeJsonFile (output.join "diagnostics.json") (.arr (b.diagnostics.map Diagnostic.json))
  writeFile (output.join "nginx_redirect_map.conf") (serverMap b.redirects)
    "Failed to write nginx redirect map"

end Folio
