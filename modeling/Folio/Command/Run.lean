import Folio.Command.Arguments
import Folio.Engines.Standard
import Folio.Site.Artifact

/-! # Commands

`Command.run` carries out what the arguments ask for on the files of a disk.  It answers the
exit status, what is printed, the report of a failure, and the files that are written. -/

namespace Folio.Command

/-- What a run of the program does. -/
structure Result where
  status : Nat
  output : String := ""
  error : Option String := none
  written : List (DiskPath × String) := []

/-! ### Failures -/

/-- The causes of a failure, numbered from `n`. -/
def numbered (n : Nat) : List String → String
  | [] => ""
  | cause :: rest => "    " ++ toString n ++ ": " ++ cause ++ "\n" ++ numbered (n + 1) rest

/-- The report of a failure; several causes are numbered. -/
def report (f : Failure) : String :=
  "Error: " ++ f.message ++ "\n" ++
    match f.causes with
    | [] => ""
    | [cause] => "\nCaused by:\n    " ++ cause ++ "\n"
    | causes => "\nCaused by:\n" ++ numbered 0 causes

/-- The failure to load a configuration. -/
def configFailure (e : ConfigError) : Failure :=
  let cause :=
    match e with
    | .read cause => cause.message
    | @ConfigError.parse report => report
  ⟨"Failed to load configuration", [e.message, cause]⟩

/-- The causes of an error in frontmatter. -/
def frontmatterCauses (e : FrontmatterError) : List String :=
  match e with
  | .notMapping => [e.message]
  | _ => [e.message, (e.message.drop "Invalid YAML: ".length).toString]

/-- The failure of a document that is rendered alone. -/
def documentFailure (path : ContentPath) : DocumentError → Failure
  | .unreadable file cause => ⟨"Failed to read " ++ file.text, [cause.message]⟩
  | .frontmatter file cause => ⟨"Malformed frontmatter in " ++ file.text, frontmatterCauses cause⟩
  | .render cause => ⟨"Failed to render " ++ path.text, [cause.message]⟩

/-! ### Printing -/

/-- The site of a configuration file. -/
def loadSite [Engines] (files : Disk) (config : DiskPath) : Except Failure Site := do
  let config ← (Config.load files config).mapError configFailure
  (Site.load files config).mapError fun e => ⟨"Failed to read content directory", [e.message]⟩

/-- A redirect table as it is printed. -/
def tableText (m : PathMap) : TableFormat → String
  | .json => (pathMapJson m).pretty ++ "\n"
  | .nginx => serverMap m

/-- The routes of a site, each with the content that it shows if that is another path. -/
def routesText (m : PathMap) : String :=
  String.join <| m.toList.map fun e =>
    if e.1 = e.2 then e.1.text ++ "\n" else e.1.text ++ " -> " ++ e.2.text ++ "\n"

/-- A summary of a build. -/
def auditJson (s : Site) (b : Build) : Json :=
  .obj [("documents", .nat s.documents.length), ("pages", .nat b.pages.length),
    ("aliases", .nat b.aliases.size), ("errors", .nat (b.count .error)),
    ("warnings", .nat (b.count .warning)), ("infos", .nat (b.count .info)),
    ("orphaned_redirects", pathMapJson b.orphaned),
    ("diagnostics", .arr (b.diagnostics.map Diagnostic.json))]

/-- A report in running text. -/
def diagnosticText (d : Diagnostic) : String :=
  let path := (d.path.map fun p => " (" ++ p ++ ")").getD ""
  let context := (d.context.map fun c => "  context: " ++ c ++ "\n").getD ""
  "- " ++ d.severity.title ++ " " ++ d.code ++ path ++ ": " ++ d.message ++ "\n" ++ context

/-- A summary of a build in running text. -/
def auditText (b : Build) : String :=
  let counted (n : Nat) (what : String) := toString n ++ " " ++ what
  "Audit complete: " ++ ", ".intercalate
    [counted b.pages.length "pages", counted b.aliases.size "aliases",
      counted b.orphaned.size "orphaned redirects", counted (b.count .error) "errors",
      counted (b.count .warning) "warnings", counted (b.count .info) "info"] ++ "\n" ++
    String.join (b.diagnostics.map diagnosticText)

/-- Renders one document for printing. -/
def renderOne [Engines] (s : Site) (path : String) : Except Failure String := do
  let path := ContentPath.ofString path
  let file := s.tree.diskPath path
  if !s.tree.disk.isFile file then throw ⟨"No such document: " ++ file.text, []⟩
  let document ← (s.renderFile path file).mapError (documentFailure path)
  match document.json with
  | .ok j => return j.pretty ++ "\n"
  | .error e => throw ⟨e.message, []⟩

/-! ### Running -/

/-- Carries out a command for a site; answers what is printed. -/
def carryOut [Engines] (s : Site) : Action → Writing String
  | .build => do
    s.build.write s.config.outputDirectory
    return ""
  | .redirects orphaned format =>
    return tableText (if orphaned then s.build.orphaned else s.build.redirects) format
  | .audit json =>
    return if json then (auditJson s s.build).pretty ++ "\n" else auditText s.build
  | .paths json =>
    return if json then tableText s.shownContent .json else routesText s.shownContent
  | .render path =>
    match renderOne s path with
    | .ok text => return text
    | .error e => throw e

/-- Runs the program, with the standard engines, on the files of a disk. -/
def run (files : Disk) (environment : Option String) (args : List String) : Result :=
  match invocation environment args with
  | .error .usage => { status := 2 }
  | .error .help => { status := 0 }
  | .ok i =>
    let computation : Writing String := do
      match loadSite files i.config with
      | .ok s => carryOut s i.action
      | .error e => throw e
    match (computation.run.run { files := files }) with
    | (.ok output, w) => { status := 0, output := output, written := w.written.reverse }
    | (.error e, w) => { status := 1, error := some (report e), written := w.written.reverse }

end Folio.Command
