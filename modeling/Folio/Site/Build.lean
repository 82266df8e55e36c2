import Folio.Document.Frontmatter
import Folio.Document.Render
import Folio.Site.Basic

/-! # Building a site

Every source is rendered by itself (`Site.page`): it becomes a page, or what is wrong with it is reported
and the others go on.  Drafts are left out unless the configuration takes them in.  From the pages and the
site come the tables of a build: aliases, redirects, orphaned redirects and routes. -/

namespace Folio

/-- A document that has been rendered, with its fields. -/
structure PageContent where
  rendered : Rendered
  frontmatter : Frontmatter

/-- A document in its place. -/
structure Page where
  route : ContentPath
  source : ContentPath
  title : String
  date : Option Date
  document : PageContent

/-- Whether a page is a draft. -/
def Page.isDraft (p : Page) : Bool := p.document.frontmatter.draft

/-! ### One document -/

/-- Why there is no page for a document. -/
inductive DocumentError where
  | unreadable (file : DiskPath) (cause : ReadError)
  | frontmatter (file : DiskPath) (cause : FrontmatterError)
  | render (cause : RenderError)

namespace DocumentError

/-- The code of an error in reports. -/
def code : DocumentError → String
  | unreadable .. => "document.unreadable"
  | frontmatter .. => "document.frontmatter"
  | render (.shadowed ..) => "document.shadowed"

/-- The wording of an error. -/
def message : DocumentError → String
  | unreadable file cause => "Failed to read " ++ file.text ++ ": " ++ cause.message
  | frontmatter file cause => "Malformed frontmatter in " ++ file.text ++ ": " ++ cause.message
  | render cause => cause.message

/-- The report of an error about a source. -/
def diagnostic (source : ContentPath) (e : DocumentError) : Diagnostic :=
  { code := e.code
    severity := .error
    message := e.message
    path := some source.text }

end DocumentError

/-- Reads and renders the file of a document. -/
def Site.renderFile [Engines] (s : Site) (path : ContentPath) (file : DiskPath) :
    Except DocumentError PageContent := do
  let text ← (s.tree.disk.read file).mapError (.unreadable file)
  let document ← (Document.ofText text).mapError (.frontmatter file)
  let summaries := document.frontmatter.summaries
  let rendered ← (render (s.linkContext path) document.body summaries).mapError .render
  return ⟨rendered, document.frontmatter⟩

/-- The title of a document without one: the stem of its file, or the name of the directory that it is
the index of. -/
def titleOfFile (file : DiskPath) : String :=
  let stem := file.fileStem?.getD "Untitled"
  match file.parent?.bind DiskPath.fileName? with
  | some dir => if isIndexStem stem then dir else stem
  | none => stem

/-- The title of a page. -/
def pageTitle (title : Option String) (file : DiskPath) : String :=
  match title.map fun t => Text.trim t.toList with
  | some (c :: cs) => String.ofList (c :: cs)
  | _ => titleOfFile file

/-- The page of a source. -/
def Site.page [Engines] (s : Site) (source : Source) : Except DocumentError Page := do
  let document ← s.renderFile source.path source.file
  return {
    route := source.route
    source := source.path
    title := pageTitle document.frontmatter.title source.file
    date := document.frontmatter.date?
    document := document }

/-! ### The whole site -/

/-- What becomes of a source. -/
inductive Outcome where
  | page (p : Page)
  | draft
  | failure (d : Diagnostic)

/-- What becomes of a source; a draft is a page only if the configuration takes drafts in. -/
def Site.outcome [Engines] (s : Site) (source : Source) : Outcome :=
  match s.page source with
  | .ok p => if p.isDraft && !s.config.includeDrafts then .draft else .page p
  | .error e => .failure (e.diagnostic source.path)

/-- The page of an outcome. -/
def Outcome.page? : Outcome → Option Page
  | page p => some p
  | _ => none

/-- The report of an outcome. -/
def Outcome.diagnostic? : Outcome → Option Diagnostic
  | failure d => some d
  | _ => none

/-- Everything that a build makes. -/
structure Build where
  pages : List Page
  diagnostics : List Diagnostic
  aliases : PathMap
  redirects : PathMap
  orphaned : PathMap
  shownContent : PathMap

/-- Builds a site. -/
def Site.build [Engines] (s : Site) : Build :=
  let outcomes := s.sources.toList.map fun e => s.outcome e.2
  let pages := outcomes.filterMap Outcome.page?
  let (declared, duplicates) :=
    declaredRedirects (pages.map fun p => (p.route, p.document.frontmatter.redirects))
  let known := s.knownRoutes
  { pages := pages
    diagnostics := s.diagnostics ++ outcomes.filterMap Outcome.diagnostic? ++ duplicates ++
      known.orphans s.redirects
    aliases := s.aliases.expanded
    redirects := servedRedirects s.aliases (known.servable s.redirects) declared
    orphaned := s.orphaned
    shownContent := s.shownContent }

namespace Build

/-- The page that is served under a route. -/
def find? (b : Build) (route : String) : Option Page :=
  b.pages.find? fun p => p.route == ContentPath.ofString route

/-- The pinned pages, drafts left out. -/
def pinned (b : Build) : List Page :=
  b.pages.filter fun p => !p.isDraft && p.document.frontmatter.pinned

/-- The number of reports of a severity. -/
def count (b : Build) (severity : Severity) : Nat := b.diagnostics.countP (·.severity == severity)

end Build

end Folio
