import Folio.Engines.Basic
import Folio.Html.Pass
import Folio.Markup.Dollar
import Folio.Markup.Fence
import Folio.Markup.Link
import Folio.Markup.Page

/-! # Rendering a document

The body of a document becomes the HTML of its page.  Its markdown is read, the special fences are
taken out, headings get their ids, links are pointed at their routes and code is highlighted; the
HTML that comes of it is read back as a tree, which is finished: math is set, inline code is marked,
what is not allowed is removed, and the structure of the page is added.  A document whose route an
alias takes is not rendered. -/

namespace Folio

/-- Why a document is not rendered. -/
inductive RenderError where
  | shadowed (route target : ContentPath)
deriving DecidableEq, Repr

/-- The text of an error. -/
def RenderError.message : RenderError → String
  | .shadowed route target => route.text ++ " is shadowed by an alias pointing at " ++ target.text

/-- A document as it is rendered. -/
structure Rendered where
  html : String
  contents : Outline.Contents
  summaryHtml : String
  blockCount : Nat
deriving Repr

variable [Engines]

/-- The HTML of a page body. -/
def pageHtml (html : String) (registry : Outline.SlugRegistry) : String :=
  let page := Engines.page html
  Markup.restoreDollars ((page.finish page.body registry).html page.body)

/-- The markdown of a summary: the lines of its fences, and a paragraph for every generated text that is
not blank. -/
def summaryMarkdown (lines generated : List String) : String :=
  let paragraphs := (generated.map fun s => Text.trim s.toList).filter (· ≠ [])
  let first := if lines = [] then [] else [Text.joinWith ['\n'] (lines.map (·.toList))]
  String.ofList (Text.joinWith ['\n', '\n'] (first ++ paragraphs))

/-- The HTML of a summary. -/
def summaryHtml (context : Markup.LinkContext) (source : String) : String :=
  let events := Engines.markdown .extended (Markup.prepareSource source)
  let events := (Markup.takeFences (Engines.markdown .plain) events).events
  let page := Engines.page (Markup.html (context.serveAll events))
  Markup.restoreDollars ((page.sanitize page.body).tree.html page.body)

/-- Renders the body of a document, with the summaries that have been generated for it. -/
def renderBody (context : Markup.LinkContext) (body : String) (generated : List String) : Rendered :=
  let events := Engines.markdown .extended (Markup.prepareSource body)
  let extracted := Markup.takeFences (Engines.markdown .extended) events
  let headings := Outline.collect extracted.events
  let registry := Outline.observeAll headings
  let ids := Outline.issueIds headings registry
  let events := context.serveAll (Outline.applyIds ids extracted.events)
  let events := Engines.highlighter.highlight events
  let summary := summaryMarkdown extracted.summary generated
  { html := pageHtml (Markup.html events) registry
    contents := Outline.Contents.ofHeadings headings ids
    summaryHtml := if Text.trim summary.toList = [] then "" else summaryHtml context summary
    blockCount := extracted.blockCount }

/-- Renders a document unless an alias takes its route. -/
def render (context : Markup.LinkContext) (body : String) (generated : List String) :
    Except RenderError Rendered :=
  let route := context.document.route
  match context.aliases.target? route with
  | some target => .error (.shadowed route target)
  | none => .ok (renderBody context body generated)

/-- Renders a text that stands for itself. -/
def renderText (text : String) : String :=
  let context : Markup.LinkContext :=
    ⟨ContentPath.ofString "/index.md", AliasGraph.ofExpanded ∅, "/"⟩
  (renderBody context text []).html

end Folio
