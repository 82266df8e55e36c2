import Folio.Routing.AliasGraph

/-! # Redirects

A redirect manifest is filtered against the aliases and the documents of a site: what an alias
already covers is dropped, a redirect with a live target is served (`KnownRoutes.servable`), and
one whose target is nothing is reported (`KnownRoutes.orphaned`).  Documents declare further
redirects of their own (`declaredRedirects`).  `servedRedirects` and `shownContent` lay these tables over
each other: what the web server redirects, and which content each route shows. -/

namespace Folio

/-- What redirects are judged by: the aliases and the routable documents. -/
structure KnownRoutes where
  aliases : AliasGraph
  documents : PathSet

namespace KnownRoutes

/-- Whether a path is a document. -/
def isDocument (f : KnownRoutes) (p : ContentPath) : Bool := f.documents.contains p

/-- What a redirect to `target` finally leads to: the document itself, the document that the file
name stands for, or the alias of the target. -/
def resolve? (f : KnownRoutes) (target : ContentPath) : Option ContentPath :=
  let stripped := ContentPath.ofString (dropMarkdownExtension target.text)
  if f.isDocument target then some target
  else if f.isDocument stripped then some stripped
  else f.aliases.key? target

/-- Whether a path takes part in an alias. -/
def isAliased (f : KnownRoutes) (p : ContentPath) : Bool :=
  f.aliases.isKey p || f.aliases.isTarget p

/-- Whether a redirect starts at a `readme.md` below the root. -/
def fromReadme (source : ContentPath) : Bool :=
  "/readme.md".toList.isSuffixOf (source.text.toList.map Char.toLower)

/-- The redirects of a manifest in normal form that no alias covers; one that starts at a readme
stays in any case. -/
def live (f : KnownRoutes) (manifest : RawManifest) : List (ContentPath × ContentPath) :=
  (AliasGraph.declared manifest).filter fun e =>
    fromReadme e.1 || !(f.isAliased e.1 || f.isAliased e.2)

/-- The redirects that the web server can serve. -/
def servable (f : KnownRoutes) (manifest : RawManifest) : PathMap :=
  (f.live manifest).foldl
    (fun m e => match f.resolve? e.2 with
      | some target => m.insert e.1 target
      | none => m) ∅

/-- The redirects whose target is neither a document nor an alias. -/
def orphaned (f : KnownRoutes) (manifest : RawManifest) : PathMap :=
  (f.live manifest).foldl
    (fun m e =>
      if (f.resolve? e.2).isNone && !f.aliases.isKey e.2 then m.insert e.1 e.2 else m) ∅

/-- An orphaned redirect, for the report. -/
def orphan (source target : ContentPath) : Diagnostic :=
  { code := "redirect.orphaned"
    severity := .warning
    message := "Redirect target '" ++ target.text ++ "' is neither a document nor an alias"
    path := some source.text
    context := some target.text }

/-- The orphaned redirects of a manifest, for the report. -/
def orphans (f : KnownRoutes) (manifest : RawManifest) : List Diagnostic :=
  (f.orphaned manifest).toList.map fun e => orphan e.1 e.2

end KnownRoutes

/-! ### Redirects that documents declare -/

/-- A second claim on an alias is reported and skipped. -/
def duplicateAlias (route key owner : ContentPath) : Diagnostic :=
  { code := "redirect.duplicate"
    severity := .warning
    message := "Alias '" ++ key.text ++ "' is already claimed by '" ++ owner.text ++ "'"
    path := some route.text
    context := some key.text }

/-- Takes one alias that the document at `route` declares. -/
def claimAlias (route : ContentPath) (state : PathMap × List Diagnostic) (raw : String) :
    PathMap × List Diagnostic :=
  let key := ContentPath.ofString raw
  if key.isRoot || key == route then state
  else
    match state.1[key]? with
    | some owner => (state.1, state.2 ++ [duplicateAlias route key owner])
    | none => (state.1.insert key route, state.2)

/-- The aliases that documents declare; the first document in the order of routes keeps an alias. -/
def declaredRedirects (documents : List (ContentPath × List String)) : PathMap × List Diagnostic :=
  let sorted := documents.mergeSort fun a b => (compare a.1 b.1).isLE
  sorted.foldl (fun state d => d.2.foldl (claimAlias d.1) state) (∅, [])

/-! ### Tables -/

/-- Every entry of a table put over another table. -/
def overlay (base layer : PathMap) : PathMap := layer.foldl (fun m key target => m.insert key target) base

/-- Which content each route shows: documents under themselves, unless they start an orphaned
redirect or hide behind an alias; then the orphaned redirects; then the aliases. -/
def shownContent (documents : List ContentPath) (orphaned : PathMap) (aliases : AliasGraph) : PathMap :=
  let own := (documents.filter fun d => !(orphaned.contains d || aliases.isTarget d)).foldl
    (fun m d => m.insert d d) ∅
  aliases.inverse.foldl (fun m target key => m.insert key target) (overlay own orphaned)

/-- What the web server redirects: targets of aliases to their short paths, then the resolvable
redirects, then what documents declare, each over the one before; nothing redirects to itself. -/
def servedRedirects (aliases : AliasGraph) (servable declared : PathMap) : PathMap :=
  (overlay (overlay (overlay ∅ aliases.inverse) servable) declared).filter fun source target =>
    source ≠ target

/-- One entry of the map block of the web server. -/
def serverMapLine (source target : ContentPath) : String :=
  "    \"" ++ source.text ++ "\" \"" ++ target.text ++ "\";\n"

/-- A redirect table as the map block of the web server, keyed on the requested path. -/
def serverMap (m : PathMap) : String :=
  "map $request_uri $redirect_target \x7b\n    default 0;\n" ++
    m.foldl (fun out source target => out ++ serverMapLine source target) "" ++ "\x7d\n"

end Folio
