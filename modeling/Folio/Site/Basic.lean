import Folio.Markup.Link
import Folio.Routing.Manifest
import Folio.Site.Source

/-! # Loading a site

A site is its configuration with what is read before any document is: the content tree, the routable
documents, the alias graph and the redirect manifest, and what there is to report about them. -/

namespace Folio

/-- A site before it is built. -/
structure Site where
  config : Config
  tree : ContentTree
  aliases : AliasGraph
  documents : List ContentPath
  redirects : RawManifest
  diagnostics : List Diagnostic

namespace Site

/-- Loads a site. -/
def load (disk : Disk) (config : Config) : Except TreeError Site := do
  let tree : ContentTree := ⟨disk, config.contentDirectory⟩
  let documents ← tree.documents
  let (aliasManifest, aliasReport) := loadManifest disk config.aliasManifest
  let (redirects, redirectReport) := loadManifest disk config.redirectManifest
  let (aliases, expansionReport) := AliasGraph.build aliasManifest tree config.reservedAliases
  return {
    config := config
    tree := tree
    aliases := aliases
    documents := documents.toList.filter fun d => !config.excludes d
    redirects := redirects
    diagnostics := aliasReport ++ redirectReport ++ expansionReport }

/-- What the redirects of the manifest are judged by. -/
def knownRoutes (s : Site) : KnownRoutes := ⟨s.aliases, Std.TreeSet.ofList s.documents⟩

/-- The redirects whose target is nothing that the site knows. -/
def orphaned (s : Site) : PathMap := s.knownRoutes.orphaned s.redirects

/-- Which content each route shows. -/
def shownContent (s : Site) : PathMap := Folio.shownContent s.documents s.orphaned s.aliases

/-- The sources of a site. -/
def sources [Engines] (s : Site) : Sources :=
  match s.tree.disk.dirAt? s.tree.root with
  | some content => Sources.ofList (s.config.candidates content)
  | none => ∅

/-- The surroundings of the links of a source. -/
def linkContext (s : Site) (path : ContentPath) : Markup.LinkContext :=
  ⟨path, s.aliases, s.config.assetPrefix⟩

end Site

end Folio
