import Folio.Content.Diagnostic
import Folio.Content.Tree

/-! # The alias graph

An alias gives a short path to a document or to a whole directory.  `AliasGraph.build` expands the
aliases of a manifest over the documents below their targets: every document gets a short path of its
own, and what the manifest declares wins over what is derived from it.

The graph carries its inverse, which keeps the smallest key of each target; the field `inverse` is
determined by the expanded table (`smallestKeys`). -/

namespace Folio

/-- A manifest of paths, as it was written: a flat table from raw paths to raw paths. -/
abbrev RawManifest := Std.TreeMap String String

/-- The smallest key of each target of a table. -/
def smallestKeys (expanded : PathMap) : PathMap :=
  expanded.foldl (fun inverse key target => inverse.insertIfNew target key) ∅

/-- Aliases, from short path to target, with their inverse. -/
structure AliasGraph where
  expanded : PathMap
  inverse : PathMap := smallestKeys expanded
  inverse_eq : inverse = smallestKeys expanded := by rfl

namespace AliasGraph

/-- The graph of a table that is already expanded. -/
def ofExpanded (expanded : PathMap) : AliasGraph := { expanded := expanded }

/-- The graph without aliases. -/
def empty : AliasGraph := ofExpanded ∅

/-- The target of a short path. -/
def target? (g : AliasGraph) (key : ContentPath) : Option ContentPath := g.expanded[key]?

/-- The short path under which a target is exposed. -/
def key? (g : AliasGraph) (target : ContentPath) : Option ContentPath := g.inverse[target]?

/-- Whether a path is a short path. -/
def isKey (g : AliasGraph) (p : ContentPath) : Bool := g.expanded.contains p

/-- Whether a path is the target of an alias. -/
def isTarget (g : AliasGraph) (p : ContentPath) : Bool := g.inverse.contains p

/-! ### Expansion -/

/-- An alias that points at itself is skipped. -/
def selfReference (key : ContentPath) : Diagnostic :=
  { code := "alias.self-reference"
    severity := .warning
    message := "Alias '" ++ key.text ++ "' points at itself"
    path := some key.text }

/-- The reason why the target of an alias could not be expanded. -/
def expansionFailure : TreeError → String
  | .missingDirectory _ => "target does not exist"
  | e => e.message

/-- An alias whose target could not be expanded is kept as it is. -/
def missingTarget (key target : ContentPath) (e : TreeError) : Diagnostic :=
  { code := "alias.missing-target"
    severity := .warning
    message := "Alias target '" ++ target.text ++ "' for '" ++ key.text ++ "': " ++ expansionFailure e
    path := some key.text
    context := some target.text }

/-- Whether a derived short path is reserved; the names are given without slashes at their ends. -/
def isReserved (reserved : List String) (key : ContentPath) : Bool :=
  reserved.any fun name =>
    Text.trimMatches ContentPath.isSlash name.toList == key.relative.toList

/-- Adds the short path of one document below the target of an alias. -/
def addSlug (reserved : List String) (key target : ContentPath) (expanded : PathMap) (slug : Slug) :
    PathMap :=
  if slug = [] then expanded.insert key target
  else if isReserved reserved (key.extend slug) then expanded
  else expanded.insert (key.extend slug) (target.extend slug)

/-- The aliases of a manifest in normal form, in the order of their raw keys. -/
def declared (manifest : RawManifest) : List (ContentPath × ContentPath) :=
  manifest.toList.map fun e => (ContentPath.ofString e.1, ContentPath.ofString e.2)

/-- Expands one alias onto a table, with what there is to report about it. -/
def expandOne (tree : ContentTree) (reserved : List String) (state : PathMap × List Diagnostic)
    (entry : ContentPath × ContentPath) : PathMap × List Diagnostic :=
  let (key, target) := entry
  if key = target then (state.1, state.2 ++ [selfReference key])
  else
    match tree.slugsUnder target with
    | .ok slugs => (slugs.foldl (addSlug reserved key target) state.1, state.2)
    | .error e => (state.1.insert key target, state.2 ++ [missingTarget key target e])

/-- The graph of a manifest over the documents of a tree: first the derived short paths, then, in
their place where they meet, the declared ones. -/
def build (manifest : RawManifest) (tree : ContentTree) (reserved : List String) :
    AliasGraph × List Diagnostic :=
  let entries := declared manifest
  let (derived, diagnostics) := entries.foldl (expandOne tree reserved) (∅, [])
  let expanded := (entries.filter fun e => e.1 ≠ e.2).foldl (fun m e => m.insert e.1 e.2) derived
  (ofExpanded expanded, diagnostics)

end AliasGraph

end Folio
