import Folio.Markup.Event
import Folio.Routing.AliasGraph
import Folio.Markup.RawTag

/-! # Links of a document

Links to documents are turned into the routes they are served under, or to the alias that exposes
the route; images are rooted under the prefix of static assets.  What carries a scheme, a host or
only a fragment is left as it is. -/

namespace Folio.Markup

/-- Whether an address starts with a scheme and a colon. -/
def hasScheme (link : List Char) : Bool :=
  match link with
  | [] => false
  | c :: rest => c.isAlpha && (rest.dropWhile isSchemeChar).head? == some ':'

/-- Whether a link is left as it is. -/
def staysAsWritten (link : List Char) : Bool :=
  link.isEmpty || link.head? == some '#' || "//".toList.isPrefixOf link || hasScheme link

/-- A query or a fragment starts here. -/
def startsSuffix (c : Char) : Bool := c == '?' || c == '#'

/-- The path of a link. -/
def linkPath (link : List Char) : List Char := link.takeWhile (!startsSuffix ·)

/-- The query and the fragment of a link. -/
def linkSuffix (link : List Char) : List Char := link.dropWhile (!startsSuffix ·)

/-- A reference found in a document, as a path below the content root. -/
def resolveReference (document : ContentPath) (path : String) : ContentPath :=
  if path.toList.head? = some '/' then ContentPath.ofString path else document.parent.join path

/-- The address a link is served under: its route, or the alias that exposes it. -/
def servedLink (document : ContentPath) (aliases : AliasGraph) (link : String) : String :=
  let cs := link.toList
  let path := linkPath cs
  if staysAsWritten cs || path.isEmpty then link
  else
    let stripped := String.ofList (dropMarkdownExtensionChars path)
    let route := (resolveReference document stripped).collapseIndex
    ((aliases.key? route).getD route).text ++ String.ofList (linkSuffix cs)

/-- The source of an image rooted under the prefix of static assets; absolute ones stay. -/
def servedImage (document : ContentPath) (assetPrefix : String) (source : String) : String :=
  let cs := source.toList
  let path := linkPath cs
  if staysAsWritten cs || cs.head? == some '/' || path.isEmpty then source
  else
    let resolved := resolveReference document (String.ofList path)
    let base := ContentPath.ofString assetPrefix
    (if base.isRoot then "" else base.text) ++ resolved.text ++ String.ofList (linkSuffix cs)

/-- What the links of a document are resolved against. -/
structure LinkContext where
  document : ContentPath
  aliases : AliasGraph
  assetPrefix : String

/-- The event with the target of its link or image as served. -/
def LinkContext.serve (context : LinkContext) : Event → Event
  | .start (.link target) =>
    .start (.link { target with url := servedLink context.document context.aliases target.url })
  | .start (.image target) =>
    .start (.image { target with url := servedImage context.document context.assetPrefix target.url })
  | event => event

/-- Every link and image with its target as served. -/
def LinkContext.serveAll (context : LinkContext) (events : List Event) : List Event :=
  events.map context.serve

end Folio.Markup
