import Folio.Html.Forest

/-! # What HTML is allowed

Of a forest, only what the lists below allow survives.  An element that is not allowed is unwrapped, so
that its text stays, unless its content is executable or invisible: then it is dropped with all that
is in it.  Attributes that are not allowed go, and so do addresses with a protocol that is not
allowed.  Comments and document types go always.  `Forest.sanitize` cleans a forest and
`Forest.removed` counts what goes. -/

namespace Folio.Html

/-! ### What is allowed -/

/-- Put before the value of every `name`, so that no document can shadow a global of the page. -/
def clobberPrefix : String := "user-content-"

/-- Tags of the HTML vocabulary. -/
def htmlTags : List String :=
  ["h1", "h2", "h3", "h4", "h5", "h6", "p", "a", "img", "ul", "ol", "li", "blockquote", "hr",
   "em", "strong", "b", "i", "u", "s", "del", "ins", "code", "pre", "br", "div", "span", "mark",
   "kbd", "samp", "var", "sub", "sup", "small", "abbr", "cite", "q", "dl", "dt", "dd", "details",
   "summary", "figure", "figcaption", "section", "picture", "input", "iframe", "video", "audio",
   "source", "track", "table", "thead", "tbody", "tfoot", "tr", "th", "td", "caption", "colgroup",
   "col"]

/-- Tags of the SVG vocabulary. -/
def svgTags : List String :=
  ["svg", "g", "path", "circle", "ellipse", "line", "polyline", "polygon", "rect", "text",
   "tspan", "defs", "linearGradient", "radialGradient", "stop", "clipPath", "mask", "use",
   "title", "desc", "marker", "symbol", "pattern"]

/-- Tags of the MathML vocabulary. -/
def mathmlTags : List String :=
  ["math", "mrow", "mi", "mn", "mo", "ms", "mtext", "mfrac", "msqrt", "mroot", "msub", "msup",
   "msubsup", "munder", "mover", "munderover", "mtable", "mtr", "mtd", "mspace", "mstyle",
   "mpadded", "mphantom", "menclose", "semantics", "annotation"]

/-- Tags that are dropped with everything inside them, where they are not allowed. -/
def dropWithContent : List String :=
  ["script", "style", "template", "noscript", "textarea", "select", "object", "embed", "head",
   "title", "xmp", "noembed", "noframes", "foreignObject"]

/-- Attributes of every element. -/
def globalAttrs : List String :=
  ["class", "id", "title", "lang", "dir", "role", "name", "aria-label", "aria-hidden",
   "aria-describedby"]

/-- Attributes that hold an address. -/
def urlAttrs : List String := ["href", "src", "xlink:href", "cite", "poster"]

/-- Protocols that an address may name. -/
def allowedProtocols : List String := ["http", "https", "mailto", "tel"]

/-- Attributes of the SVG vocabulary. -/
def svgAttrs : List String :=
  ["viewBox", "width", "height", "xmlns", "fill", "stroke", "stroke-width", "stroke-linecap",
   "stroke-linejoin", "stroke-dasharray", "d", "cx", "cy", "r", "rx", "ry", "x", "y", "x1", "x2",
   "y1", "y2", "dx", "dy", "points", "transform", "opacity", "fill-opacity", "stroke-opacity",
   "fill-rule", "clip-rule", "offset", "stop-color", "stop-opacity", "gradientUnits",
   "gradientTransform", "preserveAspectRatio", "text-anchor", "font-size", "font-family",
   "font-weight", "dominant-baseline", "clip-path", "mask", "href", "xlink:href", "markerWidth",
   "markerHeight", "refX", "refY", "orient", "patternUnits"]

/-- Attributes of the MathML vocabulary. -/
def mathmlAttrs : List String :=
  ["display", "xmlns", "mathvariant", "displaystyle", "scriptlevel", "fence", "stretchy",
   "separator", "lspace", "rspace", "accent", "accentunder", "columnalign", "rowalign",
   "linethickness", "encoding", "width", "height", "depth", "notation"]

/-- Attributes of one tag of the HTML vocabulary. -/
def attributesOfTag (tag : String) : List String :=
  match tag with
  | "a" => ["href", "target", "rel"]
  | "img" => ["src", "alt", "width", "height", "loading"]
  | "th" | "td" => ["align", "scope", "colspan", "rowspan"]
  | "ol" => ["start", "type", "reversed"]
  | "li" => ["value"]
  | "input" => ["type", "checked", "disabled"]
  | "iframe" =>
    ["src", "width", "height", "allow", "allowfullscreen", "frameborder", "loading",
     "referrerpolicy"]
  | "video" =>
    ["src", "controls", "width", "height", "poster", "autoplay", "loop", "muted", "playsinline",
     "preload"]
  | "audio" => ["src", "controls", "loop", "muted", "preload"]
  | "source" => ["src", "type"]
  | "track" => ["src", "kind", "srclang", "label", "default"]
  | "details" => ["open"]
  | "blockquote" | "q" => ["cite"]
  | "col" | "colgroup" => ["span"]
  | _ => []

/-- Whether the list of a vocabulary has a tag. -/
def isListedTag (space : Space) (tag : String) : Bool :=
  match space with
  | .html => htmlTags.contains tag
  | .svg => svgTags.contains tag
  | .mathml => mathmlTags.contains tag
  | .other => false

/-- Whether an element is a check box. -/
def isCheckbox (e : Element) : Bool :=
  (e.attr? "type").any fun t => Text.eqIgnoringCase t.toList "checkbox".toList

/-- Whether an element is allowed: its tag is listed, and the only input is a check box. -/
def allowsElement (e : Element) : Bool :=
  isListedTag e.space e.tag && (e.tag ≠ "input" || isCheckbox e)

/-- Whether an element that is not allowed goes with its content. -/
def dropsContent (e : Element) : Bool := dropWithContent.contains e.tag || e.tag == "input"

/-- Whether an attribute is allowed on a tag. -/
def allowsAttribute (space : Space) (tag name : String) : Bool :=
  globalAttrs.contains name ||
    match space with
    | .html => (attributesOfTag tag).contains name
    | .svg => svgAttrs.contains name
    | .mathml => mathmlAttrs.contains name
    | .other => false

/-- Whether a character ends what could be the protocol of an address. -/
def endsProtocol (c : Char) : Bool := c == ':' || c == '/' || c == '?' || c == '#'

/-- Whether an address names an allowed protocol, or none.  Blanks and controls inside it are
ignored, as browsers ignore them. -/
def isAllowedAddress (url : String) : Bool :=
  let compact := url.toList.filter fun c => !Unicode.isBlank c && !Unicode.isControl c
  match compact.dropWhile (!endsProtocol ·) with
  | ':' :: _ =>
    let scheme := (compact.takeWhile (!endsProtocol ·)).map Char.toLower
    allowedProtocols.any fun p => p.toList == scheme
  | _ => true

/-! ### Cleaning -/

/-- Whether an attribute of an allowed element stays. -/
def keepsAttr (e : Element) (a : Attr) : Bool :=
  allowsAttribute e.space e.tag a.name && (!urlAttrs.contains a.name || isAllowedAddress a.value)

/-- An attribute as it stays; a `name` is set apart from the globals of the page. -/
def guardName (a : Attr) : Attr :=
  if a.name = "name" && !clobberPrefix.toList.isPrefixOf a.value.toList then
    { a with value := clobberPrefix ++ a.value }
  else a

/-- An allowed element with the attributes that stay. -/
def cleanElement (e : Element) : Element :=
  { e with attrs := (e.attrs.filter (keepsAttr e)).map guardName }

namespace Forest

/-- What is left of a forest. -/
def sanitize : Forest → Forest
  | nil => nil
  | text s next => text s next.sanitize
  | comment _ next => next.sanitize
  | doctype next => next.sanitize
  | element e children next =>
    if allowsElement e then element (cleanElement e) children.sanitize next.sanitize
    else if dropsContent e then next.sanitize
    else children.sanitize ++ next.sanitize

end Forest

/-- How much the sanitizer removes. -/
structure Removed where
  dropped : Nat := 0
  unwrapped : Nat := 0
  attributes : Nat := 0
deriving DecidableEq, Repr

/-- Adds up two counts. -/
def Removed.add (a b : Removed) : Removed :=
  ⟨a.dropped + b.dropped, a.unwrapped + b.unwrapped, a.attributes + b.attributes⟩

instance : Add Removed := ⟨Removed.add⟩

/-- How much of a forest the sanitizer removes. -/
def Forest.removed : Forest → Removed
  | .nil => {}
  | .text _ next => next.removed
  | .comment _ next => next.removed
  | .doctype next => next.removed
  | .element e children next =>
    if allowsElement e then
      ⟨0, 0, (e.attrs.filter (!keepsAttr e ·)).length⟩ + children.removed + next.removed
    else if dropsContent e then ⟨1, 0, 0⟩ + next.removed
    else ⟨0, 1, 0⟩ + children.removed + next.removed

end Folio.Html
