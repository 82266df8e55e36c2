import Folio.Html.Element

/-! # Classes of elements

The sets of tags that the construction of a document tree looks at, and the names that foreign content
spells with capitals. -/

namespace Folio.Html

/-- A tag with its vocabulary. -/
abbrev Name := Space × String

/-- The name of an element. -/
def Element.name (e : Element) : Name := (e.space, e.tag)

/-- Whether a name is one of some HTML tags. -/
def isHtmlOf (tags : List String) (n : Name) : Bool := n.1 == .html && tags.contains n.2

/-- The tags that end tags of inline elements do not reach across. -/
def specialTags : List String :=
  ["address", "applet", "area", "article", "aside", "base", "basefont", "bgsound", "blockquote",
   "body", "br", "button", "caption", "center", "col", "colgroup", "dd", "details", "dir", "div",
   "dl", "dt", "embed", "fieldset", "figcaption", "figure", "footer", "form", "frame", "frameset",
   "h1", "h2", "h3", "h4", "h5", "h6", "head", "header", "hgroup", "hr", "html", "iframe", "img",
   "input", "isindex", "li", "link", "listing", "main", "marquee", "menu", "meta", "nav", "noembed",
   "noframes", "noscript", "object", "ol", "p", "param", "plaintext", "pre", "script", "section",
   "select", "source", "style", "summary", "table", "tbody", "td", "template", "textarea", "tfoot",
   "th", "thead", "title", "tr", "track", "ul", "wbr", "xmp"]

/-- The headings. -/
def headingTags : List String := ["h1", "h2", "h3", "h4", "h5", "h6"]

/-- The elements of MathML that hold text. -/
def isMathText (n : Name) : Bool :=
  n.1 == .mathml && ["mi", "mo", "mn", "ms", "mtext"].contains n.2

/-- The elements of SVG that hold HTML. -/
def isSvgHtml (n : Name) : Bool :=
  n.1 == .svg && ["foreignObject", "desc", "title"].contains n.2

/-- How far the search for an open element goes. -/
inductive Scope where
  | general
  | listItem
  | button
  | table
deriving DecidableEq, Repr

/-- Whether an element bounds a scope. -/
def Scope.bounds (s : Scope) (n : Name) : Bool :=
  let general := isHtmlOf ["applet", "caption", "html", "table", "td", "th", "marquee", "object",
    "select", "template"] n || isMathText n || isSvgHtml n
  match s with
  | .general => general
  | .listItem => general || isHtmlOf ["ol", "ul"] n
  | .button => general || isHtmlOf ["button"] n
  | .table => isHtmlOf ["html", "table", "template"] n

/-- The elements whose end tag may be left out. -/
def impliedEnds : List String :=
  ["dd", "dt", "li", "option", "optgroup", "p", "rb", "rp", "rt", "rtc"]

/-- The elements whose end tag may be left out, those of tables included. -/
def allImpliedEnds : List String :=
  impliedEnds ++ ["caption", "colgroup", "tbody", "td", "tfoot", "th", "thead", "tr"]

/-- The elements in which a stray child is moved in front of the table. -/
def fosterTags : List String := ["table", "tbody", "tfoot", "thead", "tr"]

/-- The block elements that close a paragraph when they open. -/
def blockStartTags : List String :=
  ["address", "article", "aside", "blockquote", "center", "details", "dialog", "dir", "div", "dl",
   "fieldset", "figcaption", "figure", "footer", "header", "hgroup", "main", "menu", "nav", "ol", "p",
   "search", "section", "summary", "ul"]

/-- The block elements that an end tag closes with all that is open inside. -/
def blockEndTags : List String :=
  ["address", "article", "aside", "blockquote", "button", "center", "details", "dialog", "dir", "div",
   "dl", "fieldset", "figcaption", "figure", "footer", "header", "hgroup", "listing", "main", "menu",
   "nav", "ol", "pre", "search", "section", "select", "summary", "ul"]

/-- The inline elements that are opened again where a block interrupts them. -/
def formattingTags : List String :=
  ["b", "big", "code", "em", "font", "i", "s", "small", "strike", "strong", "tt", "u"]

/-- The tags of the document head. -/
def headTags : List String :=
  ["base", "basefont", "bgsound", "link", "meta", "noframes", "script", "style", "template", "title"]

/-- The tags of table parts, without the table. -/
def tablePartTags : List String :=
  ["caption", "col", "colgroup", "tbody", "td", "tfoot", "th", "thead", "tr"]

/-- The HTML tags that end foreign content. -/
def breakoutTags : List String :=
  ["b", "big", "blockquote", "body", "br", "center", "code", "dd", "div", "dl", "dt", "em", "embed",
   "h1", "h2", "h3", "h4", "h5", "h6", "head", "hr", "i", "img", "li", "listing", "menu", "meta",
   "nobr", "ol", "p", "pre", "ruby", "s", "small", "span", "strong", "strike", "sub", "sup", "table",
   "tt", "u", "ul", "var"]

/-! ### Foreign names -/

/-- The tags of SVG that have capitals. -/
def svgTagNames : List String :=
  ["altGlyph", "altGlyphDef", "altGlyphItem", "animateColor", "animateMotion", "animateTransform",
   "clipPath", "feBlend", "feColorMatrix", "feComponentTransfer", "feComposite", "feConvolveMatrix",
   "feDiffuseLighting", "feDisplacementMap", "feDistantLight", "feDropShadow", "feFlood", "feFuncA",
   "feFuncB", "feFuncG", "feFuncR", "feGaussianBlur", "feImage", "feMerge", "feMergeNode",
   "feMorphology", "feOffset", "fePointLight", "feSpecularLighting", "feSpotLight", "feTile",
   "feTurbulence", "foreignObject", "glyphRef", "linearGradient", "radialGradient", "textPath"]

/-- The attributes of SVG that have capitals. -/
def svgAttrNames : List String :=
  ["attributeName", "attributeType", "baseFrequency", "baseProfile", "calcMode", "clipPathUnits",
   "diffuseConstant", "edgeMode", "filterUnits", "glyphRef", "gradientTransform", "gradientUnits",
   "kernelMatrix", "kernelUnitLength", "keyPoints", "keySplines", "keyTimes", "lengthAdjust",
   "limitingConeAngle", "markerHeight", "markerUnits", "markerWidth", "maskContentUnits", "maskUnits",
   "numOctaves", "pathLength", "patternContentUnits", "patternTransform", "patternUnits", "pointsAtX",
   "pointsAtY", "pointsAtZ", "preserveAlpha", "preserveAspectRatio", "primitiveUnits", "refX", "refY",
   "repeatCount", "repeatDur", "requiredExtensions", "requiredFeatures", "specularConstant",
   "specularExponent", "spreadMethod", "startOffset", "stdDeviation", "stitchTiles", "surfaceScale",
   "systemLanguage", "tableValues", "targetX", "targetY", "textLength", "viewBox", "viewTarget",
   "xChannelSelector", "yChannelSelector", "zoomAndPan"]

/-- A name with the capitals that a list of names gives it. -/
def capitalize (names : List String) (name : String) : String :=
  (names.find? fun n => n.toLower == name).getD name

/-- The attributes of an element with the capitals of its vocabulary. -/
def foreignAttrs (space : Space) (attrs : List Attr) : List Attr :=
  attrs.map fun a =>
    { a with name := match space with
      | .svg => capitalize svgAttrNames a.name
      | .mathml => capitalize ["definitionURL"] a.name
      | _ => a.name }

/-- The tag of a foreign element with the capitals of its vocabulary. -/
def foreignTag (space : Space) (tag : String) : String :=
  if space == .svg then capitalize svgTagNames tag else tag

end Folio.Html
