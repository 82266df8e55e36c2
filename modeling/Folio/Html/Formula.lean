import Folio.Html.Forest

/-! # Math in the page

A span of class `math-inline` or `math-display` holds the source of a formula.  Its content becomes
that text between the delimiters of the math renderer of the page, a display formula becomes a block of
its own, and a paragraph that holds nothing else but blanks around it is unwrapped. -/

namespace Folio.Html

/-- The class of formulas inside a line. -/
def inlineMathClass : String := "math-inline"

/-- The class of formulas on lines of their own. -/
def displayMathClass : String := "math-display"

/-- Whether an element is a display formula. -/
def isDisplayMath (e : Element) : Bool := e.tag == "span" && e.hasClass displayMathClass

/-- Whether an element is a formula. -/
def isMath (e : Element) : Bool :=
  e.tag == "span" && (e.hasClass inlineMathClass || e.hasClass displayMathClass)

/-- The source of a formula in its delimiters. -/
def delimited (display : Bool) (source : String) : String :=
  if display then "\\[" ++ source ++ "\\]" else "\\(" ++ source ++ "\\)"

/-- The element of a formula with the given source: labelled with it, and a block if it is a display
formula. -/
def mathElement (e : Element) (source : String) : Element :=
  let labelled := (e.setAttr "aria-label" source).addClass "math"
  if isDisplayMath e then { labelled with tag := "div" } else labelled

/-- Whether a text is blank. -/
def isBlankText (s : String) : Bool := (Text.trim s.toList).isEmpty

namespace Forest

/-- Whether a forest is one display formula, blank texts aside; `seen` tells whether it has come. -/
def isSoleDisplay (seen : Bool) : Forest → Bool
  | nil => seen
  | text s next => isBlankText s && next.isSoleDisplay seen
  | comment _ _ => false
  | doctype _ => false
  | element e _ next => isDisplayMath e && !seen && next.isSoleDisplay true

/-- Renders every formula. -/
def setMath : Forest → Forest
  | nil => nil
  | text s next => text s next.setMath
  | comment s next => comment s next.setMath
  | doctype next => doctype next.setMath
  | element e children next =>
    if isMath e then
      let source := children.textContent
      element (mathElement e source) (text (delimited (isDisplayMath e) source) nil) next.setMath
    else if e.tag = "p" ∧ children.isSoleDisplay false then children.setMath ++ next.setMath
    else element e children.setMath next.setMath

end Forest

end Folio.Html
