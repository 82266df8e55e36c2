import Folio.Html.Forest

/-! # Writing HTML

A forest is written with every attribute quoted and every element closed, but for the void elements,
which have no end tag and no content.  Text inside `script` and `style` is written as it is. -/

namespace Folio.Html

/-- The elements that have neither content nor an end tag. -/
def voidElements : List String :=
  ["area", "base", "br", "col", "embed", "hr", "img", "input", "link", "meta", "source", "track",
   "wbr"]

/-- The elements whose text is written as it is. -/
def rawTextElements : List String := ["script", "style"]

/-- Whether text directly inside a tag is written as it is. -/
def isRawText (tag : String) : Bool := rawTextElements.contains tag

/-- A character of a text. -/
def escapeTextChar (c : Char) : List Char :=
  if c = '&' then "&amp;".toList
  else if c = '<' then "&lt;".toList
  else if c = '>' then "&gt;".toList
  else if c.toNat = 0xA0 then "&nbsp;".toList
  else [c]

/-- A character of an attribute value. -/
def escapeAttrChar (c : Char) : List Char :=
  if c = '&' then "&amp;".toList
  else if c = '"' then "&quot;".toList
  else if c.toNat = 0xA0 then "&nbsp;".toList
  else [c]

/-- An attribute with the blank before it. -/
def attrChars (a : Attr) : List Char :=
  ' ' :: a.name.toList ++ '=' :: '"' :: a.value.toList.flatMap escapeAttrChar ++ ['"']

/-- The start tag of an element. -/
def startTagChars (e : Element) : List Char :=
  '<' :: e.tag.toList ++ e.attrs.flatMap attrChars ++ ['>']

/-- The end tag of an element. -/
def endTagChars (e : Element) : List Char := '<' :: '/' :: e.tag.toList ++ ['>']

/-- A forest as HTML, on characters; `raw` holds directly inside `script` and `style`. -/
def Forest.htmlChars (raw : Bool) : Forest → List Char
  | .nil => []
  | .text s next =>
    (if raw then s.toList else s.toList.flatMap escapeTextChar) ++ next.htmlChars raw
  | .comment s next => "<!--".toList ++ s.toList ++ "-->".toList ++ next.htmlChars raw
  | .doctype next => "<!DOCTYPE html>".toList ++ next.htmlChars raw
  | .element e children next =>
    startTagChars e ++
      (if voidElements.contains e.tag then []
       else children.htmlChars (isRawText e.tag) ++ endTagChars e) ++
      next.htmlChars raw

/-- A forest as HTML. -/
def Forest.html (f : Forest) (raw : Bool := false) : String := String.ofList (f.htmlChars raw)

end Folio.Html
