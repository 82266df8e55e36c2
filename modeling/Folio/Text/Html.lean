/-! # Text in HTML

Escaping of text that is written between tags or into a quoted attribute. -/

namespace Folio.Text

/-- A character as it is written in HTML, quotes escaped. -/
def escapeHtmlChar (c : Char) : List Char :=
  if c = '&' then "&amp;".toList
  else if c = '<' then "&lt;".toList
  else if c = '>' then "&gt;".toList
  else if c = '"' then "&quot;".toList
  else if c.toNat = 0x27 then "&#39;".toList
  else [c]

/-- A text as it is written in HTML, quotes escaped. -/
def escapeHtml (s : String) : String := String.ofList (s.toList.flatMap escapeHtmlChar)

end Folio.Text
