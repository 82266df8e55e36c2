import Folio.Html.Element

/-! # Forests of HTML nodes

A forest is a list of nodes side by side, each with the nodes below it.  It is written so that plain
induction applies: every constructor carries the nodes that come after it. -/

namespace Folio.Html

/-- Nodes side by side. -/
inductive Forest where
  | nil
  | text (s : String) (next : Forest)
  | comment (s : String) (next : Forest)
  | doctype (next : Forest)
  | element (e : Element) (children next : Forest)
deriving DecidableEq, Repr

namespace Forest

instance : Inhabited Forest := ⟨nil⟩

/-- The nodes of one forest and then those of another. -/
def append : Forest → Forest → Forest
  | nil, g => g
  | text s next, g => text s (next.append g)
  | comment s next, g => comment s (next.append g)
  | doctype next, g => doctype (next.append g)
  | element e children next, g => element e children (next.append g)

instance : Append Forest := ⟨append⟩

/-- The text of every text node, in document order, on characters. -/
def textChars : Forest → List Char
  | nil => []
  | text s next => s.toList ++ next.textChars
  | comment _ next => next.textChars
  | doctype next => next.textChars
  | element _ children next => children.textChars ++ next.textChars

/-- The text of every text node, in document order. -/
def textContent (f : Forest) : String := String.ofList f.textChars

/-- Every element, in document order. -/
def elements : Forest → List Element
  | nil => []
  | text _ next => next.elements
  | comment _ next => next.elements
  | doctype next => next.elements
  | element e children next => e :: (children.elements ++ next.elements)

/-- Whether an element that satisfies `p` stands on the top level. -/
def anyTop (p : Element → Bool) : Forest → Bool
  | nil => false
  | text _ next => next.anyTop p
  | comment _ next => next.anyTop p
  | doctype next => next.anyTop p
  | element e _ next => p e || next.anyTop p

/-- Every element changed by `f`. -/
def mapElements (f : Element → Forest → Element) : Forest → Forest
  | nil => nil
  | text s next => text s (next.mapElements f)
  | comment s next => comment s (next.mapElements f)
  | doctype next => doctype (next.mapElements f)
  | element e children next =>
    element (f e children) (children.mapElements f) (next.mapElements f)

end Forest

end Folio.Html
