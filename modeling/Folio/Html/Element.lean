import Folio.Text.Basic

/-! # Elements

An element has a vocabulary, a tag and its attributes in order.  Attributes are looked up by name,
the first of a name counting; the attribute `class` is read as a set of words. -/

namespace Folio.Html

/-- The vocabulary of an element. -/
inductive Space where
  | html
  | svg
  | mathml
  | other
deriving DecidableEq, Repr

/-- An attribute, by the name it is written with. -/
structure Attr where
  name : String
  value : String
deriving DecidableEq, Repr

/-- The value of the first attribute of a name. -/
def Attr.find? (attrs : List Attr) (name : String) : Option String :=
  (attrs.find? (·.name = name)).map (·.value)

/-- Gives the first attribute of a name a value; a missing one is added at the end. -/
def Attr.put (name value : String) : List Attr → List Attr
  | [] => [⟨name, value⟩]
  | a :: rest => if a.name = name then ⟨name, value⟩ :: rest else a :: put name value rest

/-- The words of a class value. -/
def classWords (value : String) : List (List Char) := Text.words value.toList

/-- A tag with its vocabulary and attributes. -/
structure Element where
  space : Space
  tag : String
  attrs : List Attr
deriving DecidableEq, Repr

namespace Element

/-- An element of the HTML vocabulary. -/
def ofHtml (tag : String) (attrs : List (String × String) := []) : Element :=
  ⟨.html, tag, attrs.map fun a => ⟨a.1, a.2⟩⟩

/-- The value of an attribute. -/
def attr? (e : Element) (name : String) : Option String := Attr.find? e.attrs name

/-- Gives an attribute a value. -/
def setAttr (e : Element) (name value : String) : Element :=
  { e with attrs := Attr.put name value e.attrs }

/-- Removes every attribute of a name. -/
def removeAttr (e : Element) (name : String) : Element :=
  { e with attrs := e.attrs.filter (·.name ≠ name) }

/-- Whether an element has a class. -/
def hasClass (e : Element) (cls : String) : Bool :=
  match e.attr? "class" with
  | some value => (classWords value).contains cls.toList
  | none => false

/-- Adds a class behind those an element has. -/
def addClass (e : Element) (cls : String) : Element :=
  if e.hasClass cls then e
  else
    match e.attr? "class" with
    | some value =>
      let trimmed := Text.trim value.toList
      e.setAttr "class" (if trimmed = [] then cls else String.ofList trimmed ++ " " ++ cls)
    | none => e.setAttr "class" cls

end Element

end Folio.Html
