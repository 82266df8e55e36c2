import Folio.Markup.Event
import Folio.Outline.Ids

/-! # Tables of contents

The headings of levels 2 to 5 are collected from the events of a document, get an id each, and are
nested into the table of contents; the same ids go onto the heading events (`applyIds`), so that the
page carries the anchors that the table points at. -/

namespace Folio.Outline

open Folio.Markup

/-- Whether headings of a level get an id and an entry. -/
def isListed (level : Nat) : Bool := 2 ≤ level && level ≤ 5

/-- A heading as the events show it. -/
structure Heading where
  depth : Nat
  text : String
  explicitId : Option String
deriving DecidableEq, Repr

/-- A heading with more text at its end. -/
def Heading.add (h : Heading) (s : String) : Heading := { h with text := h.text ++ s }

/-- Collects the listed headings, `current` being open inside `images` images.  The text of an image
is no part of the heading; inline math is kept in its delimiters. -/
def collectFrom (current : Option Heading) (images : Nat) : List Event → List Heading
  | [] => []
  | event :: rest =>
    match event with
    | .start (.image _) => collectFrom current (images + 1) rest
    | .finish .image => collectFrom current (images - 1) rest
    | .start (.heading h) =>
      collectFrom (some ⟨h.level, "", h.id.filter (· ≠ "")⟩) images rest
    | .text s | .code s =>
      collectFrom (if images = 0 then current.map (·.add s) else current) images rest
    | .inlineMath s =>
      collectFrom (if images = 0 then current.map (·.add ("\\(" ++ s ++ "\\)")) else current)
        images rest
    | .softBreak | .hardBreak => collectFrom (current.map (·.add " ")) images rest
    | .finish (.heading _) =>
      match current with
      | some h => (if isListed h.depth then [h] else []) ++ collectFrom none images rest
      | none => collectFrom none images rest
    | _ => collectFrom current images rest

/-- The listed headings of a document, in order. -/
def collect (events : List Event) : List Heading := collectFrom none 0 events

/-- The registry of the headings of a document. -/
def observeAll (headings : List Heading) : SlugRegistry :=
  headings.foldl (fun r h => r.record h.text) SlugRegistry.empty

/-- Ids for headings in order; one that the author has given stays. -/
def issueFrom (ids : GivenIds) : List Heading → List String
  | [] => []
  | h :: rest =>
    match h.explicitId with
    | some id => id :: issueFrom ids rest
    | none =>
      let (id, ids') := ids.issue h.text
      id :: issueFrom ids' rest

/-- One id per heading; every id that the author has given is taken before any is made. -/
def issueIds (headings : List Heading) (registry : SlugRegistry) : List String :=
  issueFrom ((headings.filterMap (·.explicitId)).foldl GivenIds.hold (GivenIds.start registry))
    headings

/-- One entry of a table of contents. -/
structure Entry where
  id : String
  value : String
  depth : Nat
deriving DecidableEq, Repr

/-- A table of contents: entries side by side, each with the entries below it. -/
inductive Contents where
  | nil
  | item (entry : Entry) (children next : Contents)
deriving DecidableEq, Repr

namespace Contents

/-- Puts an entry at the end: below the last entry while it is deeper than that. -/
def insert (x : Entry) : Contents → Contents
  | nil => item x nil nil
  | item e children nil =>
    if e.depth < x.depth then item e (children.insert x) nil else item e children (item x nil nil)
  | item e children (item e' children' next) =>
    item e children ((item e' children' next).insert x)

/-- Every entry, in document order. -/
def flatten : Contents → List Entry
  | nil => []
  | item e children next => e :: (children.flatten ++ next.flatten)

/-- The entries side by side, each with what is below it. -/
def items : Contents → List (Entry × Contents)
  | nil => []
  | item e children next => (e, children) :: next.items

/-- The table of contents of headings with their ids. -/
def ofHeadings (headings : List Heading) (ids : List String) : Contents :=
  (headings.zip ids).foldl
    (fun toc h =>
      let value := Markup.restoreDollars (String.ofList (Text.trim h.1.text.toList))
      toc.insert ⟨h.2, value, h.1.depth⟩) nil

end Contents

/-- Writes ids onto the listed headings, one after the other; when they run out, headings keep what
they have. -/
def applyIds : List String → List Event → List Event
  | _, [] => []
  | ids, .start (.heading h) :: rest =>
    if isListed h.level then
      match ids with
      | [] => .start (.heading h) :: applyIds [] rest
      | id :: more => .start (.heading { h with id := some id }) :: applyIds more rest
    else .start (.heading h) :: applyIds ids rest
  | ids, event :: rest => event :: applyIds ids rest

end Folio.Outline
