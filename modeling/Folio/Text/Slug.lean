import Folio.Text.Basic
import Folio.Unicode.Alphanumeric
import Folio.Unicode.Grapheme
import Folio.Unicode.Lowercase

/-! # Slugs

The anchor of a heading is its text in lower case, with blanks turned into hyphens and every cluster
that starts with neither a letter, a number, a hyphen nor an underscore left out; runs of hyphens
become one and none stays at either end. -/

namespace Folio.Text

open Folio.Unicode

/-- What a cluster of the lowered text contributes to the slug. -/
def slugCluster : List Char → List Char
  | [] => []
  | c :: cs =>
    if isBlank c then ['-']
    else if isAlphanumeric c || c = '-' || c = '_' then c :: cs
    else []

/-- A text with each run of hyphens made one. -/
def collapseHyphens : List Char → List Char
  | [] => []
  | [c] => [c]
  | c :: d :: cs =>
    if c = '-' ∧ d = '-' then collapseHyphens (d :: cs) else c :: collapseHyphens (d :: cs)

/-- The slug of a text, on its characters. -/
def slugChars (cs : List Char) : List Char :=
  trimMatches (· = '-') (collapseHyphens ((clusters (lowercase cs)).flatMap slugCluster))

/-- The slug of a text. -/
def slugOf (s : String) : String := String.ofList (slugChars s.toList)

end Folio.Text
