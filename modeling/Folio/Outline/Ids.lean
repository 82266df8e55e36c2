import Std.Data.TreeMap
import Std.Data.TreeSet
import Folio.Markup.Dollar
import Folio.Text.Slug

/-! # Heading ids

The id of a heading is the slug of its text.  A `SlugRegistry` remembers the slugs of the texts it has
seen; a `GivenIds` hands out ids in document order, so that the n-th heading of one text gets the
slug with the number n, and no id is given twice. -/

namespace Folio.Outline

/-- The id base of a heading whose slug is empty. -/
def emptySlug : String := "section"

/-- The slug of a heading, with currency restored. -/
def headingSlug (text : String) : String := Text.slugOf (Markup.restoreDollars text)

/-- The text of a heading with each run of blanks made one space. -/
def spacedText (text : String) : String :=
  String.ofList (Text.joinWith [' '] (Text.words text.toList))

/-- The slugs of the heading texts seen so far. -/
structure SlugRegistry where
  slugs : Std.TreeMap String String := ∅

namespace SlugRegistry

/-- The registry that has seen nothing. -/
def empty : SlugRegistry := {}

/-- Records the text of a heading. -/
def record (r : SlugRegistry) (text : String) : SlugRegistry :=
  let key := spacedText text
  ⟨r.slugs.insertIfNew key (headingSlug key)⟩

/-- The id base of a heading; a text not seen before is turned into a slug on the spot. -/
def base (r : SlugRegistry) (text : String) : String :=
  let key := spacedText text
  let slug := r.slugs.getD key (headingSlug key)
  if slug = "" then emptySlug else slug

/-- The number of texts seen. -/
def size (r : SlugRegistry) : Nat := r.slugs.size

end SlugRegistry

/-- Ids handed out so far: how often each text came, and which ids are taken. -/
structure GivenIds where
  registry : SlugRegistry
  occurrences : Std.TreeMap String Nat := ∅
  used : Std.TreeSet String := ∅

/-- The n-th id of a base. -/
def numbered (base : String) (n : Nat) : String :=
  if n = 1 then base else base ++ "-" ++ toString n

/-- The first number from `n` on whose id is free, within a number of tries. -/
def firstFree (used : Std.TreeSet String) (base : String) : Nat → Nat → Nat
  | 0, n => n
  | tries + 1, n =>
    if used.contains (numbered base n) then firstFree used base tries (n + 1) else n

namespace GivenIds

/-- The ids of a fresh pass over a document. -/
def start (registry : SlugRegistry) : GivenIds := { registry := registry }

/-- The id of the next heading of a text.  One of the first `used.size + 1` candidates is free. -/
def issue (ids : GivenIds) (text : String) : String × GivenIds :=
  let key := spacedText text
  let count := ids.occurrences.getD key 0 + 1
  let base := ids.registry.base key
  let id := numbered base (firstFree ids.used base (ids.used.size + 1) count)
  (id, { ids with occurrences := ids.occurrences.insert key count, used := ids.used.insert id })

/-- Takes an id that the author has given. -/
def hold (ids : GivenIds) (id : String) : GivenIds := { ids with used := ids.used.insert id }

end GivenIds

end Folio.Outline
