import Folio.Unicode.GraphemeData

/-! # Grapheme clusters

A text is cut into the clusters that a reader takes for one character: a letter with its marks, a
Hangul syllable, a flag, a family of joined pictographs, an Indic conjunct.  `clusters` cuts a text
at every boundary; `isBoundary` states the rule between two neighbouring characters. -/

namespace Folio.Unicode

/-- How a character behaves at the edge of a cluster. -/
inductive ClusterClass where
  | carriageReturn
  | lineFeed
  | control
  | extend
  | joiner
  | regional
  | prepend
  | spacingMark
  | leading
  | vowel
  | trailing
  | leadingVowel
  | leadingVowelTrailing
  | other
deriving DecidableEq, Repr

/-- The class of a Hangul syllable block, by its place in the table of syllables. -/
def hangulClass (n : Nat) : Option ClusterClass :=
  if (0x1100 ≤ n && n ≤ 0x115F) || (0xA960 ≤ n && n ≤ 0xA97C) then some .leading
  else if (0x1160 ≤ n && n ≤ 0x11A7) || (0xD7B0 ≤ n && n ≤ 0xD7C6) then some .vowel
  else if (0x11A8 ≤ n && n ≤ 0x11FF) || (0xD7CB ≤ n && n ≤ 0xD7FB) then some .trailing
  else if 0xAC00 ≤ n && n ≤ 0xD7A3 then
    some (if (n - 0xAC00) % 28 == 0 then .leadingVowel else .leadingVowelTrailing)
  else none

/-- The class of a character. -/
def clusterClass (c : Char) : ClusterClass :=
  let n := c.toNat
  if n = 0x0D then .carriageReturn
  else if n = 0x0A then .lineFeed
  else if n < 0x20 then .control
  else if n < 0x7F then .other
  else if n = 0x200D then .joiner
  else if controlRanges.contains n then .control
  else if extendRanges.contains n then .extend
  else if 0x1F1E6 ≤ n && n ≤ 0x1F1FF then .regional
  else if prependRanges.contains n then .prepend
  else if spacingMarkRanges.contains n then .spacingMark
  else (hangulClass n).getD .other

/-- Whether a character is a pictograph. -/
def isPictograph (c : Char) : Bool :=
  0xA9 ≤ c.toNat && pictographRanges.contains c.toNat

/-- Whether a character is a consonant of an Indic conjunct. -/
def isConjunctConsonant (c : Char) : Bool := conjunctConsonantRanges.contains c.toNat

/-- Whether a character links two consonants. -/
def isConjunctLinker (c : Char) : Bool := conjunctLinkers.contains c.toNat

/-- Whether a mark may stand between a consonant and the linker that follows it. -/
def isConjunctMark (c : Char) : Bool :=
  let k := clusterClass c
  (k == .extend && c.toNat != 0x200C) || k == .joiner

/-- A pictograph and marks end `before`, which lists the nearest character first. -/
def endsWithPictograph (before : List Char) : Bool :=
  match before.dropWhile fun c => clusterClass c == .extend with
  | [] => false
  | c :: _ => isPictograph c

/-- A consonant, and marks of which one is a linker, end `before`. -/
def endsWithLinkedConsonant (before : List Char) : Bool :=
  (before.takeWhile isConjunctMark).any isConjunctLinker &&
    match before.dropWhile isConjunctMark with
    | [] => false
    | c :: _ => isConjunctConsonant c

/-- Whether an even number of regional indicators ends `before`. -/
def endsWithWholeFlags (before : List Char) : Bool :=
  (before.takeWhile fun c => clusterClass c == .regional).length % 2 == 0

/-- Whether a cluster ends between `a` and `b`; `before` holds what stands before `a`, nearest
first. -/
def isBoundary (before : List Char) (a b : Char) : Bool :=
  match clusterClass a, clusterClass b with
  | .carriageReturn, .lineFeed => false
  | .carriageReturn, _ | .lineFeed, _ | .control, _ => true
  | _, .carriageReturn | _, .lineFeed | _, .control => true
  | .leading, .leading | .leading, .vowel | .leading, .leadingVowel
  | .leading, .leadingVowelTrailing => false
  | .leadingVowel, .vowel | .leadingVowel, .trailing | .vowel, .vowel | .vowel, .trailing => false
  | .leadingVowelTrailing, .trailing | .trailing, .trailing => false
  | _, .extend | _, .joiner | _, .spacingMark => false
  | .prepend, _ => false
  | .joiner, _ =>
    !((isPictograph b && endsWithPictograph before) ||
      (isConjunctConsonant b && endsWithLinkedConsonant (a :: before)))
  | .regional, .regional => endsWithWholeFlags before == false
  | _, _ => !(isConjunctConsonant b && endsWithLinkedConsonant (a :: before))

/-- The clusters of a text whose open cluster is `current` (last character first), the text before
it being `before`. -/
def clustersFrom (before current : List Char) : List Char → List (List Char)
  | [] => if current.isEmpty then [] else [current.reverse]
  | b :: rest =>
    match current with
    | [] => clustersFrom before [b] rest
    | a :: open' =>
      if isBoundary (open' ++ before) a b then
        (a :: open').reverse :: clustersFrom (a :: open' ++ before) [b] rest
      else clustersFrom before (b :: a :: open') rest

/-- A text cut at every cluster boundary. -/
def clusters (cs : List Char) : List (List Char) := clustersFrom [] [] cs

end Folio.Unicode
