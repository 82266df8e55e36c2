import Folio.Unicode.Lowercase
import Folio.Unicode.Whitespace
import Folio.Unicode.Word

/-! # Patterns

A pattern describes texts, and `Pattern.occursIn` tells whether some part of a text is one of them.  The
search goes through the pattern once: `Pattern.ends` gives the places at which the pattern can end when
it begins at one of some places, so no choice is ever taken back. -/

namespace Folio

/-! ### Sets of characters -/

/-- A set of characters. -/
inductive CharSet where
  | range (first last : Char)
  | digit
  | word
  | blank
  | complement (s : CharSet)
  | union (s t : CharSet)
  | inter (s t : CharSet)
  | anyCase (s : CharSet)
deriving DecidableEq, Repr

/-- The characters that differ from a character in case alone, itself included. -/
def caseVariants (c : Char) : List Char :=
  let lower := (Unicode.lowerChar c).headD c
  let n := lower.toNat
  let upper := Unicode.lowerRuns.filterMap fun r =>
    let m := ((n : Int) - r.shift).toNat
    if r.first ≤ m && m ≤ r.last && (m - r.first) % r.step == 0 then some (Char.ofNat m) else none
  c :: lower :: lower.toUpper :: upper

namespace CharSet

/-- Whether a character is in a set. -/
def contains : CharSet → Char → Bool
  | range first last, c => first ≤ c && c ≤ last
  | digit, c => Unicode.isDigit c
  | word, c => Unicode.isWord c
  | blank, c => Unicode.isBlank c
  | complement s, c => !s.contains c
  | union s t, c => s.contains c || t.contains c
  | inter s t, c => s.contains c && t.contains c
  | anyCase s, c => (caseVariants c).any s.contains

/-- The set of one character. -/
def single (c : Char) : CharSet := range c c

/-- The set of all characters. -/
def all : CharSet := range (Char.ofNat 0) (Char.ofNat 0x10FFFF)

/-- The empty set. -/
def none : CharSet := complement all

/-- The characters of one set that are not in another. -/
def without (s t : CharSet) : CharSet := inter s (complement t)

/-- The union of some sets. -/
def unionAll (ss : List CharSet) : CharSet := ss.foldr union none

/-- The set of some ranges. -/
def ofRanges (rs : List (Char × Char)) : CharSet := unionAll (rs.map fun r => range r.1 r.2)

end CharSet

/-! ### Patterns -/

/-- A condition on a place in a text. -/
inductive Edge where
  | textStart
  | textEnd
  | lineStart
  | lineEnd
  | word
  | noWord
  | wordStart
  | wordEnd
deriving DecidableEq, Repr

/-- A pattern. -/
inductive Pattern where
  | empty
  | char (s : CharSet)
  | edge (e : Edge)
  | seq (p q : Pattern)
  | alt (p q : Pattern)
  | many (p : Pattern)
deriving DecidableEq, Repr

/-- Whether a condition holds at a place. -/
def Edge.holdsAt (text : Array Char) (e : Edge) (i : Nat) : Bool :=
  let before := if i = 0 then none else text[i - 1]?
  let after := text[i]?
  let wordBefore := before.any Unicode.isWord
  let wordAfter := after.any Unicode.isWord
  match e with
  | .textStart => i == 0
  | .textEnd => i == text.size
  | .lineStart => before.all (· == '\n')
  | .lineEnd => after.all (· == '\n')
  | .word => wordBefore != wordAfter
  | .noWord => wordBefore == wordAfter
  | .wordStart => !wordBefore && wordAfter
  | .wordEnd => wordBefore && !wordAfter

namespace Pattern

/-- Adds the places of a list that are not in another yet. -/
def merge (known new : List Nat) : List Nat :=
  new.foldl (fun acc i => if acc.contains i then acc else i :: acc) known

/-- The places that a step leads to when it is taken again and again, at most so many times. -/
def closure (step : List Nat → List Nat) : Nat → List Nat → List Nat
  | 0, known => known
  | times + 1, known => closure step times (merge known (step known))

/-- Where a pattern can end when it begins at one of some places. -/
def ends (text : Array Char) : Pattern → List Nat → List Nat
  | empty, starts => starts
  | char s, starts =>
    starts.filterMap fun i => text[i]?.bind fun c => if s.contains c then some (i + 1) else none
  | edge e, starts => starts.filter (e.holdsAt text)
  | seq p q, starts => q.ends text (p.ends text starts)
  | alt p q, starts => merge (p.ends text starts) (q.ends text starts)
  | many p, starts => closure (p.ends text) (text.size + 1) starts

/-- Whether a pattern describes some part of a text. -/
def occursIn (p : Pattern) (s : String) : Bool :=
  let text := s.toList.toArray
  !(p.ends text (List.range (text.size + 1))).isEmpty

/-- A pattern so many times in a row. -/
def times (p : Pattern) : Nat → Pattern
  | 0 => empty
  | n + 1 => seq p (p.times n)

/-- A pattern at most so many times in a row. -/
def upTo (p : Pattern) : Nat → Pattern
  | 0 => empty
  | n + 1 => alt empty (seq p (p.upTo n))

/-- A pattern at least so many times, and at most so many if there is a bound. -/
def repeated (p : Pattern) (least : Nat) (most : Option Nat) : Pattern :=
  match most with
  | none => seq (p.times least) (many p)
  | some most => seq (p.times least) (p.upTo (most - least))

/-- Patterns one after the other. -/
def seqAll (ps : List Pattern) : Pattern := ps.foldr seq empty

/-- One of some patterns. -/
def altAll : List Pattern → Pattern
  | [] => empty
  | [p] => p
  | p :: ps => alt p (altAll ps)

end Pattern

end Folio
