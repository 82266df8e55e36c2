import Folio.Unicode.Whitespace

/-! # Operations on text

Trimming, words, lines and replacement, on lists of characters.  A text of the library is a
`String`; where it is taken apart, this is done on its characters. -/

namespace Folio.Text

open Folio.Unicode

/-- A text without the blanks it starts with. -/
def trimStart (cs : List Char) : List Char := cs.dropWhile isBlank

/-- A text without the blanks it ends with. -/
def trimEnd (cs : List Char) : List Char := (cs.reverse.dropWhile isBlank).reverse

/-- A text without the blanks at both ends. -/
def trim (cs : List Char) : List Char := trimEnd (trimStart cs)

/-- A text without the characters of a class at both ends. -/
def trimMatches (p : Char → Bool) (cs : List Char) : List Char :=
  ((cs.dropWhile p).reverse.dropWhile p).reverse

/-- The pieces of a text between the characters of a class; one more than there are such
characters. -/
def pieces (p : Char → Bool) : List Char → List (List Char)
  | [] => [[]]
  | c :: cs =>
    if p c then [] :: pieces p cs
    else
      match pieces p cs with
      | [] => [[c]]
      | piece :: rest => (c :: piece) :: rest

/-- The words of a text: its pieces between blanks, without the empty ones. -/
def words (cs : List Char) : List (List Char) := (pieces isBlank cs).filter (· ≠ [])

/-- The lines of a text, each with the line feed that ends it. -/
def rawLines : List Char → List (List Char)
  | [] => []
  | c :: cs =>
    if c = '\n' then [c] :: rawLines cs
    else
      match rawLines cs with
      | [] => [[c]]
      | line :: rest => (c :: line) :: rest

/-- A line without the line end it closes with, a carriage return before it included. -/
def dropLineEnd (line : List Char) : List Char :=
  match line.reverse with
  | '\n' :: '\r' :: rest => rest.reverse
  | '\n' :: rest => rest.reverse
  | _ => line

/-- The lines of a text without their line ends. -/
def lines (cs : List Char) : List (List Char) := (rawLines cs).map dropLineEnd

/-- The rest of a text that starts with `pre`. -/
def dropPrefix? : List Char → List Char → Option (List Char)
  | [], cs => some cs
  | _ :: _, [] => none
  | p :: ps, c :: cs => if p = c then dropPrefix? ps cs else none

/-- Replaces every occurrence of a text, from the left and without overlap; `skip` characters of
an occurrence are still to be passed over. -/
def replaceFrom (pat new : List Char) : Nat → List Char → List Char
  | _, [] => []
  | skip + 1, _ :: cs => replaceFrom pat new skip cs
  | 0, c :: cs =>
    if pat.isPrefixOf (c :: cs) then new ++ replaceFrom pat new (pat.length - 1) cs
    else c :: replaceFrom pat new 0 cs

/-- Replaces every occurrence of a text that is not empty. -/
def replaceAll (pat new cs : List Char) : List Char := replaceFrom pat new 0 cs

/-- Whether two texts agree up to the case of ASCII letters. -/
def eqIgnoringCase (a b : List Char) : Bool := a.map Char.toLower == b.map Char.toLower

/-- The value of a hexadecimal digit. -/
def hexValue? (c : Char) : Option Nat :=
  if c.isDigit then some (c.toNat - '0'.toNat)
  else if 'a' ≤ c ∧ c ≤ 'f' then some (c.toNat - 'a'.toNat + 10)
  else if 'A' ≤ c ∧ c ≤ 'F' then some (c.toNat - 'A'.toNat + 10)
  else none

/-- The number that hexadecimal digits write. -/
def hexNumber? (digits : List Char) : Option Nat :=
  digits.foldlM (fun n d => (hexValue? d).map fun v => n * 16 + v) 0

/-- Texts joined with a separator between them. -/
def joinWith (sep : List Char) : List (List Char) → List Char
  | [] => []
  | [a] => a
  | a :: b :: rest => a ++ sep ++ joinWith sep (b :: rest)

end Folio.Text
