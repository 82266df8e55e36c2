import Folio.Text.Basic

/-! # Dates

A document is dated by the day in front of its date text: a year, a month and a day with hyphens between
them.  The year may have a sign and has at most four digits without one; numbers need no leading zeros,
and blanks may stand before each of them.  Only the first ten bytes of the text are read, where they end
between two characters. -/

namespace Folio

/-- A day of the calendar. -/
structure Date where
  year : Int
  month : Nat
  day : Nat
deriving DecidableEq, Repr

namespace Date

/-- Whether a year has a leap day. -/
def isLeap (year : Int) : Bool := year % 4 == 0 && (year % 100 != 0 || year % 400 == 0)

/-- The number of days in a month. -/
def daysIn (year : Int) (month : Nat) : Nat :=
  if month = 2 then if isLeap year then 29 else 28
  else if [4, 6, 9, 11].contains month then 30
  else 31

/-- The first and the last year of the calendar. -/
def years : Int × Int := (-262143, 262142)

/-- Whether there is such a day. -/
def exists? (d : Date) : Bool :=
  years.1 ≤ d.year && d.year ≤ years.2 && 1 ≤ d.month && d.month ≤ 12 && 1 ≤ d.day &&
    d.day ≤ daysIn d.year d.month

/-! ### Reading -/

/-- The first bytes of a text, if it has so many and they end between two characters. -/
def firstBytes? : Nat → List Char → Option (List Char)
  | 0, _ => some []
  | _ + 1, [] => none
  | n + 1, c :: cs =>
    if n + 1 < c.utf8Size then none
    else (firstBytes? (n + 1 - c.utf8Size) cs).map (c :: ·)

/-- The number of at most so many digits at the start of a text, and what follows it. -/
def number? (limit : Nat) (cs : List Char) : Option (Nat × List Char) :=
  let digits := (cs.take limit).takeWhile Char.isDigit
  if digits = [] then none
  else some (Nat.ofDigitChars 10 digits 0, cs.drop digits.length)

/-- The year at the start of a text, and what follows it. -/
def year? (cs : List Char) : Option (Int × List Char) :=
  match Text.trimStart cs with
  | '-' :: rest => (number? rest.length rest).map fun (n, rest) => (-(n : Int), rest)
  | '+' :: rest => (number? rest.length rest).map fun (n, rest) => ((n : Int), rest)
  | cs => (number? 4 cs).map fun (n, rest) => ((n : Int), rest)

/-- A hyphen, and after it the number of a month or a day. -/
def part? (cs : List Char) : Option (Nat × List Char) :=
  match cs with
  | '-' :: rest => number? 2 (Text.trimStart rest)
  | _ => none

/-- The day that a text is, if it is one. -/
def ofChars? (cs : List Char) : Option Date := do
  let (year, cs) ← year? cs
  let (month, cs) ← part? cs
  let (day, cs) ← part? cs
  let d : Date := ⟨year, month, day⟩
  if cs = [] ∧ d.exists? then some d else none

/-- The day that a text starts with. -/
def ofText? (s : String) : Option Date :=
  let cs := Text.trim s.toList
  ofChars? ((firstBytes? 10 cs).getD cs)

/-! ### Writing -/

/-- A number with zeros in front of it. -/
def padded (width n : Nat) : String :=
  let digits := Nat.toDigits 10 n
  String.ofList (List.replicate (width - digits.length) '0' ++ digits)

/-- A date with a year of at least four digits; outside of 0 to 9999 it has a sign. -/
def text (d : Date) : String :=
  let sign := if d.year < 0 then "-" else if 9999 < d.year then "+" else ""
  sign ++ padded 4 d.year.natAbs ++ "-" ++ padded 2 d.month ++ "-" ++ padded 2 d.day

end Date

end Folio
