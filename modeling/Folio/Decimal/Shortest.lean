/-! # Shortest decimals

A binary floating-point number is written with the fewest decimal digits that read back as the same
number; of several such decimals the nearest is taken.  The search is exact: a number is an integer
`m` times a power of two, the numbers that round to it form an interval around it, and for one digit,
two digits and so on the two neighbours on the decimal grid are tested against that interval. -/

namespace Folio.Decimal

/-- A power of two. -/
def pow2 (n : Nat) : Nat := Nat.pow 2 n

/-- A power of ten. -/
def pow10 (n : Nat) : Nat := Nat.pow 10 n

/-- The parts of a finite number: its sign, and its value as `mantissa * 2 ^ (exponent - 1075)`. -/
structure Binary where
  negative : Bool
  mantissa : Nat
  exponent : Nat
deriving DecidableEq, Repr

/-- A number without a finite value. -/
inductive Special where
  | nan
  | infinite (negative : Bool)
deriving DecidableEq, Repr

/-- Takes a number apart by its bits. -/
def split (f : Float) : Special ⊕ Binary :=
  let bits := f.toBits.toNat
  let negative := pow2 63 ≤ bits
  let exponent := bits / pow2 52 % pow2 11
  let fraction := bits % pow2 52
  if exponent = 2047 then .inl (if fraction = 0 then .infinite negative else .nan)
  else if exponent = 0 then .inr ⟨negative, fraction, 1⟩
  else .inr ⟨negative, pow2 52 + fraction, exponent⟩

/-- Digits and the power of ten of the last of them. -/
structure Digits where
  digits : Nat
  scale : Int
deriving DecidableEq, Repr

/-- The interval that rounds to a number, and the number itself, as numerators over one
denominator. -/
structure Interval where
  low : Nat
  value : Nat
  high : Nat
  denominator : Nat
  closed : Bool
deriving DecidableEq, Repr

/-- The interval of a number that is not zero. -/
def Binary.interval (b : Binary) : Interval :=
  let up := pow2 (b.exponent - 1075)
  let down := pow2 (1075 - b.exponent)
  let below := if b.mantissa = pow2 52 ∧ 1 < b.exponent then 1 else 2
  { low := (4 * b.mantissa - below) * up
    value := 4 * b.mantissa * up
    high := (4 * b.mantissa + 2) * up
    denominator := 4 * down
    closed := b.mantissa % 2 = 0 }

/-- Whether the decimal `d * 10 ^ scale` lies in an interval. -/
def Interval.contains (i : Interval) (d : Nat) (scale : Int) : Bool :=
  let x := d * i.denominator * pow10 scale.toNat
  let tenth := pow10 (-scale).toNat
  if i.closed then i.low * tenth ≤ x && x ≤ i.high * tenth
  else i.low * tenth < x && x < i.high * tenth

/-- The place of the first digit of `value / denominator` below one, within a number of tries. -/
def leadingBelow (value denominator : Nat) : Nat → Int → Int
  | 0, e => e
  | tries + 1, e =>
    if denominator ≤ value then e else leadingBelow (value * 10) denominator tries (e - 1)

/-- The power of ten of the first digit of an interval's value. -/
def Interval.leading (i : Interval) : Int :=
  let whole := i.value / i.denominator
  if whole = 0 then leadingBelow i.value i.denominator 400 0
  else (Nat.toDigits 10 whole).length - 1

/-- The decimal on the grid of a scale that lies in an interval nearest to its value. -/
def Interval.onGrid (i : Interval) (scale : Int) : Option Nat :=
  let unit := i.denominator * pow10 scale.toNat
  let value := i.value * pow10 (-scale).toNat
  let d := value / unit
  let rest := value % unit
  let below := i.contains d scale
  let above := i.contains (d + 1) scale
  if below && above then some (if 2 * rest < unit || (2 * rest = unit && d % 2 = 0) then d else d + 1)
  else if below then some d
  else if above then some (d + 1)
  else none

/-- The first grid with a decimal in the interval, from `count` digits on. -/
def Interval.search (i : Interval) (leading : Int) : Nat → Nat → Digits
  | 0, _ => ⟨0, 0⟩
  | tries + 1, count =>
    let scale := leading - count + 1
    match i.onGrid scale with
    | some d => ⟨d, scale⟩
    | none => i.search leading tries (count + 1)

/-- Digits without the zeros at their end. -/
def Digits.trim (d : Digits) : Nat → Digits
  | 0 => d
  | tries + 1 =>
    if d.digits ≠ 0 ∧ d.digits % 10 = 0 then Digits.trim ⟨d.digits / 10, d.scale + 1⟩ tries else d

/-- The shortest digits of a finite number. -/
def Binary.shortest (b : Binary) : Digits :=
  if b.mantissa = 0 then ⟨0, 0⟩
  else (b.interval.search b.interval.leading 18 1).trim 20

/-! ### Formats -/

/-- Zeros in a row. -/
def zeros (n : Nat) : String := String.ofList (List.replicate n '0')

/-- Digits written out in full, with at least one place after the point. -/
def Digits.positional (d : Digits) : String :=
  let ds := Nat.toDigits 10 d.digits
  let point := ds.length + d.scale
  if 0 ≤ d.scale then String.ofList ds ++ zeros d.scale.toNat ++ ".0"
  else if 0 < point then
    String.ofList (ds.take point.toNat) ++ "." ++ String.ofList (ds.drop point.toNat)
  else "0." ++ zeros (-point).toNat ++ String.ofList ds

/-- Digits in scientific notation. -/
def Digits.scientific (d : Digits) : String :=
  let ds := Nat.toDigits 10 d.digits
  let exponent := ds.length + d.scale - 1
  let fraction := if ds.length = 1 then "" else "." ++ String.ofList (ds.drop 1)
  String.ofList (ds.take 1) ++ fraction ++ "e" ++ toString exponent

/-- Digits in full while the point falls among the first sixteen places or shortly before them, and in
scientific notation otherwise. -/
def Digits.compact (d : Digits) : String :=
  let point := (Nat.toDigits 10 d.digits).length + d.scale
  if d.digits = 0 ∨ (-5 < point ∧ point ≤ 16) then d.positional else d.scientific

/-- A finite number in the compact format. -/
def Binary.compact (b : Binary) : String :=
  (if b.negative then "-" else "") ++ b.shortest.compact

/-- A finite number written out in full. -/
def Binary.positional (b : Binary) : String :=
  (if b.negative then "-" else "") ++ b.shortest.positional

end Folio.Decimal
