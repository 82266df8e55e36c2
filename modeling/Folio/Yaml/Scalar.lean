import Folio.Decimal.Shortest
import Folio.Yaml.Node

/-! # What scalars mean

A plain scalar without a tag is null, a truth value, a number or a text, the first of these that it can
be read as.  Integers may have a sign and may be written in base 16, 8 or 2 after `0x`, `0o` or `0b`;
digits after a leading zero are a text.  Integers have 64 bits: one that needs up to 128 is refused, and a
longer one is a floating-point number. -/

namespace Folio.Yaml

/-- Whether a text is one of the words for null. -/
def isNullWord (s : String) : Bool := ["null", "Null", "NULL", "~"].contains s

/-- The truth value that a text writes. -/
def bool? (s : String) : Option Bool :=
  if ["true", "True", "TRUE"].contains s then some true
  else if ["false", "False", "FALSE"].contains s then some false
  else none

/-! ### Integers -/

/-- The value of a digit in a base of at most 16. -/
def digit? (base : Nat) (c : Char) : Option Nat := do
  let n ← Text.hexValue? c
  if n < base then some n else none

/-- The number that digits write. -/
def number? (base : Nat) (cs : List Char) : Option Nat :=
  if cs = [] then none
  else cs.foldlM (fun n c => (digit? base c).map fun d => n * base + d) 0

/-- Whether digits follow a zero, after a sign or without one. -/
def hasLeadingZero (cs : List Char) : Bool :=
  let cs :=
    match cs with
    | '-' :: rest | '+' :: rest => rest
    | _ => cs
  match cs with
  | '0' :: d :: rest => (d :: rest).all Char.isDigit
  | _ => false

/-- The number that digits write after the mark of a base. -/
def based? : List Char → Option Nat
  | '0' :: 'x' :: rest => number? 16 rest
  | '0' :: 'o' :: rest => number? 8 rest
  | '0' :: 'b' :: rest => number? 2 rest
  | _ => none

/-- The integer that a text writes. -/
def integer? (cs : List Char) : Option Int :=
  let magnitude (digits : List Char) : Option Nat :=
    match based? digits with
    | some n => some n
    | none => if hasLeadingZero cs then none else number? 10 digits
  match cs with
  | '-' :: rest => (magnitude rest).map fun n => -(n : Int)
  | '+' :: rest => (magnitude rest).map fun n => (n : Int)
  | _ => (magnitude cs).map fun n => (n : Int)

/-- How an integer is held. -/
inductive Width where
  | word
  | double
  | longer
deriving DecidableEq, Repr

/-- The width that an integer needs; a negative one has a sign bit. -/
def width (n : Int) : Width :=
  let fits (bits : Nat) : Bool :=
    -Int.ofNat (Decimal.pow2 (bits - 1)) ≤ n && n < Int.ofNat (Decimal.pow2 bits)
  if fits 64 then .word else if fits 128 then .double else .longer

/-! ### Floating-point numbers -/

/-- Digits, a point with digits after it, and an exponent. -/
structure DecimalText where
  whole : List Char
  fraction : List Char
  exponent : Int
deriving DecidableEq, Repr

/-- The exponent that a text writes after its letter. -/
def exponent? (cs : List Char) : Option Int :=
  match cs with
  | '-' :: rest => (number? 10 rest).map fun n => -(n : Int)
  | '+' :: rest => (number? 10 rest).map fun n => (n : Int)
  | _ => (number? 10 cs).map fun n => (n : Int)

/-- Takes a decimal without a sign apart; there is a digit before or after the point. -/
def decimalText? (cs : List Char) : Option DecimalText := do
  let whole := cs.takeWhile Char.isDigit
  let cs := cs.dropWhile Char.isDigit
  let (fraction, cs) :=
    match cs with
    | '.' :: rest => (rest.takeWhile Char.isDigit, rest.dropWhile Char.isDigit)
    | _ => ([], cs)
  if whole = [] ∧ fraction = [] then none
  match cs with
  | [] => some ⟨whole, fraction, 0⟩
  | 'e' :: rest | 'E' :: rest => (exponent? rest).map fun e => ⟨whole, fraction, e⟩
  | _ => none

/-- The number nearest to a decimal, if it is finite.  The exponent is looked at first, so that no
power of ten beyond the range of numbers is computed. -/
def DecimalText.value? (d : DecimalText) : Option Float :=
  let digits := (d.whole ++ d.fraction).dropWhile (· == '0')
  let mantissa := (number? 10 digits).getD 0
  let scale := d.exponent - d.fraction.length
  let magnitude := digits.length + scale
  if mantissa = 0 ∨ magnitude < -400 then some 0
  else if 400 < magnitude then none
  else
    let f := Float.ofScientific mantissa (scale < 0) scale.natAbs
    if f.isFinite then some f else none

/-- The finite number that a text writes. -/
def finite? (cs : List Char) : Option Float :=
  match cs with
  | '-' :: rest => (decimalText? rest).bind fun d => d.value?.map fun f => -f
  | _ => (decimalText? cs).bind DecimalText.value?

/-- The number that a text writes, infinities and the undefined number included. -/
def float? (cs : List Char) : Option Float :=
  let positive : Option (List Char) :=
    match cs with
    | '+' :: '+' :: _ | '+' :: '-' :: _ => none
    | '+' :: rest => some rest
    | _ => some cs
  let infinity : Float := 1 / 0
  positive.bind fun rest =>
    if [".inf", ".Inf", ".INF"].contains (String.ofList rest) then some infinity
    else if ["-.inf", "-.Inf", "-.INF"].contains (String.ofList cs) then some (-infinity)
    else if [".nan", ".NaN", ".NAN"].contains (String.ofList cs) then some (0 / 0)
    else finite? rest

/-! ### Meanings -/

/-- What a scalar means. -/
inductive Meaning where
  | null
  | bool (b : Bool)
  | int (n : Int)
  | float (f : Float)
  | text (s : String)

/-- What a plain scalar means, unless it is an integer that is refused. -/
def Meaning.ofPlain? (s : String) : Option Meaning :=
  let cs := s.toList
  let float : Meaning :=
    if hasLeadingZero cs then .text s
    else
      match float? cs with
      | some f => .float f
      | none => .text s
  if s = "" || isNullWord s then some .null
  else
    match bool? s, integer? cs with
    | some b, _ => some (.bool b)
    | none, none => some float
    | none, some n =>
      match width n with
      | .word => some (.int n)
      | .double => none
      | .longer => some float

/-- The tag of a kind of scalar. -/
def coreTag (name : String) : String := "tag:yaml.org,2002:" ++ name

/-- What a scalar with a tag of its own kind has to be. -/
def Meaning.ofTagged? (tag : String) (style : Style) (s : String) : Option Meaning :=
  let cs := s.toList
  if tag = coreTag "bool" then (bool? s).map .bool
  else if tag = coreTag "int" then
    match (integer? cs).map fun n => (n, width n) with
    | some (n, .word) => some (.int n)
    | _ => none
  else if tag = coreTag "float" then (float? cs).map .float
  else if tag = coreTag "null" then if isNullWord s then some .null else none
  else if tag.toList.head? = some '!' && style == .plain then ofPlain? s
  else some (.text s)

/-- What a scalar means; without a tag only a plain one is looked at. -/
def Meaning.ofScalar? (tag : Option String) (style : Style) (s : String) : Option Meaning :=
  match tag with
  | some tag => ofTagged? tag style s
  | none => if style = .plain then ofPlain? s else some (.text s)

end Folio.Yaml
