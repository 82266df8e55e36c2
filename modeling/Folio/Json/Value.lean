import Folio.Decimal.Shortest

/-! # JSON

The values that reports and artifacts are written as.  Members of an object keep the order in which
they are listed.  `Json.pretty` writes a value over several lines with two spaces per level;
`Json.compact` writes it on one. -/

namespace Folio

/-- A JSON value. -/
inductive Json where
  | null
  | bool (b : Bool)
  | int (n : Int)
  | float (f : Float)
  | str (s : String)
  | arr (items : List Json)
  | obj (members : List (String × Json))

namespace Json

instance : Inhabited Json := ⟨null⟩

/-- A digit of a number in hexadecimal. -/
def hexDigit (n : Nat) : Char := (Nat.toDigits 16 (n % 16)).head?.getD '0'

/-- A character inside a string. -/
def escapeChar (c : Char) : List Char :=
  let n := c.toNat
  if c = '"' then ['\\', '"']
  else if c = '\\' then ['\\', '\\']
  else if n = 8 then ['\\', 'b']
  else if n = 9 then ['\\', 't']
  else if n = 10 then ['\\', 'n']
  else if n = 12 then ['\\', 'f']
  else if n = 13 then ['\\', 'r']
  else if n < 32 then ['\\', 'u', '0', '0', hexDigit (n / 16), hexDigit n]
  else [c]

/-- A string with its quotes. -/
def quote (s : String) : String :=
  "\"" ++ String.ofList (s.toList.flatMap escapeChar) ++ "\""

/-- A number; what has no finite value is null. -/
def floatText (f : Float) : String :=
  match Decimal.split f with
  | .inl _ => "null"
  | .inr b => b.compact

/-- A text where there is one. -/
def ofOption : Option String → Json
  | some s => .str s
  | none => .null

/-- A number. -/
def nat (n : Nat) : Json := .int n

/-- A list of texts. -/
def strings (xs : List String) : Json := .arr (xs.map .str)

/-- The line break and the blanks in front of an item. -/
def newline (level : Nat) : String :=
  "\n" ++ String.ofList (List.replicate (2 * level) ' ')

mutual

/-- A value over several lines, `level` levels deep. -/
def prettyAt (level : Nat) : Json → String
  | .null => "null"
  | .bool b => if b then "true" else "false"
  | .int n => toString n
  | .float f => floatText f
  | .str s => quote s
  | .arr [] => "[]"
  | .arr (x :: xs) =>
    "[" ++ newline (level + 1) ++ prettyAt (level + 1) x ++ prettyItems (level + 1) xs ++
      newline level ++ "]"
  | .obj [] => "\x7b\x7d"
  | .obj ((k, v) :: ms) =>
    "\x7b" ++ newline (level + 1) ++ quote k ++ ": " ++ prettyAt (level + 1) v ++
      prettyMembers (level + 1) ms ++ newline level ++ "\x7d"

/-- The items after the first one. -/
def prettyItems (level : Nat) : List Json → String
  | [] => ""
  | x :: xs => "," ++ newline level ++ prettyAt level x ++ prettyItems level xs

/-- The members after the first one. -/
def prettyMembers (level : Nat) : List (String × Json) → String
  | [] => ""
  | (k, v) :: ms =>
    "," ++ newline level ++ quote k ++ ": " ++ prettyAt level v ++ prettyMembers level ms

end

/-- A value over several lines. -/
def pretty (j : Json) : String := j.prettyAt 0

mutual

/-- A value on one line. -/
def compact : Json → String
  | .null => "null"
  | .bool b => if b then "true" else "false"
  | .int n => toString n
  | .float f => floatText f
  | .str s => quote s
  | .arr [] => "[]"
  | .arr (x :: xs) => "[" ++ compact x ++ compactItems xs ++ "]"
  | .obj [] => "\x7b\x7d"
  | .obj ((k, v) :: ms) => "\x7b" ++ quote k ++ ":" ++ compact v ++ compactMembers ms ++ "\x7d"

/-- The items after the first one. -/
def compactItems : List Json → String
  | [] => ""
  | x :: xs => "," ++ compact x ++ compactItems xs

/-- The members after the first one. -/
def compactMembers : List (String × Json) → String
  | [] => ""
  | (k, v) :: ms => "," ++ quote k ++ ":" ++ compact v ++ compactMembers ms

end

end Json

end Folio
