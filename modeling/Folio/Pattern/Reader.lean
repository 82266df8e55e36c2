import Folio.Pattern.Basic
import Folio.Text.Basic

/-! # Reading patterns

The notation of patterns: alternatives, groups, repetition, sets in brackets with their operations, escapes,
edges and flags (`Pattern.ofString?`).  Sets of characters by property (`\p`) are not part of it, and neither
are references back to a group or conditions on the text around a match. -/

namespace Folio.Pattern

/-- What flags turn on. -/
structure Flags where
  anyCase : Bool := false
  manyLines : Bool := false
  dotAll : Bool := false
  spaced : Bool := false
  unicode : Bool := true
deriving DecidableEq, Repr

/-- A set with the case of letters left open, if the flags ask for it. -/
def Flags.fold (f : Flags) (s : CharSet) : CharSet := if f.anyCase then .anyCase s else s

/-- The ranges of a named ASCII set. -/
def asciiSet? (name : String) : Option CharSet :=
  let lower := [('a', 'z')]
  let upper := [('A', 'Z')]
  let digit := [('0', '9')]
  let control := [(Char.ofNat 0, Char.ofNat 0x1F), (Char.ofNat 0x7F, Char.ofNat 0x7F)]
  let blanks := [(Char.ofNat 9, Char.ofNat 13), (' ', ' ')]
  let set (rs : List (Char × Char)) : Option CharSet := some (.ofRanges rs)
  match name with
  | "alnum" => set (lower ++ upper ++ digit)
  | "alpha" => set (lower ++ upper)
  | "ascii" => set [(Char.ofNat 0, Char.ofNat 0x7F)]
  | "blank" => set [('\t', '\t'), (' ', ' ')]
  | "cntrl" => set control
  | "digit" => set digit
  | "graph" => set [('!', '~')]
  | "lower" => set lower
  | "print" => set [(' ', '~')]
  | "punct" => set [('!', '/'), (':', '@'), ('[', '\x60'), ('\x7b', '~')]
  | "space" => set blanks
  | "upper" => set upper
  | "word" => set (lower ++ upper ++ digit ++ [('_', '_')])
  | "xdigit" => set (digit ++ [('a', 'f'), ('A', 'F')])
  | _ => none

/-- The set that a letter after a backslash stands for. -/
def shortSet? (unicode : Bool) (c : Char) : Option CharSet :=
  let ascii (name : String) : CharSet := (asciiSet? name).getD .none
  match c with
  | 'd' => some (if unicode then .digit else ascii "digit")
  | 's' => some (if unicode then .blank else ascii "space")
  | 'w' => some (if unicode then .word else ascii "word")
  | 'D' => some (.complement (if unicode then .digit else ascii "digit"))
  | 'S' => some (.complement (if unicode then .blank else ascii "space"))
  | 'W' => some (.complement (if unicode then .word else ascii "word"))
  | _ => none

/-! ### Characters -/

/-- The character of a number, if there is one. -/
def charOf? (n : Nat) : Option Char :=
  if n < 0xD800 ∨ (0xDFFF < n ∧ n ≤ 0x10FFFF) then some (Char.ofNat n) else none

/-- The character that hexadecimal digits write, so many of them or any number in braces. -/
def hexChar? (count : Nat) : List Char → Option (Char × List Char)
  | '\x7b' :: rest =>
    let digits := rest.takeWhile (· != '\x7d')
    if digits = [] ∨ digits.length = rest.length then none
    else do
      let c ← charOf? (← Text.hexNumber? digits)
      some (c, rest.drop (digits.length + 1))
  | cs =>
    let digits := cs.take count
    if digits.length < count then none
    else do
      let c ← charOf? (← Text.hexNumber? digits)
      some (c, cs.drop count)

/-- The character that an escape stands for, given what follows the backslash. -/
def escapedChar? : List Char → Option (Char × List Char)
  | [] => none
  | c :: rest =>
    match c with
    | 'x' => hexChar? 2 rest
    | 'u' => hexChar? 4 rest
    | 'U' => hexChar? 8 rest
    | 'a' => some (Char.ofNat 7, rest)
    | 'f' => some (Char.ofNat 12, rest)
    | 't' => some ('\t', rest)
    | 'n' => some ('\n', rest)
    | 'r' => some ('\r', rest)
    | 'v' => some (Char.ofNat 11, rest)
    | _ =>
      if c.toNat < 0x80 && !c.isAlphanum && c != '<' && c != '>' then some (c, rest) else none

/-- The edge that a letter after a backslash stands for. -/
def escapedEdge? : Char → Option Edge
  | 'A' => some .textStart
  | 'z' => some .textEnd
  | 'b' => some .word
  | 'B' => some .noWord
  | '<' => some .wordStart
  | '>' => some .wordEnd
  | _ => none

/-- Passes over blanks and comments where the flags say that they mean nothing. -/
def skipBlanks (f : Flags) : Bool → List Char → List Char
  | _, [] => []
  | comment, c :: cs =>
    if !f.spaced then c :: cs
    else if comment then skipBlanks f (c != '\n') cs
    else if c == '#' then skipBlanks f true cs
    else if Unicode.isBlank c then skipBlanks f false cs
    else c :: cs

/-- Passes over blanks and comments. -/
def skip (f : Flags) (cs : List Char) : List Char := skipBlanks f false cs

/-! ### Sets in brackets -/

/-- An operation between two sets. -/
inductive SetOp where
  | inter
  | without
  | apart
deriving DecidableEq, Repr

/-- The set that an operation gives. -/
def SetOp.apply : SetOp → CharSet → CharSet → CharSet
  | .inter, s, t => .inter s t
  | .without, s, t => s.without t
  | .apart, s, t => .union (s.without t) (t.without s)

/-- The operation at a place. -/
def setOp? : List Char → Option (SetOp × List Char)
  | '&' :: '&' :: rest => some (.inter, rest)
  | '-' :: '-' :: rest => some (.without, rest)
  | '~' :: '~' :: rest => some (.apart, rest)
  | _ => none

/-- The named set at a place, whose opening bracket has been passed. -/
def namedSet? (cs : List Char) : Option (CharSet × List Char) :=
  match cs with
  | ':' :: rest =>
    let negated := rest.head? == some '^'
    let rest := if negated then rest.tail else rest
    let name := rest.takeWhile (·.isAlpha)
    match rest.drop name.length with
    | ':' :: ']' :: after =>
      (asciiSet? (String.ofList name)).map fun s => (if negated then .complement s else s, after)
    | _ => none
  | _ => none

/-- One member of a set: a character, or a set of its own. -/
def setMember? (f : Flags) (cs : List Char) : Option ((Char ⊕ CharSet) × List Char) :=
  match cs with
  | [] => none
  | '\\' :: c :: rest =>
    match shortSet? f.unicode c with
    | some s => some (.inr s, rest)
    | none => (escapedChar? (c :: rest)).map fun (c, rest) => (.inl c, rest)
  | c :: rest => if c == '\\' then none else some (.inl c, rest)

/-- A member of a set or a range of characters. -/
def setRange? (f : Flags) (cs : List Char) : Option (CharSet × List Char) := do
  let (first, rest) ← setMember? f cs
  let alone : CharSet :=
    match first with
    | .inl c => .single c
    | .inr s => s
  match skip f rest with
  | [] => none
  | '-' :: more =>
    let next := (skip f more).head?
    if next == some ']' || next == some '-' then some (alone, rest)
    else do
      let (last, rest) ← setMember? f (skip f more)
      match first, last with
      | .inl a, .inl b => if a ≤ b then some (.range a b, rest) else none
      | _, _ => none
  | _ => some (alone, rest)

/-- The hyphens that a set starts with, or else a closing bracket, which stand for themselves there. -/
def leading : List Char → List Char × List Char
  | ']' :: rest => (['\x5d'], rest)
  | cs =>
    let hyphens := cs.takeWhile (· == '-')
    let rest := cs.drop hyphens.length
    (hyphens, rest)

mutual

/-- The set whose opening bracket has been passed. -/
def set? (f : Flags) : Nat → List Char → Option (CharSet × List Char)
  | 0, _ => none
  | steps + 1, cs => do
    let cs := skip f cs
    let negated := cs.head? == some '^'
    let cs := if negated then skip f cs.tail else cs
    let (plain, cs) := leading cs
    let (s, rest) ← setItems? f steps none (CharSet.unionAll (plain.map .single)) cs
    some (if negated then .complement (f.fold s) else f.fold s, rest)

/-- The members of a set up to its closing bracket, after those that have been read; `left` is what
stands before the last operation. -/
def setItems? (f : Flags) :
    Nat → Option (SetOp × CharSet) → CharSet → List Char → Option (CharSet × List Char)
  | 0, _, _, _ => none
  | steps + 1, left, s, cs =>
    let total : CharSet :=
      match left with
      | some (op, t) => op.apply t s
      | none => s
    match skip f cs with
    | [] => none
    | ']' :: rest => some (total, rest)
    | '[' :: rest =>
      match namedSet? rest with
      | some (t, rest) => setItems? f steps left (.union s t) rest
      | none => do
        let (t, rest) ← set? f steps rest
        setItems? f steps left (.union s t) rest
    | cs =>
      match setOp? cs with
      | some (op, rest) => setItems? f steps (some (op, total)) .none rest
      | none => do
        let (t, rest) ← setRange? f cs
        setItems? f steps left (.union s t) rest

end

/-! ### Groups and repetition -/

/-- Turns one flag on or off. -/
def Flags.set? (f : Flags) (on : Bool) : Char → Option Flags
  | 'i' => some { f with anyCase := on }
  | 'm' => some { f with manyLines := on }
  | 's' => some { f with dotAll := on }
  | 'x' => some { f with spaced := on }
  | 'u' => some { f with unicode := on }
  | 'U' | 'R' => some f
  | _ => none

/-- Reads flags up to a colon or a closing bracket; after a hyphen they are turned off. -/
def flags? (on : Bool) (f : Flags) : List Char → Option (Flags × List Char)
  | [] => none
  | c :: cs =>
    if c == ':' || c == ')' then some (f, c :: cs)
    else if c == '-' then if on then flags? false f cs else none
    else do
      let f ← f.set? on c
      flags? on f cs

/-- What follows the name of a group, up to its closing angle bracket. -/
def afterGroupName? (cs : List Char) : Option (List Char) :=
  let name := cs.takeWhile (· != '>')
  let first := name.head?.any fun c => c == '_' || c.isAlpha
  let valid := name.all fun c => c == '_' || c == '.' || c == '[' || c == ']' || Unicode.isWord c
  if first && valid && name.length < cs.length then some (cs.drop (name.length + 1)) else none

/-- How a group begins: with flags for the rest of the group around it, or with its own flags. -/
inductive GroupStart where
  | flagsOnly (f : Flags) (rest : List Char)
  | group (f : Flags) (rest : List Char)

/-- The start of a group whose opening bracket has been passed. -/
def groupStart? (f : Flags) (cs : List Char) : Option GroupStart :=
  match cs with
  | '?' :: 'P' :: '<' :: rest => (afterGroupName? rest).map (.group f)
  | '?' :: '<' :: rest => (afterGroupName? rest).map (.group f)
  | '?' :: rest =>
    match flags? true f rest with
    | some (f, ':' :: rest) => some (.group f rest)
    | some (g, ')' :: after) => if rest.head? == some ')' then none else some (.flagsOnly g after)
    | _ => none
  | _ => some (.group f cs)

/-- A decimal number at a place. -/
def decimal? (f : Flags) (cs : List Char) : Option (Nat × List Char) :=
  let cs := skip f cs
  let digits := cs.takeWhile Char.isDigit
  if digits = [] ∨ 9 < digits.length then none
  else some (Nat.ofDigitChars 10 digits 0, skip f (cs.drop digits.length))

/-- The bounds of a repetition in braces, the first of which has been passed. -/
def bounds? (f : Flags) (cs : List Char) : Option ((Nat × Option Nat) × List Char) := do
  let (least, rest) ← decimal? f cs
  match rest with
  | '\x7d' :: rest => some ((least, some least), rest)
  | ',' :: rest =>
    match skip f rest with
    | '\x7d' :: rest => some ((least, none), rest)
    | rest => do
      let (most, rest) ← decimal? f rest
      match rest with
      | '\x7d' :: rest => if least ≤ most then some ((least, some most), rest) else none
      | _ => none
  | _ => none

/-- The bounds of the repetition at a place, and what follows them; the outer option tells whether there
is one. -/
def repetition? (f : Flags) : List Char → Option (Option ((Nat × Option Nat) × List Char))
  | '*' :: rest => some (some ((0, none), rest))
  | '+' :: rest => some (some ((1, none), rest))
  | '?' :: rest => some (some ((0, some 1), rest))
  | '\x7b' :: rest => some (bounds? f rest)
  | _ => none

/-- The pattern of one character that stands for itself, or of a dot or an edge. -/
def atom (f : Flags) (c : Char) : Pattern :=
  if c == '.' then .char (if f.dotAll then .all else .complement (.single '\n'))
  else if c == '^' then .edge (if f.manyLines then .lineStart else .textStart)
  else if c == '$' then .edge (if f.manyLines then .lineEnd else .textEnd)
  else .char (f.fold (.single c))

/-- The pattern of an escape, given what follows the backslash. -/
def escaped? (f : Flags) (cs : List Char) : Option (Pattern × List Char) :=
  match cs with
  | [] => none
  | c :: rest =>
    match shortSet? f.unicode c, escapedEdge? c with
    | some s, _ => some (.char s, rest)
    | none, some e => some (.edge e, rest)
    | none, none => (escapedChar? cs).map fun (c, rest) => (.char (f.fold (.single c)), rest)

/-- The alternatives that are complete, and the parts of the last one with the latest first; a part may be
a change of flags, which cannot be repeated. -/
structure Parts where
  done : List Pattern := []
  current : List (Option Pattern) := []

namespace Parts

/-- The pattern of the last alternative. -/
def last (ps : Parts) : Pattern := seqAll (ps.current.reverse.filterMap id)

/-- The pattern of all alternatives. -/
def pattern (ps : Parts) : Pattern := altAll (ps.last :: ps.done).reverse

/-- Adds a part. -/
def add (ps : Parts) (p : Pattern) : Parts := { ps with current := some p :: ps.current }

/-- Begins another alternative. -/
def branch (ps : Parts) : Parts := ⟨ps.last :: ps.done, []⟩

end Parts

/-- Reads a pattern up to the end or a closing bracket. -/
def parts? : Nat → Flags → Parts → List Char → Option (Pattern × List Char)
  | 0, _, _, _ => none
  | steps + 1, f, ps, cs =>
    let cs := skip f cs
    match repetition? f cs with
    | some none => none
    | some (some ((least, most), rest)) =>
      match ps.current with
      | some p :: before =>
        let rest := if rest.head? == some '?' then rest.tail else rest
        parts? steps f { ps with current := some (p.repeated least most) :: before } rest
      | _ => none
    | none =>
      match cs with
      | [] => some (ps.pattern, [])
      | ')' :: rest => some (ps.pattern, ')' :: rest)
      | '|' :: rest => parts? steps f ps.branch rest
      | '(' :: rest =>
        match groupStart? f rest with
        | none => none
        | some (.flagsOnly g rest) => parts? steps g { ps with current := none :: ps.current } rest
        | some (.group g rest) => do
          let (p, rest) ← parts? steps g {} rest
          match rest with
          | ')' :: rest => parts? steps f (ps.add p) rest
          | _ => none
      | '[' :: rest => do
        let (s, rest) ← set? f steps rest
        parts? steps f (ps.add (.char s)) rest
      | '\\' :: rest => do
        let (p, rest) ← escaped? f rest
        parts? steps f (ps.add p) rest
      | c :: rest => parts? steps f (ps.add (atom f c)) rest

/-- The pattern that a text writes, if it is one. -/
def ofString? (s : String) : Option Pattern :=
  let cs := s.toList
  match parts? (2 * cs.length + 2) {} {} cs with
  | some (p, []) => some p
  | _ => none

end Folio.Pattern
