import Folio.Markup.Event

/-! # Emphasis

The delimiter runs of one level of prose are paired: a closing run looks for the nearest opening run
of its mark, everything between them becomes the content, and runs that stay alone are text.  A run of
both kinds does not pair with another if their lengths add up to a multiple of three, unless both are
multiples of three. -/

namespace Folio.Markup

/-- A piece of a level of prose: events that are finished, a break, or a delimiter run. -/
inductive Piece where
  | events (es : List Event)
  | hardBreak (backslash : Bool)
  | run (mark : Char) (length : Nat) (opens closes : Bool)
deriving DecidableEq, Repr

/-- An opening run that waits for its other end, with the events after it, the last first.  `left` of
its `length` marks are still unused. -/
structure Opener where
  mark : Char
  length : Nat
  left : Nat
  closes : Bool
  content : List Event
deriving DecidableEq, Repr

/-- Single marks as text. -/
def marksText (mark : Char) (n : Nat) : List Event :=
  List.replicate n (.text (String.singleton mark))

/-- Whether an opening run pairs with a closing run of a mark and a length, which may be both. -/
def Opener.pairs (o : Opener) (mark : Char) (length : Nat) (both : Bool) : Bool :=
  o.mark == mark && (mark != '~' || o.length == length) &&
    ((!both && !o.closes) || (length + o.length) % 3 != 0 || length % 3 == 0)

/-- What marks of one kind make of their content. -/
def wrapped (tag : Tag) (content : List Event) : List Event :=
  .finish tag.closing :: content ++ [.start tag]

/-- Wraps content, both in reverse order, as often as `n` marks say: pairs of marks are strong, and an
odd one outside is emphasis. -/
def wrap (mark : Char) (content : List Event) : Nat → List Event
  | 0 => content
  | 1 => wrapped (if mark == '~' then .strikethrough else .emphasis) content
  | n + 2 => wrap mark (wrapped (if mark == '~' then .strikethrough else .strong) content) n

/-- Puts events behind those of the innermost opener, or of the level itself. -/
def pushEvents (es : List Event) : List Opener → List Event → List Opener × List Event
  | [], base => ([], es ++ base)
  | o :: os, base => ({ o with content := es ++ o.content } :: os, base)

/-- Gives an opener up: its marks are text in front of its content. -/
def Opener.asText (o : Opener) : List Event := o.content ++ marksText o.mark o.left

/-- The innermost opener that pairs with a closing run, the openers inside it as events in reverse
order, and the openers outside it. -/
def findOpener (mark : Char) (length : Nat) (both : Bool) :
    List Opener → Option (List Event × Opener × List Opener)
  | [] => none
  | o :: os =>
    if o.pairs mark length both then some ([], o, os)
    else
      (findOpener mark length both os).map fun (inside, found, rest) =>
        (o.asText ++ inside, found, rest)

/-- Closes with a run of which `count` marks are left, as often as an opener is found; answers what is
left of it. -/
def closeRun (mark : Char) (length : Nat) (both : Bool) :
    Nat → Nat → List Opener → List Event → Nat × List Opener × List Event
  | 0, count, os, base => (count, os, base)
  | _ + 1, 0, os, base => (0, os, base)
  | steps + 1, count, os, base =>
    match findOpener mark length both os with
    | none => (count, os, base)
    | some (inside, o, rest) =>
      let used := min count o.left
      let content := wrap mark (inside ++ o.content) used
      let (os, base) :=
        if used < o.left then ({ o with left := o.left - used, content := content } :: rest, base)
        else pushEvents content rest base
      closeRun mark length both steps (count - used) os base

/-- The events of a level, `os` being its openers and `base` what stands before them, in reverse
order. -/
def pairRuns (os : List Opener) (base : List Event) : List Piece → List Event
  | [] =>
    ((os.foldr (fun o done => o.asText ++ done) base)).reverse
  | piece :: rest =>
    match piece with
    | .events es =>
      let (os, base) := pushEvents es.reverse os base
      pairRuns os base rest
    | .hardBreak backslash =>
      let shown :=
        if rest ≠ [] then [Event.hardBreak] else if backslash then [.text "\\"] else []
      let (os, base) := pushEvents shown os base
      pairRuns os base rest
    | .run mark length opens closes =>
      let (count, os, base) :=
        if closes then closeRun mark length (opens && closes) length length os base
        else (length, os, base)
      if count = 0 then pairRuns os base rest
      else if opens then pairRuns (⟨mark, length, count, closes, []⟩ :: os) base rest
      else
        let (os, base) := pushEvents (marksText mark count) os base
        pairRuns os base rest

/-- The events of a level of prose. -/
def pairEmphasis (pieces : List Piece) : List Event := pairRuns [] [] pieces

end Folio.Markup
