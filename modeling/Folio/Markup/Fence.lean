import Folio.Markup.Event
import Folio.Text.Basic

/-! # Summary and brief fences

Two kinds of fenced blocks are no code.  The lines of a `summary` fence are taken out of the document;
the body of a `tldr` fence is read as markdown and set as a quotation.  What remains is counted by its
top-level blocks. -/

namespace Folio.Markup

/-- The fences that are no code. -/
inductive FenceUse where
  | summary
  | brief
deriving DecidableEq, Repr

/-- What the information string of a fence makes of it. -/
def fenceUse? (info : String) : Option FenceUse :=
  match Text.words info.toList with
  | [] => none
  | lang :: _ =>
    if Text.eqIgnoringCase lang "summary".toList then some .summary
    else if Text.eqIgnoringCase lang "tldr".toList then some .brief
    else none

/-- The use of the fence that an event opens. -/
def openedFence? : Event → Option FenceUse
  | .start (.codeBlock (.fenced info)) => fenceUse? info
  | _ => none

/-- A document without its special fences. -/
structure Unfenced where
  events : List Event := []
  summary : List String := []
  blockCount : Nat := 0

namespace Unfenced

/-- Puts events in front. -/
def emit (events : List Event) (e : Unfenced) : Unfenced := { e with events := events ++ e.events }

/-- Puts summary lines in front. -/
def summarize (lines : List String) (e : Unfenced) : Unfenced :=
  { e with summary := lines ++ e.summary }

/-- Counts blocks. -/
def count (n : Nat) (e : Unfenced) : Unfenced := { e with blockCount := n + e.blockCount }

end Unfenced

/-- The body of a brief as a quotation. -/
def briefEvents (parse : String → List Event) (body : String) : List Event :=
  .html "<blockquote class=\"tldr\">\n" :: parse body ++ [.html "</blockquote>\n"]

/-- The depth after an event, and how many top-level blocks it begins. -/
def depthStep (depth : Nat) : Event → Nat × Nat
  | .start _ => (depth + 1, if depth = 0 then 1 else 0)
  | .finish _ => (depth - 1, 0)
  | .rule => (depth, if depth = 0 then 1 else 0)
  | _ => (depth, 0)

/-- Takes the special fences out, `capture` being the fence whose body is read. -/
def takeFrom (parse : String → List Event) (depth : Nat) (capture : Option (FenceUse × String)) :
    List Event → Unfenced
  | [] => {}
  | event :: rest =>
    match capture with
    | some (use, body) =>
      match event with
      | .text s => takeFrom parse depth (some (use, body ++ s)) rest
      | .finish .codeBlock =>
        match use with
        | .summary =>
          (takeFrom parse depth none rest).summarize
            ((Text.lines body.toList).map String.ofList)
        | .brief => (takeFrom parse depth none rest).emit (briefEvents parse body)
      | _ => takeFrom parse depth (some (use, body)) rest
    | none =>
      match openedFence? event with
      | some use =>
        (takeFrom parse depth (some (use, "")) rest).count
          (if use = .brief ∧ depth = 0 then 1 else 0)
      | none =>
        let (depth', blocks) := depthStep depth event
        ((takeFrom parse depth' none rest).emit [event]).count blocks

/-- A document without its special fences; `parse` reads the body of a brief. -/
def takeFences (parse : String → List Event) (events : List Event) : Unfenced :=
  takeFrom parse 0 none events

end Folio.Markup
