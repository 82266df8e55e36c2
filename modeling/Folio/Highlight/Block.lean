import Folio.Markup.Event
import Folio.Text.Basic
import Folio.Text.Html

/-! # Highlighted code blocks

A fenced block in a known language gives way to one piece of HTML; everything else passes through
(`Highlighter.highlight`).  What is known, and how it is written, is up to a `Highlighter`. -/

namespace Folio.Highlight

open Folio.Markup

/-- Finds the writer of a language; a writer gives the inner HTML of a text, or fails on it. -/
structure Highlighter where
  find? : String → Option (String → Option String)

/-- Whether a character may stand in the class of a language. -/
def isLanguageChar (c : Char) : Bool :=
  c.isAlphanum || c == '-' || c == '_' || c == '+' || c == '#'

/-- The language of a fence: the first word of its information string, reduced to the characters that
are safe in a class. -/
def infoLanguage? (info : String) : Option String :=
  match Text.words info.toList with
  | [] => none
  | word :: _ =>
    let lang := word.filter isLanguageChar
    if lang.isEmpty then none else some (String.ofList lang)

/-- A fenced block in a known language, whose events are held back, the last first. -/
structure Pending where
  language : String
  write : String → Option String
  code : String := ""
  held : List Event

/-- The block that an event opens, if its language is known. -/
def Highlighter.opened? (h : Highlighter) (event : Event) : Option Pending :=
  match event with
  | .start (.codeBlock (.fenced info)) =>
    match infoLanguage? info with
    | none => none
    | some language => (h.find? language).map fun write => ⟨language, write, "", [event]⟩
  | _ => none

/-- The HTML of a code block. -/
def codeHtml (language inner : String) : String :=
  "<pre><code class=\"language-" ++ Text.escapeHtml language ++ "\">" ++ inner ++ "</code></pre>\n"

/-- What a block that is complete becomes. -/
def Pending.closed (p : Pending) : List Event :=
  match p.write p.code with
  | some inner => [.html (codeHtml p.language inner)]
  | none => p.held.reverse ++ [.finish .codeBlock]

/-- A block with one more event held back. -/
def Pending.hold (p : Pending) (event : Event) : Pending :=
  match event with
  | .text s => { p with code := p.code ++ s, held := event :: p.held }
  | _ => { p with held := event :: p.held }

/-- Replaces the blocks in known languages, `pending` being open; a block that is never closed stays
as it came. -/
def Highlighter.highlightFrom (h : Highlighter) (pending : Option Pending) : List Event → List Event
  | [] =>
    match pending with
    | some p => p.held.reverse
    | none => []
  | event :: rest =>
    match pending with
    | some p =>
      if event = .finish .codeBlock then p.closed ++ h.highlightFrom none rest
      else h.highlightFrom (some (p.hold event)) rest
    | none =>
      match h.opened? event with
      | some p => h.highlightFrom (some p) rest
      | none => event :: h.highlightFrom none rest

/-- Replaces the blocks in known languages. -/
def Highlighter.highlight (h : Highlighter) (events : List Event) : List Event :=
  h.highlightFrom none events

end Folio.Highlight
