import Folio.Highlight.Block

/-! # Stretches of code

From the start of a fenced block in a known language up to the next end of a code block, events are held back,
whatever they are.  `Highlighter.Replaces` says what becomes of such a stretch, and of one that is never
closed, without a word about what is held.  The events that go in determine those that come out
(`Replaces.highlight_eq`), something comes out in any case (`exists_replaces`), and what has come out is left
as it is (`Replaces.self`); so highlighting is exactly this relation (`highlight_eq_iff`). -/

namespace Folio.Highlight

open Folio.Markup

/-- The text among some events. -/
def codeText (events : List Event) : String :=
  String.join <| events.filterMap fun
    | .text s => some s
    | _ => none

namespace Highlighter

variable {h : Highlighter} {events body rest out : List Event} {info language : String}
  {write : String → Option String}

/-- `h.Knows info language write`: an information string names a language that is known, with its writer. -/
def Knows (h : Highlighter) (info language : String) (write : String → Option String) : Prop :=
  infoLanguage? info = some language ∧ h.find? language = some write

/-- Whether an event starts a fenced block in a known language. -/
def Starts (h : Highlighter) (event : Event) : Prop :=
  ∃ info language write, event = .start (.codeBlock (.fenced info)) ∧ h.Knows info language write

/-- What highlighting makes of a list of events. -/
inductive Replaces (h : Highlighter) : List Event → List Event → Prop
  | nil : h.Replaces [] []
  /-- Outside such blocks, an event stays where it is. -/
  | other {event : Event} {rest out : List Event} (hevent : ¬h.Starts event) (hrest : h.Replaces rest out) :
      h.Replaces (event :: rest) (event :: out)
  /-- A stretch whose text can be written is one piece of HTML. -/
  | written {info language inner : String} {write : String → Option String} {body rest out : List Event}
      (hknown : h.Knows info language write) (hbody : .finish .codeBlock ∉ body)
      (hwrite : write (codeText body) = some inner) (hrest : h.Replaces rest out) :
      h.Replaces (.start (.codeBlock (.fenced info)) :: (body ++ .finish .codeBlock :: rest))
        (.html (codeHtml language inner) :: out)
  /-- A stretch whose text cannot be written stays as it is. -/
  | failed {info language : String} {write : String → Option String} {body rest out : List Event}
      (hknown : h.Knows info language write) (hbody : .finish .codeBlock ∉ body)
      (hwrite : write (codeText body) = none) (hrest : h.Replaces rest out) :
      h.Replaces (.start (.codeBlock (.fenced info)) :: (body ++ .finish .codeBlock :: rest))
        (.start (.codeBlock (.fenced info)) :: (body ++ .finish .codeBlock :: out))
  /-- A stretch that is never closed stays as it came. -/
  | unclosed {info language : String} {write : String → Option String} {body : List Event}
      (hknown : h.Knows info language write) (hbody : .finish .codeBlock ∉ body) :
      h.Replaces (.start (.codeBlock (.fenced info)) :: body) (.start (.codeBlock (.fenced info)) :: body)

/-! ### Holding events back -/

theorem opened?_of_knows (hknown : h.Knows info language write) :
    h.opened? (.start (.codeBlock (.fenced info))) =
      some ⟨language, write, "", [.start (.codeBlock (.fenced info))]⟩ := by
  simp [opened?, hknown.1, hknown.2]

theorem opened?_of_not_starts {event : Event} (hevent : ¬h.Starts event) : h.opened? event = none := by
  unfold opened?
  split
  · rename_i info
    split
    · rfl
    · rename_i language hlanguage
      cases hwrite : h.find? language with
      | none => rfl
      | some write => exact absurd ⟨info, language, write, rfl, hlanguage, hwrite⟩ hevent
  · rfl

/-- Some events held back, with their text behind the text so far. -/
theorem foldl_hold (body : List Event) (p : Pending) :
    body.foldl Pending.hold p = { p with code := p.code ++ codeText body, held := body.reverse ++ p.held } := by
  induction body generalizing p with
  | nil => simp [codeText]
  | cons event body ih =>
    rw [List.foldl_cons, ih]
    cases event <;> simp [Pending.hold, codeText, String.join_cons, String.append_assoc]

/-- Up to the next end of a code block, all events are held. -/
theorem highlightFrom_append (hbody : .finish .codeBlock ∉ body) (p : Pending) (rest : List Event) :
    h.highlightFrom (some p) (body ++ rest) = h.highlightFrom (some (body.foldl Pending.hold p)) rest := by
  induction body generalizing p with
  | nil => rfl
  | cons event body ih =>
    obtain ⟨hevent, hbody⟩ := not_or.mp (mt List.mem_cons.mpr hbody)
    rw [List.cons_append, highlightFrom, if_neg (Ne.symm hevent), ih hbody]
    rfl

/-- From the start of a stretch, events are held up to the next end of a code block. -/
theorem highlight_stretch (hknown : h.Knows info language write) (hbody : .finish .codeBlock ∉ body)
    (rest : List Event) :
    h.highlight (.start (.codeBlock (.fenced info)) :: (body ++ rest)) =
      h.highlightFrom
        (some ⟨language, write, codeText body, body.reverse ++ [.start (.codeBlock (.fenced info))]⟩) rest := by
  rw [highlight, highlightFrom, opened?_of_knows hknown]
  dsimp only
  rw [highlightFrom_append hbody, foldl_hold, String.empty_append]

/-! ### The relation -/

theorem Replaces.highlight_eq (hr : h.Replaces events out) : h.highlight events = out := by
  induction hr with
  | nil => rfl
  | other hevent hrest ih =>
    rw [highlight, highlightFrom, opened?_of_not_starts hevent]
    exact congrArg _ ih
  | written hknown hbody hwrite hrest ih =>
    rw [highlight_stretch hknown hbody, highlightFrom, if_pos rfl, Pending.closed]
    dsimp only
    rw [hwrite]
    exact congrArg _ ih
  | failed hknown hbody hwrite hrest ih =>
    rw [highlight] at ih
    rw [highlight_stretch hknown hbody, highlightFrom, if_pos rfl, Pending.closed, ih]
    dsimp only
    rw [hwrite]
    simp
  | @unclosed info _ _ body hknown hbody =>
    have hstretch := highlight_stretch hknown hbody []
    rw [List.append_nil] at hstretch
    rw [hstretch, highlightFrom]
    simp

/-- Every list of events can be cut into stretches and other events. -/
theorem exists_replaces (h : Highlighter) (events : List Event) : ∃ out, h.Replaces events out := by
  induction hlength : events.length using Nat.strongRecOn generalizing events with
  | _ n ih =>
    subst hlength
    cases events with
    | nil => exact ⟨[], .nil⟩
    | cons event rest =>
      by_cases hevent : h.Starts event
      · obtain ⟨info, language, write, rfl, hknown⟩ := hevent
        by_cases hclosed : .finish .codeBlock ∈ rest
        · -- the next end of a code block closes the stretch
          obtain ⟨body, rest, rfl, hbody⟩ := List.eq_append_cons_of_mem hclosed
          obtain ⟨out, hout⟩ := ih rest.length (by simp; omega) rest rfl
          cases hwrite : write (codeText body) with
          | some inner => exact ⟨_, .written hknown hbody hwrite hout⟩
          | none => exact ⟨_, .failed hknown hbody hwrite hout⟩
        · exact ⟨_, .unclosed hknown hclosed⟩
      · obtain ⟨out, hout⟩ := ih rest.length (by simp) rest rfl
        exact ⟨_, .other hevent hout⟩

theorem not_starts_html (html : String) : ¬h.Starts (.html html) := by
  rintro ⟨info, language, write, heq, -⟩
  cases heq

/-- What has come out is left as it is: a stretch that could not be written cannot be written again. -/
theorem Replaces.self (hr : h.Replaces events out) : h.Replaces out out := by
  induction hr with
  | nil => exact .nil
  | other hevent hrest ih => exact .other hevent ih
  | written hknown hbody hwrite hrest ih => exact .other (not_starts_html _) ih
  | failed hknown hbody hwrite hrest ih => exact .failed hknown hbody hwrite ih
  | unclosed hknown hbody => exact .unclosed hknown hbody

theorem highlight_eq_iff : h.highlight events = out ↔ h.Replaces events out := by
  refine ⟨fun hout => ?_, Replaces.highlight_eq⟩
  obtain ⟨out', hr⟩ := exists_replaces h events
  rwa [← hout, hr.highlight_eq]

/-- **Highlighting replaces stretches of code**: for every list of events, well-nested or not, and whatever
languages are known and however they are written, highlighting gives what `Replaces` says and nothing else,
and highlighting what it gives changes nothing. -/
theorem highlight_replaces (h : Highlighter) (events : List Event) :
    (∀ out, h.highlight events = out ↔ h.Replaces events out) ∧
      h.highlight (h.highlight events) = h.highlight events :=
  ⟨fun _ => highlight_eq_iff, (highlight_eq_iff.mp rfl).self.highlight_eq⟩

end Highlighter

end Folio.Highlight
