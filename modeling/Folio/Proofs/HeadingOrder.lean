import Mathlib.Data.List.Forall2
import Folio.Outline.Contents

/-! # Headings, ids and entries in one order

Headings are collected when they end, ids are written where they start, and the table of contents nests
them.  All three follow the order in which headings start (`collectFrom_eq`, `listedTitles_applyIds`,
`flatten_ofHeadings`), as long as every heading ends before the next one starts.  So the page carries the
ids of the table on the headings that the table lists (`listedTitles_applyIds_issueIds`). -/

namespace Folio.Outline

open Folio.Markup

/-! ### Headings as they stand in a document -/

/-- The number of open images after an event. -/
def imagesAfter (images : Nat) : Event → Nat
  | .start (.image _) => images + 1
  | .finish .image => images - 1
  | _ => images

/-- What an event adds to the title of a heading; the text of an image adds nothing. -/
def titlePiece (images : Nat) : Event → String
  | .text s | .code s => if images = 0 then s else ""
  | .inlineMath s => if images = 0 then "\\(" ++ s ++ "\\)" else ""
  | .softBreak | .hardBreak => " "
  | _ => ""

/-- The title that goes on up to the next end of a heading. -/
def titleFrom (images : Nat) : List Event → String
  | [] => ""
  | .finish (.heading _) :: _ => ""
  | event :: rest => titlePiece images event ++ titleFrom (imagesAfter images event) rest

/-- The headings of a document in the order of their starts, each with its title. -/
def titles (images : Nat) : List Event → List (HeadingTag × String)
  | [] => []
  | .start (.heading h) :: rest => (h, titleFrom images rest) :: titles images rest
  | event :: rest => titles (imagesAfter images event) rest

/-- The headings of the levels that have entries. -/
def listedTitles (images : Nat) (events : List Event) : List (HeadingTag × String) :=
  (titles images events).filter fun t => isListed t.1.level

/-- Whether every heading ends before the next one starts, a heading being open or not. -/
def headingsClosed : Bool → List Event → Bool
  | opened, [] => !opened
  | opened, .start (.heading _) :: rest => !opened && headingsClosed true rest
  | _, .finish (.heading _) :: rest => headingsClosed false rest
  | opened, _ :: rest => headingsClosed opened rest

/-- An event that neither starts nor ends a heading. -/
structure IsInner (event : Event) : Prop where
  ne_start : ∀ h, event ≠ .start (.heading h)
  ne_finish : ∀ level, event ≠ .finish (.heading level)

theorem event_cases (event : Event) :
    (∃ h, event = .start (.heading h)) ∨ (∃ level, event = .finish (.heading level)) ∨
      IsInner event := by
  by_cases hs : ∃ h, event = .start (.heading h)
  · exact .inl hs
  · by_cases hf : ∃ level, event = .finish (.heading level)
    · exact .inr (.inl hf)
    · exact .inr (.inr ⟨fun h e => hs ⟨h, e⟩, fun level e => hf ⟨level, e⟩⟩)

namespace IsInner

variable {event : Event} (h : IsInner event)
include h

theorem titleFrom_cons (images : Nat) (rest : List Event) :
    titleFrom images (event :: rest) =
      titlePiece images event ++ titleFrom (imagesAfter images event) rest := by
  rw [titleFrom]
  exact h.ne_finish

theorem titles_cons (images : Nat) (rest : List Event) :
    titles images (event :: rest) = titles (imagesAfter images event) rest := by
  rw [titles]
  exact h.ne_start

theorem headingsClosed_cons (opened : Bool) (rest : List Event) :
    headingsClosed opened (event :: rest) = headingsClosed opened rest := by
  rw [headingsClosed]
  · exact h.ne_start
  · exact h.ne_finish

theorem applyIds_cons (ids : List String) (rest : List Event) :
    applyIds ids (event :: rest) = event :: applyIds ids rest := by
  rw [applyIds]
  exact h.ne_start

end IsInner

/-! ### Collecting -/

theorem Heading.add_empty (h : Heading) : h.add "" = h := by simp [Heading.add]

theorem Heading.add_add (h : Heading) (s t : String) : (h.add s).add t = h.add (s ++ t) := by
  simp [Heading.add, String.append_assoc]

/-- Between the start and the end of a heading, events add their pieces to its text. -/
theorem IsInner.collectFrom_cons {event : Event} (h : IsInner event) (current : Option Heading)
    (images : Nat) (rest : List Event) :
    collectFrom current images (event :: rest) =
      collectFrom (current.map (·.add (titlePiece images event))) (imagesAfter images event) rest := by
  have hid : current.map (·.add "") = current := by
    cases current <;> simp [Heading.add_empty]
  cases event with
  | start tag =>
    cases tag with
    | heading h' => exact absurd rfl (h.ne_start h')
    | _ => simp [collectFrom, titlePiece, imagesAfter, hid]
  | finish tag =>
    cases tag with
    | heading level => exact absurd rfl (h.ne_finish level)
    | _ => simp [collectFrom, titlePiece, imagesAfter, hid]
  | text s | code s | inlineMath s =>
    by_cases hi : images = 0 <;> simp [collectFrom, titlePiece, imagesAfter, hi, hid]
  | _ => simp [collectFrom, titlePiece, imagesAfter, hid]

/-- What collecting makes of a heading. -/
def headingOf (t : HeadingTag × String) : Heading := ⟨t.1.level, t.2, t.1.id.filter (· ≠ "")⟩

theorem listedTitles_start (images : Nat) (h : HeadingTag) (rest : List Event) :
    listedTitles images (.start (.heading h) :: rest) =
      (if isListed h.level then [(h, titleFrom images rest)] else []) ++ listedTitles images rest := by
  rw [listedTitles, titles, List.filter_cons]
  split <;> rfl

/-- Collecting gives the listed headings in the order of their starts, the open one first. -/
theorem collectFrom_eq (events : List Event) :
    ∀ images : Nat,
      (headingsClosed false events = true →
        collectFrom none images events = (listedTitles images events).map headingOf) ∧
      ∀ current, headingsClosed true events = true →
        collectFrom (some current) images events =
          (if isListed current.depth then [current.add (titleFrom images events)] else []) ++
            (listedTitles images events).map headingOf := by
  induction events with
  | nil =>
    intro images
    refine ⟨fun _ => rfl, fun current h => ?_⟩
    cases h
  | cons event rest ih =>
    intro images
    rcases event_cases event with ⟨h, rfl⟩ | ⟨level, rfl⟩ | hinner
    · refine ⟨fun hclosed => ?_, fun current hclosed => ?_⟩
      · rw [collectFrom, (ih images).2 _ (by simpa [headingsClosed] using hclosed),
          listedTitles_start, List.map_append]
        cases isListed h.level <;> simp [headingOf, Heading.add]
      · simp [headingsClosed] at hclosed
    · have hlisted : listedTitles images (.finish (.heading level) :: rest) =
          listedTitles images rest := rfl
      refine ⟨fun hclosed => ?_, fun current hclosed => ?_⟩
      · rw [collectFrom, hlisted]
        exact (ih images).1 hclosed
      · rw [collectFrom, hlisted, (ih images).1 hclosed]
        simp [titleFrom, Heading.add_empty]
    · have hlisted : listedTitles images (event :: rest) =
          listedTitles (imagesAfter images event) rest := by
        rw [listedTitles, hinner.titles_cons]
        rfl
      refine ⟨fun hclosed => ?_, fun current hclosed => ?_⟩
      · rw [hinner.headingsClosed_cons] at hclosed
        rw [hinner.collectFrom_cons, hlisted]
        exact (ih _).1 hclosed
      · rw [hinner.headingsClosed_cons] at hclosed
        rw [hinner.collectFrom_cons, hlisted, Option.map_some, (ih _).2 _ hclosed,
          Heading.add_add, ← hinner.titleFrom_cons]
        rfl

theorem collect_eq {events : List Event} (h : headingsClosed false events = true) :
    collect events = (listedTitles 0 events).map headingOf := (collectFrom_eq events 0).1 h

/-! ### Writing ids -/

/-- A listed heading takes the first of the ids, if one is left; any other heading takes none. -/
theorem applyIds_start (ids : List String) (h : HeadingTag) (rest : List Event) :
    applyIds ids (.start (.heading h) :: rest) =
      if isListed h.level then
        match ids with
        | [] => .start (.heading h) :: applyIds [] rest
        | id :: more => .start (.heading { h with id := some id }) :: applyIds more rest
      else .start (.heading h) :: applyIds ids rest :=
  applyIds.eq_def ids (.start (.heading h) :: rest)

/-- A heading with an id. -/
def withId (t : HeadingTag × String) (id : String) : HeadingTag × String :=
  ({ t.1 with id := some id }, t.2)

/-- Ids on headings leave the titles alone. -/
theorem titleFrom_applyIds (events : List Event) :
    ∀ (images : Nat) (ids : List String),
      titleFrom images (applyIds ids events) = titleFrom images events := by
  induction events with
  | nil => intro images ids; rfl
  | cons event rest ih =>
    intro images ids
    rcases event_cases event with ⟨h, rfl⟩ | ⟨level, rfl⟩ | hinner
    · rw [applyIds_start]
      split
      · cases ids <;> simp [titleFrom, titlePiece, imagesAfter, ih]
      · simp [titleFrom, titlePiece, imagesAfter, ih]
    · rfl
    · rw [hinner.applyIds_cons, hinner.titleFrom_cons, hinner.titleFrom_cons, ih]

/-- Ids go onto the listed headings one after the other. -/
theorem listedTitles_applyIds (events : List Event) :
    ∀ (images : Nat) (ids : List String), ids.length = (listedTitles images events).length →
      listedTitles images (applyIds ids events) =
        List.zipWith withId (listedTitles images events) ids := by
  induction events with
  | nil => intro images ids _; rfl
  | cons event rest ih =>
    intro images ids hlen
    rcases event_cases event with ⟨h, rfl⟩ | ⟨level, rfl⟩ | hinner
    · rw [listedTitles_start] at hlen ⊢
      rw [applyIds_start]
      cases hl : isListed h.level with
      | true =>
        simp only [hl, if_true, List.singleton_append, List.length_cons] at hlen
        cases ids with
        | nil => cases hlen
        | cons id ids =>
          simp only [if_true, List.singleton_append, List.zipWith_cons_cons]
          rw [listedTitles_start, titleFrom_applyIds, ih images ids (by simpa using hlen)]
          simp [withId, hl]
      | false =>
        simp only [hl, Bool.false_eq_true, if_false, List.nil_append] at hlen ⊢
        rw [listedTitles_start, ih images ids hlen]
        simp [hl]
    · exact ih images ids hlen
    · have hlisted : ∀ es, listedTitles images (event :: es) =
          listedTitles (imagesAfter images event) es := by
        intro es
        rw [listedTitles, hinner.titles_cons]
        rfl
      rw [hlisted] at hlen ⊢
      rw [hinner.applyIds_cons, hlisted]
      exact ih _ ids hlen

/-- Two events that agree but for the id of a listed heading. -/
inductive SameButId : Event → Event → Prop
  | same (event : Event) : SameButId event event
  | heading (h : HeadingTag) (id : String) (listed : isListed h.level = true) :
      SameButId (.start (.heading h)) (.start (.heading { h with id := some id }))

/-- Writing ids changes nothing else. -/
theorem forall₂_applyIds (events : List Event) :
    ∀ ids : List String, List.Forall₂ SameButId events (applyIds ids events) := by
  induction events with
  | nil => intro ids; exact .nil
  | cons event rest ih =>
    intro ids
    rcases event_cases event with ⟨h, rfl⟩ | ⟨level, rfl⟩ | hinner
    · rw [applyIds_start]
      split
      · rename_i hl
        cases ids with
        | nil => exact .cons (.same _) (ih [])
        | cons id ids => exact .cons (.heading h id hl) (ih ids)
      · exact .cons (.same _) (ih ids)
    · exact .cons (.same _) (ih ids)
    · rw [hinner.applyIds_cons]
      exact .cons (.same _) (ih ids)

/-! ### Entries -/

/-- A title as the table of contents shows it. -/
def shownTitle (text : String) : String :=
  Markup.restoreDollars (String.ofList (Text.trim text.toList))

/-- The entry of a heading with its id. -/
def entryOf (h : Heading) (id : String) : Entry := ⟨id, shownTitle h.text, h.depth⟩

namespace Contents

/-- A new entry comes last, however deep it is put. -/
theorem flatten_insert (x : Entry) (c : Contents) : (c.insert x).flatten = c.flatten ++ [x] := by
  fun_induction insert x c with
  | case1 => rfl
  | case2 e children h ih => simp [flatten, ih]
  | case3 e children h => simp [flatten]
  | case4 e children e' children' next ih => simp [flatten] at ih ⊢; simp [ih]

/-- The entries of a table are those of its headings, in order. -/
theorem flatten_ofHeadings (headings : List Heading) (ids : List String) :
    (ofHeadings headings ids).flatten = List.zipWith entryOf headings ids := by
  have run : ∀ (l : List (Heading × String)) (toc : Contents),
      (l.foldl (fun toc h => toc.insert (entryOf h.1 h.2)) toc).flatten =
        toc.flatten ++ l.map fun h => entryOf h.1 h.2 := by
    intro l
    induction l with
    | nil => simp
    | cons h l ih => intro toc; simp [ih, flatten_insert]
  exact (run (headings.zip ids) nil).trans (by simp [flatten, List.zip, List.map_zipWith])

end Contents

theorem length_issueFrom (headings : List Heading) (ids : GivenIds) :
    (issueFrom ids headings).length = headings.length := by
  induction headings generalizing ids with
  | nil => rfl
  | cons h rest ih =>
    rw [issueFrom]
    cases h.explicitId <;> simp [ih]

theorem length_issueIds (headings : List Heading) (registry : SlugRegistry) :
    (issueIds headings registry).length = headings.length := length_issueFrom _ _

/-- **The page carries the ids of the table**: when every heading ends before the next one starts, the
listed headings of the page have, in order, the ids, depths and titles of the entries of the table of
contents, and nothing but these ids has changed. -/
theorem listedTitles_applyIds_issueIds {events : List Event}
    (closed : headingsClosed false events = true) :
    let headings := collect events
    let ids := issueIds headings (observeAll headings)
    let page := applyIds ids events
    (listedTitles 0 page).map (fun t => (t.1.id, t.1.level, shownTitle t.2)) =
      (Contents.ofHeadings headings ids).flatten.map (fun e => (some e.id, e.depth, e.value)) ∧
    List.Forall₂ SameButId events page := by
  intro headings ids page
  have hcollect : headings = (listedTitles 0 events).map headingOf := collect_eq closed
  have hlen : ids.length = (listedTitles 0 events).length := by
    rw [length_issueIds, hcollect, List.length_map]
  refine ⟨?_, forall₂_applyIds events ids⟩
  rw [listedTitles_applyIds events 0 ids hlen, Contents.flatten_ofHeadings, hcollect,
    List.map_zipWith, List.map_zipWith, List.zipWith_map_left]
  rfl

/-- Two headings of one text, the first with an image, a heading too deep for an entry, and one with an
id of its own. -/
def setupPage : List Event :=
  [.start (.heading ⟨2, none, [], []⟩), .text "Setup", .softBreak,
    .start (.image ⟨.inline, "logo.png", "", ""⟩), .text "Logo", .finish .image, .finish (.heading 2),
    .start (.heading ⟨6, none, [], []⟩), .text "Aside", .finish (.heading 6),
    .start (.heading ⟨4, some "own", [], []⟩), .code "Own", .finish (.heading 4),
    .start (.heading ⟨3, none, [], []⟩), .text "Setup", .finish (.heading 3)]

/-- The headings of this page that have entries carry their ids. -/
theorem listedTitles_applyIds_issueIds_setupPage :
    headingsClosed false setupPage = true ∧
    let page := applyIds (issueIds (collect setupPage) (observeAll (collect setupPage))) setupPage
    (listedTitles 0 page).map (fun t => (t.1.id, t.1.level, shownTitle t.2)) =
      [(some "setup", 2, "Setup"), (some "own", 4, "Own"), (some "setup-2", 3, "Setup")] ∧
    List.Forall₂ SameButId setupPage page := by
  have closed : headingsClosed false setupPage = true := by decide
  obtain ⟨listed, same⟩ := listedTitles_applyIds_issueIds closed
  exact ⟨closed, listed.trans (by decide +kernel), same⟩

end Folio.Outline
