import Folio.Markup.Event

/-! # Well-nested documents

A list of events is well-nested if every end belongs to the start that is open, nothing is open at the
end, and a code block holds texts only.  `WellNested` says so of the list as it is read, with the ends
that are still to come on a stack; a `Nest` is such a document as a tree, every group with what is in it.
The two agree (`wellNested_iff`), so a statement on well-nested lists is proved along the tree. -/

namespace Folio.Markup

/-- Whether an event neither opens nor closes anything. -/
def Event.isLeaf : Event → Bool
  | .start _ | .finish _ => false
  | _ => true

/-- Whether a tag opens a code block. -/
def Tag.isCode : Tag → Bool
  | .codeBlock _ => true
  | _ => false

theorem Tag.closing_ne_codeBlock {tag : Tag} (h : tag.isCode = false) : tag.closing ≠ .codeBlock := by
  cases tag with
  | codeBlock kind => cases h
  | _ => exact TagEnd.noConfusion

/-! ### Reading -/

/-- The ends that are still to come after an event, the nearest first, if the event may stand where
`opened` are to come. -/
def awaited? (opened : List TagEnd) : Event → Option (List TagEnd)
  | .text _ => some opened
  | .finish tag => if opened.head? = some tag then some opened.tail else none
  | .start tag => if opened.head? = some .codeBlock then none else some (tag.closing :: opened)
  | _ => if opened.head? = some .codeBlock then none else some opened

/-- Every event may stand where it does, and no end is missing. -/
def WellNested (events : List Event) : Prop := events.foldlM awaited? [] = some []

instance (events : List Event) : Decidable (WellNested events) :=
  inferInstanceAs (Decidable (events.foldlM awaited? [] = some []))

variable {opened : List TagEnd}

theorem awaited?_start (h : opened.head? ≠ some .codeBlock) (tag : Tag) :
    awaited? opened (.start tag) = some (tag.closing :: opened) := if_neg h

theorem awaited?_finish (tag : TagEnd) : awaited? (tag :: opened) (.finish tag) = some opened := if_pos rfl

theorem awaited?_leaf (h : opened.head? ≠ some .codeBlock) {event : Event} (hleaf : event.isLeaf = true) :
    awaited? opened event = some opened := by
  cases event with
  | text s => rfl
  | start tag => cases hleaf
  | finish tag => cases hleaf
  | _ => exact if_neg h

theorem foldlM_awaited?_texts (texts : List String) :
    (texts.map Event.text).foldlM awaited? opened = some opened := by
  induction texts with
  | nil => rfl
  | cons s texts ih => exact ih

/-! ### Trees -/

/-- A well-nested document as a tree: events and groups side by side. -/
inductive Nest where
  | nil
  | leaf (event : Event) (h : event.isLeaf = true) (next : Nest)
  | code (kind : CodeKind) (texts : List String) (next : Nest)
  | group (tag : Tag) (h : tag.isCode = false) (inner next : Nest)

/-- A code block. -/
def codeEvents (kind : CodeKind) (texts : List String) : List Event :=
  .start (.codeBlock kind) :: (texts.map .text ++ [.finish .codeBlock])

/-- A group with what is in it. -/
def groupEvents (tag : Tag) (inner : List Event) : List Event :=
  .start tag :: (inner ++ [.finish tag.closing])

namespace Nest

/-- The events of a document. -/
def events : Nest → List Event
  | nil => []
  | leaf event _ next => event :: next.events
  | code kind texts next => codeEvents kind texts ++ next.events
  | group tag _ inner next => groupEvents tag inner.events ++ next.events

end Nest

/-- A code block leaves the ends that are to come as they are. -/
theorem foldlM_awaited?_codeEvents (h : opened.head? ≠ some .codeBlock) (kind : CodeKind)
    (texts : List String) : (codeEvents kind texts).foldlM awaited? opened = some opened := by
  rw [codeEvents, List.foldlM_cons, awaited?_start h, Option.bind_eq_bind, Option.bind_some,
    List.foldlM_append, foldlM_awaited?_texts]
  rfl

/-- A group leaves the ends that are to come as they are if what is in it does. -/
theorem foldlM_awaited?_groupEvents (h : opened.head? ≠ some .codeBlock) {tag : Tag} {inner : List Event}
    (hinner : inner.foldlM awaited? (tag.closing :: opened) = some (tag.closing :: opened)) :
    (groupEvents tag inner).foldlM awaited? opened = some opened := by
  rw [groupEvents, List.foldlM_cons, awaited?_start h, Option.bind_eq_bind, Option.bind_some,
    List.foldlM_append, hinner, Option.bind_eq_bind, Option.bind_some, List.foldlM_cons,
    awaited?_finish]
  rfl

theorem foldlM_awaited?_append {first rest : List Event}
    (hfirst : first.foldlM awaited? opened = some opened)
    (hrest : rest.foldlM awaited? opened = some opened) :
    (first ++ rest).foldlM awaited? opened = some opened := by
  rw [List.foldlM_append, hfirst]
  exact hrest

/-- Inside of anything but a code block, a document leaves the ends that are to come as they are. -/
theorem Nest.foldlM_events (n : Nest) (h : opened.head? ≠ some .codeBlock) :
    n.events.foldlM awaited? opened = some opened := by
  induction n generalizing opened with
  | nil => rfl
  | leaf event hleaf next ih =>
    rw [events, List.foldlM_cons, awaited?_leaf h hleaf]
    exact ih h
  | code kind texts next ih =>
    exact foldlM_awaited?_append (foldlM_awaited?_codeEvents h kind texts) (ih h)
  | group tag hcode inner next ihinner ihnext =>
    have hinside : (tag.closing :: opened).head? ≠ some .codeBlock := fun heq =>
      Tag.closing_ne_codeBlock hcode (Option.some.inj heq)
    exact foldlM_awaited?_append (foldlM_awaited?_groupEvents h (ihinner hinside)) (ihnext h)

/-! ### From the list to the tree -/

/-- What is left of a document while some ends are still to come: the rest of the innermost group, its
end, and so on with the groups around it. -/
def Remains : List TagEnd → List Event → Prop
  | [], events => ∃ n : Nest, n.events = events
  | .codeBlock :: opened, events => ∃ (texts : List String) (rest : List Event),
      events = texts.map .text ++ .finish .codeBlock :: rest ∧ Remains opened rest
  | tag :: opened, events => ∃ (n : Nest) (rest : List Event),
      events = n.events ++ .finish tag :: rest ∧ Remains opened rest

theorem remains_cons (tag : TagEnd) (htag : tag ≠ .codeBlock) (events : List Event) :
    Remains (tag :: opened) events ↔ ∃ (n : Nest) (rest : List Event),
      events = n.events ++ .finish tag :: rest ∧ Remains opened rest := by
  rw [Remains]
  exact htag

/-- What can stand in front of every document can stand in front of what is left of one. -/
theorem Remains.append {first rest : List Event} (h : opened.head? ≠ some .codeBlock)
    (hfirst : ∀ n : Nest, ∃ m : Nest, m.events = first ++ n.events) (hrest : Remains opened rest) :
    Remains opened (first ++ rest) := by
  cases opened with
  | nil =>
    obtain ⟨n, rfl⟩ := hrest
    exact hfirst n
  | cons tag opened =>
    have htag : tag ≠ .codeBlock := fun heq => h (congrArg some heq)
    rw [remains_cons tag htag] at hrest ⊢
    obtain ⟨n, rest, rfl, hrest⟩ := hrest
    obtain ⟨m, hm⟩ := hfirst n
    exact ⟨m, rest, by rw [hm, List.append_assoc], hrest⟩

theorem Remains.leaf {event : Event} {rest : List Event} (h : opened.head? ≠ some .codeBlock)
    (hleaf : event.isLeaf = true) (hrest : Remains opened rest) : Remains opened (event :: rest) := by
  have hfirst : ∀ n : Nest, ∃ m : Nest, m.events = [event] ++ n.events := fun n =>
    ⟨.leaf event hleaf n, rfl⟩
  exact hrest.append h hfirst

theorem Remains.text (s : String) {rest : List Event} (hrest : Remains opened rest) :
    Remains opened (.text s :: rest) := by
  by_cases h : opened.head? = some .codeBlock
  · obtain ⟨opened, rfl⟩ := List.head?_eq_some_iff.mp h
    obtain ⟨texts, rest, rfl, hrest⟩ := hrest
    exact ⟨s :: texts, rest, rfl, hrest⟩
  · exact hrest.leaf h rfl

/-- A start and what is left after it, with its end to come. -/
theorem Remains.start {tag : Tag} {rest : List Event} (h : opened.head? ≠ some .codeBlock)
    (hrest : Remains (tag.closing :: opened) rest) : Remains opened (.start tag :: rest) := by
  by_cases hcode : ∃ kind, tag = .codeBlock kind
  · obtain ⟨kind, rfl⟩ := hcode
    obtain ⟨texts, rest, rfl, hrest⟩ := hrest
    have hblock := hrest.append h fun n => ⟨.code kind texts n, rfl⟩
    simpa [codeEvents] using hblock
  · have hnot : tag.isCode = false := by
      cases tag with
      | codeBlock kind => exact absurd ⟨kind, rfl⟩ hcode
      | _ => rfl
    rw [remains_cons _ (Tag.closing_ne_codeBlock hnot)] at hrest
    obtain ⟨inner, rest, rfl, hrest⟩ := hrest
    have hgroup := hrest.append h fun n => ⟨.group tag hnot inner n, rfl⟩
    simpa [groupEvents] using hgroup

theorem Remains.finish (tag : TagEnd) {rest : List Event} (hrest : Remains opened rest) :
    Remains (tag :: opened) (.finish tag :: rest) := by
  by_cases htag : tag = .codeBlock
  · subst htag
    exact ⟨[], rest, rfl, hrest⟩
  · rw [remains_cons tag htag]
    exact ⟨.nil, rest, rfl, hrest⟩

/-- One event may be put in front of what is left after it. -/
theorem Remains.of_awaited? {opened' : List TagEnd} {event : Event} {rest : List Event}
    (h : awaited? opened event = some opened') (hrest : Remains opened' rest) :
    Remains opened (event :: rest) := by
  cases event with
  | text s =>
    obtain rfl := Option.some.inj h
    exact hrest.text s
  | finish tag =>
    obtain ⟨hhead, heq⟩ := Option.ite_none_right_eq_some.mp h
    obtain rfl := Option.some.inj heq
    obtain ⟨opened, rfl⟩ := List.head?_eq_some_iff.mp hhead
    exact hrest.finish tag
  | start tag =>
    obtain ⟨hhead, heq⟩ := Option.ite_none_left_eq_some.mp h
    obtain rfl := Option.some.inj heq
    exact hrest.start hhead
  | _ =>
    obtain ⟨hhead, heq⟩ := Option.ite_none_left_eq_some.mp h
    obtain rfl := Option.some.inj heq
    exact hrest.leaf hhead rfl

theorem remains_of_foldlM (events : List Event) (h : events.foldlM awaited? opened = some []) :
    Remains opened events := by
  induction events generalizing opened with
  | nil =>
    obtain rfl := Option.some.inj h
    exact ⟨.nil, rfl⟩
  | cons event rest ih =>
    rw [List.foldlM_cons, Option.bind_eq_bind, Option.bind_eq_some_iff] at h
    obtain ⟨opened', hevent, hrest⟩ := h
    exact (ih hrest).of_awaited? hevent

/-- The well-nested lists are those of the documents that are trees. -/
theorem wellNested_iff {events : List Event} : WellNested events ↔ ∃ n : Nest, n.events = events := by
  constructor
  · exact remains_of_foldlM events
  · rintro ⟨n, rfl⟩
    exact n.foldlM_events nofun

/-- Inside of anything but a code block, a well-nested list leaves the ends that are to come as they
are. -/
theorem WellNested.foldlM {events : List Event} (h : WellNested events)
    (hopened : opened.head? ≠ some .codeBlock) : events.foldlM awaited? opened = some opened := by
  obtain ⟨n, rfl⟩ := wellNested_iff.mp h
  exact n.foldlM_events hopened

end Folio.Markup
