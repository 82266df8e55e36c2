import Folio.Markup.Fence
import Folio.Proofs.NestedEvents

/-! # Summary and brief fences, taken out

`takeFences` goes over the events of a document once: it counts how deep it is, and from the start of a
special fence on it collects texts, and counts nothing, up to the next end of a code block.  On a
well-nested document this comes to a recursion over its tree.  Reading one tree in front of other events
gives what the tree leaves and then what the others do (`takeFrom_events`): the depth is back where it
was, and no fence is open.  The three results are `Nest.withoutFences`, `Nest.summaryLines` and
`Nest.blockCount`. -/

namespace Folio.Markup

/-- What a code block is used for, if it is no code. -/
def CodeKind.use? : CodeKind → Option FenceUse
  | .indented => none
  | .fenced info => fenceUse? info

theorem openedFence?_codeBlock (kind : CodeKind) :
    openedFence? (.start (.codeBlock kind)) = kind.use? := by
  cases kind <;> rfl

theorem openedFence?_of_isCode {tag : Tag} (h : tag.isCode = false) :
    openedFence? (.start tag) = none := by
  cases tag with
  | codeBlock kind => cases h
  | _ => rfl

theorem openedFence?_of_isLeaf {event : Event} (h : event.isLeaf = true) : openedFence? event = none := by
  cases event with
  | start tag => cases h
  | _ => rfl

/-! ### What is left of a tree -/

/-- The lines of a text. -/
def linesOf (body : String) : List String := (Text.lines body.toList).map String.ofList

namespace Nest

/-- The events of a document without its special fences: nothing stands for a summary, and a brief is a
quotation; `parse` reads its body. -/
def withoutFences (parse : String → List Event) : Nest → List Event
  | nil => []
  | leaf event _ next => event :: next.withoutFences parse
  | code kind texts next =>
    match kind.use? with
    | none => codeEvents kind texts ++ next.withoutFences parse
    | some .summary => next.withoutFences parse
    | some .brief => briefEvents parse (String.join texts) ++ next.withoutFences parse
  | group tag _ inner next => groupEvents tag (inner.withoutFences parse) ++ next.withoutFences parse

/-- The lines of all summaries, at any depth, in document order. -/
def summaryLines : Nest → List String
  | nil => []
  | leaf _ _ next => next.summaryLines
  | code kind texts next =>
    if kind.use? = some .summary then linesOf (String.join texts) ++ next.summaryLines
    else next.summaryLines
  | group _ _ inner next => inner.summaryLines ++ next.summaryLines

/-- The bodies of all briefs, at any depth, in document order. -/
def briefs : Nest → List String
  | nil => []
  | leaf _ _ next => next.briefs
  | code kind texts next =>
    if kind.use? = some .brief then String.join texts :: next.briefs else next.briefs
  | group _ _ inner next => inner.briefs ++ next.briefs

/-- The number of blocks on the top level: code blocks that are no summaries, other groups, rules. -/
def blockCount : Nest → Nat
  | nil => 0
  | leaf event _ next => (if event = .rule then 1 else 0) + next.blockCount
  | code kind _ next => (if kind.use? = some .summary then 0 else 1) + next.blockCount
  | group _ _ _ next => 1 + next.blockCount

end Nest

/-! ### Going over a tree -/

section takeFrom

variable {parse : String → List Event} {depth : Nat} {rest : List Event}

theorem takeFrom_nil (capture : Option (FenceUse × String)) : takeFrom parse depth capture [] = {} := by
  cases capture <;> rfl

/-- Outside of special fences an event opens one or stays. -/
theorem takeFrom_cons (event : Event) :
    takeFrom parse depth none (event :: rest) =
      match openedFence? event with
      | some use =>
        (takeFrom parse depth (some (use, "")) rest).count (if use = .brief ∧ depth = 0 then 1 else 0)
      | none =>
        ((takeFrom parse (depthStep depth event).1 none rest).emit [event]).count
          (depthStep depth event).2 := rfl

theorem takeFrom_text (use : FenceUse) (body s : String) :
    takeFrom parse depth (some (use, body)) (.text s :: rest) =
      takeFrom parse depth (some (use, body ++ s)) rest := rfl

/-- The end of a summary. -/
theorem takeFrom_finish_summary (body : String) :
    takeFrom parse depth (some (.summary, body)) (.finish .codeBlock :: rest) =
      (takeFrom parse depth none rest).summarize (linesOf body) := rfl

/-- The end of a brief. -/
theorem takeFrom_finish_brief (body : String) :
    takeFrom parse depth (some (.brief, body)) (.finish .codeBlock :: rest) =
      (takeFrom parse depth none rest).emit (briefEvents parse body) := rfl

/-- Texts outside of special fences stay. -/
theorem takeFrom_texts (texts : List String) :
    takeFrom parse depth none (texts.map .text ++ rest) =
      (takeFrom parse depth none rest).emit (texts.map .text) := by
  induction texts with
  | nil => rfl
  | cons s texts ih =>
    rw [List.map_cons, List.cons_append, takeFrom_cons]
    simp [openedFence?, depthStep, ih, Unfenced.emit, Unfenced.count]

/-- Texts inside of a special fence become its body. -/
theorem takeFrom_captured (use : FenceUse) (texts : List String) (body : String) :
    takeFrom parse depth (some (use, body)) (texts.map .text ++ .finish .codeBlock :: rest) =
      takeFrom parse depth (some (use, body ++ String.join texts)) (.finish .codeBlock :: rest) := by
  induction texts generalizing body with
  | nil => simp
  | cons s texts ih =>
    rw [List.map_cons, List.cons_append, takeFrom_text, ih, String.join_cons, String.append_assoc]

theorem takeFrom_start {tag : Tag} (h : openedFence? (.start tag) = none) :
    takeFrom parse depth none (.start tag :: rest) =
      ((takeFrom parse (depth + 1) none rest).emit [.start tag]).count (if depth = 0 then 1 else 0) := by
  rw [takeFrom_cons, h]
  rfl

theorem takeFrom_finish (tag : TagEnd) :
    takeFrom parse (depth + 1) none (.finish tag :: rest) =
      (takeFrom parse depth none rest).emit [.finish tag] := by
  simp [takeFrom_cons, openedFence?, depthStep, Unfenced.emit, Unfenced.count]

theorem takeFrom_leaf {event : Event} (h : event.isLeaf = true) :
    takeFrom parse depth none (event :: rest) =
      ((takeFrom parse depth none rest).emit [event]).count
        (if depth = 0 then if event = .rule then 1 else 0 else 0) := by
  rw [takeFrom_cons, openedFence?_of_isLeaf h]
  cases event with
  | start tag => cases h
  | finish tag => cases h
  | _ => simp [depthStep]

theorem takeFrom_opens {event : Event} {use : FenceUse} (h : openedFence? event = some use) :
    takeFrom parse depth none (event :: rest) =
      (takeFrom parse depth (some (use, "")) rest).count (if use = .brief ∧ depth = 0 then 1 else 0) := by
  rw [takeFrom_cons, h]

/-- Of a special fence the texts are collected as one body. -/
theorem takeFrom_fence {kind : CodeKind} {use : FenceUse} (h : kind.use? = some use)
    (texts : List String) :
    takeFrom parse depth none (codeEvents kind texts ++ rest) =
      (takeFrom parse depth (some (use, String.join texts)) (.finish .codeBlock :: rest)).count
        (if use = .brief ∧ depth = 0 then 1 else 0) := by
  rw [codeEvents, List.cons_append, List.append_assoc, List.singleton_append,
    takeFrom_opens ((openedFence?_codeBlock kind).trans h), takeFrom_captured, String.empty_append]

/-- A summary is taken out whole, and its lines are kept apart. -/
theorem takeFrom_summary {kind : CodeKind} (h : kind.use? = some .summary) (texts : List String) :
    takeFrom parse depth none (codeEvents kind texts ++ rest) =
      (takeFrom parse depth none rest).summarize (linesOf (String.join texts)) := by
  rw [takeFrom_fence h, takeFrom_finish_summary]
  simp [Unfenced.count, Unfenced.summarize]

/-- A quotation takes the place of a brief. -/
theorem takeFrom_brief {kind : CodeKind} (h : kind.use? = some .brief) (texts : List String) :
    takeFrom parse depth none (codeEvents kind texts ++ rest) =
      ((takeFrom parse depth none rest).emit (briefEvents parse (String.join texts))).count
        (if depth = 0 then 1 else 0) := by
  rw [takeFrom_fence h, takeFrom_finish_brief]
  simp

/-- Code stays as it is. -/
theorem takeFrom_code {kind : CodeKind} (h : kind.use? = none) (texts : List String) :
    takeFrom parse depth none (codeEvents kind texts ++ rest) =
      ((takeFrom parse depth none rest).emit (codeEvents kind texts)).count
        (if depth = 0 then 1 else 0) := by
  rw [codeEvents, List.cons_append, List.append_assoc, List.singleton_append,
    takeFrom_start ((openedFence?_codeBlock kind).trans h), takeFrom_texts, takeFrom_finish]
  simp [Unfenced.emit, Unfenced.count]

/-- **Going over a tree**: in front of other events, a document leaves its events without the special
fences, the lines of its summaries and, on the top level, the count of its blocks; then the others are
read as if they stood alone. -/
theorem takeFrom_events (n : Nest) (depth : Nat) (rest : List Event) :
    takeFrom parse depth none (n.events ++ rest) =
      (((takeFrom parse depth none rest).emit (n.withoutFences parse)).summarize n.summaryLines).count
        (if depth = 0 then n.blockCount else 0) := by
  induction n generalizing depth rest with
  | nil => simp [Nest.events, Nest.withoutFences, Nest.summaryLines, Nest.blockCount, Unfenced.emit,
      Unfenced.summarize, Unfenced.count]
  | leaf event hleaf next ih =>
    rw [Nest.events, List.cons_append, takeFrom_leaf hleaf, ih]
    by_cases hdepth : depth = 0 <;>
      simp [Nest.withoutFences, Nest.summaryLines, Nest.blockCount, Unfenced.emit, Unfenced.summarize,
        Unfenced.count, hdepth, Nat.add_assoc]
  | code kind texts next ih =>
    rw [Nest.events, List.append_assoc]
    cases huse : kind.use? with
    | none =>
      rw [takeFrom_code huse, ih]
      by_cases hdepth : depth = 0 <;>
        simp [Nest.withoutFences, Nest.summaryLines, Nest.blockCount, Unfenced.emit, Unfenced.summarize,
          Unfenced.count, hdepth, huse, Nat.add_assoc]
    | some use =>
      cases use with
      | summary =>
        rw [takeFrom_summary huse, ih]
        by_cases hdepth : depth = 0 <;>
          simp [Nest.withoutFences, Nest.summaryLines, Nest.blockCount, Unfenced.emit,
            Unfenced.summarize, Unfenced.count, hdepth, huse]
      | brief =>
        rw [takeFrom_brief huse, ih]
        by_cases hdepth : depth = 0 <;>
          simp [Nest.withoutFences, Nest.summaryLines, Nest.blockCount, Unfenced.emit,
            Unfenced.summarize, Unfenced.count, hdepth, huse, Nat.add_assoc]
  | group tag hcode inner next ihinner ihnext =>
    have hevents : (Nest.group tag hcode inner next).events ++ rest =
        .start tag :: (inner.events ++ .finish tag.closing :: (next.events ++ rest)) := by
      simp [Nest.events, groupEvents]
    rw [hevents, takeFrom_start (openedFence?_of_isCode hcode), ihinner, takeFrom_finish, ihnext]
    by_cases hdepth : depth = 0 <;>
      simp [Nest.withoutFences, Nest.summaryLines, Nest.blockCount, Unfenced.emit, Unfenced.summarize,
        Unfenced.count, groupEvents, hdepth, Nat.add_assoc]

end takeFrom

/-! ### The document that is left -/

/-- The quotation of a brief leaves the ends that are to come as they are if its body is well-nested. -/
theorem foldlM_awaited?_briefEvents {parse : String → List Event} {body : String}
    {opened : List TagEnd} (h : opened.head? ≠ some .codeBlock) (hbody : WellNested (parse body)) :
    (briefEvents parse body).foldlM awaited? opened = some opened := by
  rw [briefEvents, List.cons_append, List.foldlM_cons, awaited?_leaf h rfl]
  refine foldlM_awaited?_append (hbody.foldlM h) ?_
  rw [List.foldlM_cons, awaited?_leaf h rfl]
  rfl

/-- What is left of a document leaves the ends that are to come as they are. -/
theorem Nest.foldlM_withoutFences {parse : String → List Event} (n : Nest) {opened : List TagEnd}
    (h : opened.head? ≠ some .codeBlock) (hbriefs : ∀ body ∈ n.briefs, WellNested (parse body)) :
    (n.withoutFences parse).foldlM awaited? opened = some opened := by
  induction n generalizing opened with
  | nil => rfl
  | leaf event hleaf next ih =>
    rw [withoutFences, List.foldlM_cons, awaited?_leaf h hleaf]
    exact ih h hbriefs
  | code kind texts next ih =>
    rw [withoutFences]
    cases huse : kind.use? with
    | none =>
      rw [briefs, huse, if_neg (by simp)] at hbriefs
      exact foldlM_awaited?_append (foldlM_awaited?_codeEvents h kind texts) (ih h hbriefs)
    | some use =>
      cases use with
      | summary =>
        rw [briefs, huse, if_neg (by simp)] at hbriefs
        exact ih h hbriefs
      | brief =>
        rw [briefs, huse, if_pos rfl, List.forall_mem_cons] at hbriefs
        exact foldlM_awaited?_append (foldlM_awaited?_briefEvents h hbriefs.1) (ih h hbriefs.2)
  | group tag hcode inner next ihinner ihnext =>
    rw [briefs, List.forall_mem_append] at hbriefs
    have hinside : (tag.closing :: opened).head? ≠ some .codeBlock := fun heq =>
      Tag.closing_ne_codeBlock hcode (Option.some.inj heq)
    exact foldlM_awaited?_append (foldlM_awaited?_groupEvents h (ihinner hinside hbriefs.1))
      (ihnext h hbriefs.2)

theorem takeFences_eq (parse : String → List Event) (n : Nest) :
    takeFences parse n.events = ⟨n.withoutFences parse, n.summaryLines, n.blockCount⟩ := by
  rw [takeFences, ← List.append_nil n.events, takeFrom_events, takeFrom_nil]
  simp [Unfenced.emit, Unfenced.summarize, Unfenced.count]

/-- **Special fences of well-nested documents**: a list of events is well-nested if it is that of a tree;
of a tree the events are left without the summaries and with quotations for the briefs, the lines of all
summaries are kept apart, and the blocks of the top level that are no summaries are counted; and what is
left is well-nested if the bodies of the briefs are read as such. -/
theorem takeFences_events (parse : String → List Event) :
    (∀ events, WellNested events ↔ ∃ n : Nest, n.events = events) ∧
      ∀ n : Nest,
        takeFences parse n.events = ⟨n.withoutFences parse, n.summaryLines, n.blockCount⟩ ∧
          ((∀ body ∈ n.briefs, WellNested (parse body)) →
            WellNested (takeFences parse n.events).events) := by
  refine ⟨fun _ => wellNested_iff, fun n => ⟨takeFences_eq parse n, fun hbriefs => ?_⟩⟩
  rw [takeFences_eq parse n]
  exact n.foldlM_withoutFences nofun hbriefs

/-- A rule, and a list whose item has a summary of two texts and a brief in a quotation. -/
def listedFences : Nest :=
  .leaf .rule rfl <| .group (.list none) rfl
    (.group .item rfl
      (.code (.fenced "Summary x") ["One\n", "two"] <|
        .group .blockQuote rfl (.code (.fenced "tldr") ["Short"] .nil) .nil)
      .nil)
    .nil

/-- The body of the brief is read as one paragraph. -/
theorem takeFences_events_listedFences :
    let parse := fun body => [Event.start .paragraph, .text body, .finish .paragraph]
    (∀ body ∈ listedFences.briefs, WellNested (parse body)) ∧
      WellNested (takeFences parse listedFences.events).events ∧
      takeFences parse listedFences.events =
        ⟨[.rule, .start (.list none), .start .item, .start .blockQuote,
          .html "<blockquote class=\"tldr\">\n", .start .paragraph, .text "Short", .finish .paragraph,
          .html "</blockquote>\n", .finish .blockQuote, .finish .item, .finish (.list false)],
          ["One", "two"], 2⟩ := by
  intro parse
  have hbriefs : ∀ body ∈ listedFences.briefs, WellNested (parse body) := by decide +kernel
  obtain ⟨hresult, hnested⟩ := (takeFences_events parse).2 listedFences
  have hevents : listedFences.withoutFences parse =
      [.rule, .start (.list none), .start .item, .start .blockQuote,
        .html "<blockquote class=\"tldr\">\n", .start .paragraph, .text "Short", .finish .paragraph,
        .html "</blockquote>\n", .finish .blockQuote, .finish .item, .finish (.list false)] := by
    decide +kernel
  have hsummary : listedFences.summaryLines = ["One", "two"] := by decide +kernel
  have hcount : listedFences.blockCount = 2 := by decide +kernel
  refine ⟨hbriefs, hnested hbriefs, ?_⟩
  rw [hresult, hevents, hsummary, hcount]

end Folio.Markup
