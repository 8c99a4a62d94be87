import AgentFlow.Execution.Playback
import AgentFlow.Proofs.Execution.Event
import Mathlib.Algebra.Group.Nat.Defs

/-!
# The numbers of spans

The spans of an execution are numbered from the number that it begins with, without gaps, whatever
number a span from elsewhere arrives with. The number is that of the place: the next span gets the
first number plus as many as there are spans (`Context.NumberedFrom`). Everything that adds to the
trace reads that number off the context and raises it by one, so it is enough to say of each event
that it adds one span with the next number or none at all (`TraceEvent.perform_cases`).

A tool is told the number before its span is there. That it is the number which the span then gets
is said of collaborators that keep what tools are told (`Collaborators.listening`).
-/

namespace AgentFlow

variable {σ : Type}

/-- The recorder gives a span the number of its draft. -/
def Collaborators.KeepsNumbers (collaborators : Collaborators σ) : Prop :=
  ∀ draft keep world, (collaborators.record draft keep world).1.sequence = draft.sequence

/-- What may add to the trace of an execution. -/
inductive TraceEvent where
  /-- A span is recorded. -/
  | record (draft : SpanDraft)
  /-- A span from elsewhere is added. -/
  | push (span : Span)
  /-- A step is served, an error is caught, or variables are set. -/
  | happen (event : Event)

/-- What such an event does. -/
def TraceEvent.perform (collaborators : Collaborators σ) (execution : Execution σ) :
    TraceEvent → Execution σ
  | record draft => execution.record collaborators draft
  | push span => execution.modify (Context.push span)
  | happen event => event.perform collaborators execution

/-- What such events do one after the other. -/
def Execution.performTracing (collaborators : Collaborators σ) (events : List TraceEvent)
    (execution : Execution σ) : Execution σ :=
  events.foldl (TraceEvent.perform collaborators) execution

/-! ## Numbers by place -/

/-- The spans are numbered by their places, `first` being the number of the first place, and the
next number is that of the next place. Numbers have 64 bits. -/
structure Context.NumberedFrom (first : UInt64) (context : Context) : Prop where
  sequence : context.sequence = first + .ofNat context.spans.size
  span : ∀ (i : Nat) (span : Span), context.spans[i]? = some span →
    span.sequence = first + .ofNat i

/-- As long as 64 bits hold them, numbers are counted up. -/
theorem toNat_add_ofNat {first : UInt64} {n : Nat} (h : first.toNat + n < 2 ^ 64) :
    (first + .ofNat n).toNat = first.toNat + n := by
  rw [UInt64.toNat_add, UInt64.toNat_ofNat', Nat.add_mod_mod, Nat.mod_eq_of_lt h]

namespace Context

variable {first : UInt64} {before after : Context} {span : Span}

/-- An execution starts without spans, at the first number. -/
theorem numberedFrom_initial (agent : AgentConfig) (input : ExecutionInput)
    (options : ExecutionOptions) :
    (initial agent input options).NumberedFrom options.initialSequence where
  sequence := (UInt64.add_zero options.initialSequence).symm
  span _ _ h := by simp [initial] at h

/-- What adds no span keeps the numbers. -/
theorem NumberedFrom.keeps (h : before.NumberedFrom first) (hkeeps : before.Keeps after) :
    after.NumberedFrom first := by
  obtain ⟨vars, loops, rfl⟩ := hkeeps
  exact ⟨h.sequence, h.span⟩

/-- A span with the next number continues the numbering. -/
theorem NumberedFrom.adds (h : before.NumberedFrom first) (hadds : before.Adds span after)
    (hspan : span.sequence = before.sequence) : after.NumberedFrom first := by
  obtain ⟨vars, loops, rfl⟩ := hadds
  constructor
  · show before.sequence + 1 = first + .ofNat (before.spans.push span).size
    rw [h.sequence, Array.size_push, UInt64.ofNat_add, UInt64.add_assoc]
    rfl
  · intro i other hother
    rw [Array.getElem?_push] at hother
    split at hother
    next hi =>
      cases hother
      rw [hspan, h.sequence, hi]
    next => exact h.span i other hother

end Context

/-- The span of a step has the next number, whoever has recorded it. -/
theorem Execution.Traces.sequence_eq {collaborators : Collaborators σ} {step : Step}
    {execution : Execution σ} {span : Span} (h : execution.Traces collaborators step span)
    (hrecord : collaborators.KeepsNumbers) : span.sequence = execution.context.sequence := by
  cases h with
  | supplied => rfl
  | recorded _ _ _ _ _ hsequence => rw [hrecord, hsequence]

/-! ## Events -/

/-- An event adds a span with the next number, or leaves the trace as it is. -/
theorem TraceEvent.perform_cases {collaborators : Collaborators σ}
    (hrecord : collaborators.KeepsNumbers) (execution : Execution σ) (event : TraceEvent) :
    execution.context.Keeps (event.perform collaborators execution).context ∨
      ∃ span, execution.context.Adds span (event.perform collaborators execution).context ∧
        span.sequence = execution.context.sequence := by
  have hadds (draft : SpanDraft) :
      ∃ span, execution.context.Adds span (execution.record collaborators draft).context ∧
        span.sequence = execution.context.sequence :=
    ⟨_, ⟨_, _, rfl⟩, by rw [hrecord]⟩
  cases event with
  | record draft => exact .inr (hadds draft)
  | push span => exact .inr ⟨_, Context.adds_push span execution.context, rfl⟩
  | happen event =>
    cases event with
    | assign vars => exact .inl ⟨vars, _, rfl⟩
    | catchError step error =>
      obtain ⟨span, hspan, hsequence⟩ :=
        hadds { step.draft .reasoning with error := some error.message }
      refine .inr ⟨span, ?_, hsequence⟩
      simp only [perform, Event.perform, Walk.catchError_snd]
      exact hspan.keeps (Execution.keeps_reportError _ _ _)
    | serve step =>
      rcases Event.perform_serve_cases collaborators execution step with
        ⟨-, hperform⟩ | ⟨outcome, hserved, hperform⟩
      · rw [perform, hperform]
        exact .inl (Context.keeps_refl _)
      · rw [perform, hperform]
        cases hserved.tidy with
        | refused => exact .inl (Context.keeps_refl _)
        | served hleaves =>
          obtain ⟨span, htraces, hspan⟩ := hleaves
          exact .inr ⟨span, hspan, htraces.sequence_eq hrecord⟩

namespace Execution

variable {collaborators : Collaborators σ} {first : UInt64}

/-- The numbering goes on through all events. -/
theorem numberedFrom_performTracing (hrecord : collaborators.KeepsNumbers) {start : Execution σ}
    (h : start.context.NumberedFrom first) (events : List TraceEvent) :
    (start.performTracing collaborators events).context.NumberedFrom first := by
  induction events generalizing start with
  | nil => exact h
  | cons event rest ih =>
    refine ih ?_
    rcases event.perform_cases hrecord start with hkeeps | ⟨span, hadds, hspan⟩
    · exact h.keeps hkeeps
    · exact h.adds hadds hspan

/-- The trace only ever grows at its end. -/
theorem spans_isPrefix_performTracing (hrecord : collaborators.KeepsNumbers) (start : Execution σ)
    (events : List TraceEvent) :
    start.context.spans.toList <+:
      (start.performTracing collaborators events).context.spans.toList := by
  induction events generalizing start with
  | nil => exact List.prefix_refl _
  | cons event rest ih =>
    refine List.IsPrefix.trans ?_ (ih _)
    rcases event.perform_cases hrecord start with hkeeps | ⟨span, hadds, -⟩
    · simpa only [hkeeps.spans_eq] using List.prefix_refl _
    · rw [hadds.spans_eq, Array.toList_push]
      exact List.prefix_append _ _

end Execution

/-! ## What tools are told -/

/-- Collaborators that also keep, in order, where tools have been told that they are called from. -/
def Collaborators.listening (collaborators : Collaborators σ) :
    Collaborators (σ × List ToolContext) where
  generate := fun request (world, told) =>
    let (answer, world) := collaborators.generate request world
    (answer, world, told)
  callTool := fun call context (world, told) =>
    let (answer, world) := collaborators.callTool call context world
    (answer, world, told ++ [context])
  freshIdentifier := fun (world, told) =>
    let (id, world) := collaborators.freshIdentifier world
    (id, world, told)
  record := fun draft keep (world, told) =>
    let (span, world) := collaborators.record draft keep world
    (span, world, told)

/-- What tools have been told so far. -/
def Execution.told (execution : Execution (σ × List ToolContext)) : List ToolContext :=
  execution.world.2

/-- The step calls a tool: it is a tool step, and its settings name one. -/
def Step.CallsTool (step : Step) (context : Context) : Prop :=
  step.kind = .tool ∧ (step.toolRequest? context).isSome

theorem Collaborators.KeepsNumbers.listening {collaborators : Collaborators σ}
    (h : collaborators.KeepsNumbers) : collaborators.listening.KeepsNumbers :=
  fun draft keep world => h draft keep world.1

namespace Execution

variable {collaborators : Collaborators σ} {execution after : Execution (σ × List ToolContext)}

/-- A generator tells tools nothing. -/
theorem told_of_generate {system : Option String} {prompt : String}
    {answer : Except String Generation}
    (h : execution.generate collaborators.listening system prompt = (answer, after)) :
    after.told = execution.told :=
  (congrArg (fun result => result.2.told) h).symm

/-- A call tells its tool the context of the execution, once. -/
theorem told_of_callTool {request : ToolRequest} {outcome : ToolOutcome}
    (h : execution.callTool collaborators.listening request = (outcome, after)) :
    after.told = execution.told ++ [execution.context.toolContext] :=
  (congrArg (fun result => result.2.told) h).symm

/-- A report tells tools nothing. -/
theorem told_reportError (step : Step) (text : String)
    (execution : Execution (σ × List ToolContext)) :
    (execution.reportError step text).told = execution.told := by
  unfold reportError
  split <;> rfl

/-- Recording a call tells tools nothing. -/
theorem told_traceCall (step : Step) (request : ToolRequest) (outcome : ToolOutcome)
    (execution : Execution (σ × List ToolContext)) :
    (execution.traceCall collaborators.listening step request outcome).told = execution.told := by
  unfold traceCall
  split <;> rfl

end Execution

/-- A step that calls a tool tells it the number of its own span, once; other steps tell nothing. -/
theorem Handler.Served.told_cases {collaborators : Collaborators σ} {step : Step}
    {execution : Execution (σ × List ToolContext)}
    {outcome : Except FlowError StepResult × Execution (σ × List ToolContext)}
    (h : Served collaborators.listening step execution outcome) :
    step.CallsTool execution.context ∧
        outcome.2.told = execution.told ++ [execution.context.toolContext] ∨
      ¬ step.CallsTool execution.context ∧ outcome.2.told = execution.told := by
  have hother {kind : StepKind} (hkind : step.kind = kind) (hne : kind ≠ .tool := by decide) :
      ¬ step.CallsTool execution.context := fun hcalls => hne (hkind.symm.trans hcalls.1)
  cases h with
  | refused hunreadable =>
    refine .inr ⟨fun hcalls => ?_, rfl⟩
    have hcall := hcalls.2
    rw [Step.toolRequest?_of_unreadable _ hcalls.1 hunreadable] at hcall
    cases hcall
  | unnamed hkind hconfig hname =>
    refine .inr ⟨fun hcalls => ?_, rfl⟩
    have hcall := hcalls.2
    rw [Step.toolRequest?_of_readConfig _ hconfig, hname] at hcall
    cases hcall
  | started hkind => exact .inr ⟨hother hkind, rfl⟩
  | answered hkind _ hask =>
    refine .inr ⟨hother hkind, ?_⟩
    rw [← Execution.told_of_generate hask]
    rfl
  | unanswered hkind _ hask =>
    refine .inr ⟨hother hkind, ?_⟩
    rw [Execution.told_reportError, ← Execution.told_of_generate hask]
    rfl
  | called hkind hconfig hname hcall =>
    refine .inl ⟨⟨hkind, ?_⟩, ?_⟩
    · rw [Step.toolRequest?_of_readConfig _ hconfig, hname]
      rfl
    · rw [Execution.told_traceCall, ← Execution.told_of_callTool hcall]
      rfl
  | calledInVain hkind hconfig hname hcall =>
    refine .inl ⟨⟨hkind, ?_⟩, ?_⟩
    · rw [Step.toolRequest?_of_readConfig _ hconfig, hname]
      rfl
    · rw [Execution.told_traceCall, ← Execution.told_of_callTool hcall]
      rfl
  | decided hkind => exact .inr ⟨hother hkind, rfl⟩
  | undecided hkind => exact .inr ⟨hother hkind, rfl⟩
  | entered hkind => exact .inr ⟨hother hkind, rfl⟩
  | exhausted hkind => exact .inr ⟨hother hkind, rfl⟩
  | concluded hkind => exact .inr ⟨hother hkind, rfl⟩

/-- A step that calls a tool leaves a span. -/
theorem Handler.Served.leaves_of_callsTool {collaborators : Collaborators σ} {step : Step}
    {execution : Execution σ} {outcome : Except FlowError StepResult × Execution σ}
    (h : Served collaborators step execution outcome) (hcalls : step.CallsTool execution.context) :
    execution.Leaves collaborators step outcome.2 := by
  have hcall := hcalls.2
  cases h.tidy with
  | served hleaves => exact hleaves
  | refused =>
    -- The settings are in order, or there would be no call.
    cases h with
    | refused hunreadable =>
      rw [Step.toolRequest?_of_unreadable _ hcalls.1 hunreadable] at hcall
      cases hcall
    | unnamed _ hconfig hname =>
      rw [Step.toolRequest?_of_readConfig _ hconfig, hname] at hcall
      cases hcall

/-! ## Numbering -/

namespace Execution

/-- **Spans are numbered without gaps.** Let spans be recorded and added, steps be served and
errors be caught in any order, on an execution whose spans are numbered from `first` — one that
begins is, from the number that its options give — and let 64 bits hold the numbers. Then the next
number is `first` and as many as there are spans, each span has the number of its place, and what
stood in the trace at any moment still stands there. What a step that calls a tool tells it as the
number of its span is the number of the span that the step adds; other steps tell tools nothing. -/
theorem spans_numbered (collaborators : Collaborators σ) (hrecord : collaborators.KeepsNumbers)
    {first : UInt64} {start : Execution σ} (hstart : start.context.NumberedFrom first)
    (events : List TraceEvent)
    (hfits :
      first.toNat + (start.performTracing collaborators events).context.spans.size < 2 ^ 64) :
    let now := start.performTracing collaborators events
    now.context.sequence.toNat = first.toNat + now.context.spans.size ∧
    (∀ (i : Nat) (span : Span), now.context.spans[i]? = some span →
      span.sequence.toNat = first.toNat + i) ∧
    (∀ before later, events = before ++ later →
      (start.performTracing collaborators before).context.spans.toList <+:
        now.context.spans.toList) ∧
    (∀ (step : Step) (found : Execution (σ × List ToolContext)),
      let after := (Event.serve step).perform collaborators.listening found
      (step.CallsTool found.context → ∃ place span, after.told = found.told ++ [place] ∧
        after.context.spans = found.context.spans.push span ∧ span.sequence = place.sequence) ∧
      (¬ step.CallsTool found.context → after.told = found.told)) ∧
    ∀ agent input options,
      (Context.initial agent input options).NumberedFrom options.initialSequence := by
  intro now
  have hnow : now.context.NumberedFrom first := numberedFrom_performTracing hrecord hstart events
  refine ⟨?_, fun i span hspan => ?_, fun before later hevents => ?_, fun step found => ?_,
    Context.numberedFrom_initial⟩
  · rw [hnow.sequence]
    exact toNat_add_ofNat hfits
  · obtain ⟨hi, -⟩ := Array.getElem?_eq_some_iff.mp hspan
    rw [hnow.span i span hspan]
    exact toNat_add_ofNat (Nat.lt_trans (Nat.add_lt_add_left hi _) hfits)
  · have hsplit : now =
        (start.performTracing collaborators before).performTracing collaborators later := by
      simp only [now, hevents, performTracing, List.foldl_append]
    rw [hsplit]
    exact spans_isPrefix_performTracing hrecord _ later
  · intro after
    rcases Event.perform_serve_cases collaborators.listening found step with
      ⟨hhandler, hafter⟩ | ⟨outcome, hserved, hafter⟩
    · have hcalls : ¬ step.CallsTool found.context := by
        rintro ⟨hkind, -⟩
        rw [hkind] at hhandler
        cases hhandler
      exact ⟨fun h => absurd h hcalls, fun _ => congrArg told hafter⟩
    · rw [show after = outcome.2 from hafter]
      rcases hserved.told_cases with ⟨hcalls, htold⟩ | ⟨hcalls, htold⟩
      · refine ⟨fun _ => ⟨found.context.toolContext, ?_⟩, fun h => absurd hcalls h⟩
        obtain ⟨span, htraces, hadds⟩ := hserved.leaves_of_callsTool hcalls
        exact ⟨span, htold, hadds.spans_eq, htraces.sequence_eq hrecord.listening⟩
      · exact ⟨fun h => absurd h hcalls, fun _ => htold⟩

/-- A span of the engine's, one from elsewhere and one that a tool supplies are numbered from 5 on.
The tool has been told 7. -/
theorem spans_numbered_from_five :
    let foreign : Span := .ofDraft "own" { sequence := 99 }
    let call : Step := { id := "call", kind := .tool, config := [("toolName", .string "search")] }
    let world : Playback := { outcomes := [.ok { result := .ok .null, span := some foreign }] }
    let start : Execution Playback := ⟨.initial {} {} { initialSequence := 5 }, world⟩
    let before := start.performTracing Playback.scripted [.record {}, .push foreign]
    let events : List TraceEvent := [.record {}, .push foreign, .happen (.serve call)]
    let now := start.performTracing Playback.scripted events
    let found : Execution (Playback × List ToolContext) := ⟨before.context, world, []⟩
    let after := (Event.serve call).perform Playback.scripted.listening found
    (5 : UInt64).toNat + now.context.spans.size < 2 ^ 64 ∧ now.context.spans.size = 3 ∧
      now.context.sequence.toNat = 8 ∧
      (∀ span, now.context.spans[1]? = some span → span.sequence.toNat = 6) ∧
      (∀ span, now.context.spans[2]? = some span → span.sequence.toNat = 7) ∧
      call.CallsTool found.context ∧
      ∃ place span, after.told = [place] ∧ place.sequence = 7 ∧
        after.context.spans = before.context.spans.push span ∧ span.sequence = 7 := by
  intro foreign call world start before events now found after
  have hsize : now.context.spans.size = 3 := rfl
  have hfits : (5 : UInt64).toNat + now.context.spans.size < 2 ^ 64 := by
    rw [hsize]
    decide
  have hcalls : call.CallsTool found.context := ⟨rfl, rfl⟩
  have hstart : start.context.NumberedFrom 5 :=
    Context.numberedFrom_initial {} {} { initialSequence := 5 }
  obtain ⟨hnext, hspans, -, hserve, -⟩ :=
    spans_numbered Playback.scripted (fun _ _ _ => rfl) hstart events hfits
  obtain ⟨place, span, htold, hpush, hspan⟩ := (hserve call found).1 hcalls
  have hplace : place.sequence = 7 := by
    have hseven : after.told.map ToolContext.sequence = [7] := rfl
    rw [htold] at hseven
    exact List.singleton_injective hseven
  rw [hsize] at hnext
  exact ⟨hfits, hsize, hnext, hspans 1, hspans 2, hcalls, place, span, htold, hplace, hpush,
    hspan.trans hplace⟩

end Execution

end AgentFlow
