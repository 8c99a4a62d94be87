import AgentFlow.Execution.Playback
import AgentFlow.Proofs.Execution.Itinerary

/-!
# One span for each step

The trace of a run is its itinerary: the spans and the steps correspond, one to one and in order,
except that a step of an unknown kind ends the run without a span. A span that the engine has
recorded names its step.
-/

namespace AgentFlow

/-- The recorder takes drafts as they are and gives them nothing but an identifier. -/
def Collaborators.RecordsAsDrafted {σ : Type} (collaborators : Collaborators σ) : Prop :=
  ∀ draft keep world, ∃ id, (collaborators.record draft keep world).1 = .ofDraft id draft

/-- The span carries the identity of the execution and names the step. -/
structure Span.Names (attemptId : String) (parentSpanId : Option String) (step : Step)
    (span : Span) : Prop where
  stepId : span.stepId = some step.id
  stepType : span.stepType = some step.kind.name
  attemptId : span.attemptId = attemptId
  parentSpanId : span.parentSpanId = parentSpanId

namespace Execution

variable {σ : Type} {collaborators : Collaborators σ} {step : Step} {execution : Execution σ}
  {span : Span}

/-- If the tool of the step has recorded a span, it is that one, renumbered. -/
theorem Traces.eq_of_supplied {supplied : Span} (h : execution.Traces collaborators step span)
    (hsupplied : execution.suppliedSpan? collaborators step = some supplied) :
    span = { supplied with sequence := execution.context.sequence } := by
  cases h with
  | supplied h =>
    rw [h] at hsupplied
    cases hsupplied
    rfl
  | recorded h =>
    rw [h] at hsupplied
    cases hsupplied

/-- A span that the engine has recorded names its step and its execution. -/
theorem Traces.names (h : execution.Traces collaborators step span)
    (hrecord : collaborators.RecordsAsDrafted)
    (hsupplied : execution.suppliedSpan? collaborators step = none) :
    span.Names execution.context.attemptId execution.context.parentSpanId step := by
  cases h with
  | supplied h =>
    rw [h] at hsupplied
    cases hsupplied
  | @recorded draft keep world _ hid htype hattempt hparent _ =>
    obtain ⟨id, hspan⟩ := hrecord draft keep world
    rw [hspan]
    exact ⟨hid, htype, hattempt, hparent⟩

end Execution

namespace Walk

variable {σ : Type} {collaborators : Collaborators σ} {flow : Flow}

/-- A walk that comes to a step of an unknown kind ends there, over just that. -/
theorem Ends.eq_unknownStepKind {handlers : Handlers σ} {step : Step} {walk after : Walk σ}
    {error : Option FlowError} (h : Ends collaborators handlers flow step walk error after)
    (hunknown : handlers step.kind = none) : error = some (.unknownStepKind step.kind.name) := by
  have hturn : (turn collaborators handlers step walk).1 =
      .fail (.unknownStepKind step.kind.name) := by
    simp only [turn, hunknown]
  cases h with
  | complete h =>
    rw [h] at hturn
    cases hturn
  | failed h =>
    rw [h] at hturn
    cases hturn
    rfl
  | astray h _ =>
    rw [h] at hturn
    cases hturn

/-- A step that a handler serves is not the cause of an end over an unknown kind. -/
theorem Ends.ne_unknownStepKind {step : Step} {walk after : Walk σ} {error : Option FlowError}
    {handler : Handler σ} (h : Ends collaborators .builtin flow step walk error after)
    (hserved : Handlers.builtin step.kind = some handler) (name : String) :
    error ≠ some (.unknownStepKind name) := by
  rintro rfl
  rcases h.error_cases with ⟨hunknown, -⟩ | h | ⟨message, h⟩ | ⟨id, -, -, h⟩
  · rw [hunknown] at hserved
    cases hserved
  · cases h
  · cases h
  · cases h

/-- The spans that a walk adds correspond to the steps that it takes; only a step of an unknown
kind, with which the walk ends, has none. -/
theorem exists_spans_of_itinerary (limit left : Nat) (step : Step) (walk : Walk σ) :
    let run := onward collaborators .builtin flow limit left step walk
    let visits := itinerary collaborators .builtin flow left step walk
    ∃ spans,
      run.2.execution.context.spans.toList = walk.execution.context.spans.toList ++ spans ∧
      ((∀ name, run.1 ≠ some (.unknownStepKind name)) → spans.length = visits.length) ∧
      (∀ name, run.1 = some (.unknownStepKind name) → spans.length + 1 = visits.length) ∧
      ∀ (k : Nat) (visit : Step × Walk σ) (span : Span), visits[k]? = some visit →
        spans[k]? = some span → visit.2.execution.Traces collaborators visit.1 span := by
  induction left generalizing step walk with
  | zero =>
    -- The limit has cut the walk off, and not an unknown kind.
    refine ⟨[], (List.append_nil _).symm, fun _ => rfl, fun name h => ?_, fun k visit span h => ?_⟩
    · cases h
    · cases h
  | succ left ih =>
    rcases moves_or_ends step walk with ⟨next, after, hmove⟩ | ⟨error, after, hends⟩
    · rw [onward_of_moves hmove, itinerary_of_moves hmove]
      obtain ⟨spans, hspans, hlength, hunknown, htraces⟩ := ih next after
      obtain ⟨id, htakes⟩ := hmove.takes
      obtain ⟨handler, hserved⟩ := hmove.served
      obtain ⟨span, htrace, hadds⟩ := htakes.leaves hserved
      refine ⟨span :: spans, ?_, fun h => ?_, fun name h => ?_,
        fun k visit other hvisit hother => ?_⟩
      · rw [hspans, hadds.spans_eq, Array.toList_push, List.append_assoc, List.singleton_append]
      · rw [List.length_cons, List.length_cons, hlength h]
      · rw [List.length_cons, List.length_cons, hunknown name h]
      · cases k with
        | zero =>
          cases hvisit
          cases hother
          exact htrace
        | succ k => exact htraces k visit other hvisit hother
    · rw [onward_of_ends hends, itinerary_of_ends hends]
      obtain ⟨t, htakes⟩ := hends.takes
      cases hhandler : (Handlers.builtin step.kind : Option (Handler σ)) with
      | none =>
        refine ⟨[], by rw [htakes.execution_eq hhandler, List.append_nil], fun h => ?_,
          fun _ _ => rfl, fun k visit span _ h => ?_⟩
        · exact absurd (hends.eq_unknownStepKind hhandler) (h _)
        · cases h
      | some handler =>
        obtain ⟨span, htrace, hadds⟩ := htakes.leaves hhandler
        refine ⟨[span], by rw [hadds.spans_eq, Array.toList_push], fun _ => rfl, fun name h => ?_,
          fun k visit other hvisit hother => ?_⟩
        · exact absurd h (hends.ne_unknownStepKind hhandler name)
        · cases k with
          | zero =>
            cases hvisit
            cases hother
            exact htrace
          | succ k => cases hvisit

/-- No step changes the identity of the execution. -/
theorem identity_of_mem_itinerary (left : Nat) (step : Step) (walk : Walk σ) :
    ∀ visit ∈ itinerary collaborators .builtin flow left step walk,
      visit.2.execution.context.attemptId = walk.execution.context.attemptId ∧
        visit.2.execution.context.parentSpanId = walk.execution.context.parentSpanId := by
  refine forall_mem_itinerary
    (P := fun _ reached => reached.execution.context.attemptId = walk.execution.context.attemptId ∧
      reached.execution.context.parentSpanId = walk.execution.context.parentSpanId)
    (fun _ _ _ _ ⟨hattempt, hparent⟩ hmove => ?_) left ⟨rfl, rfl⟩
  obtain ⟨id, htakes⟩ := hmove.takes
  obtain ⟨handler, hserved⟩ := hmove.served
  obtain ⟨span, -, hadds⟩ := htakes.leaves hserved
  exact ⟨hadds.attemptId_eq.trans hattempt, hadds.parentSpanId_eq.trans hparent⟩

end Walk

namespace Task

variable {σ : Type}

/-- **The trace is the walk.** Let a flow with steps be run with the built-in handlers and a
recorder that takes drafts as they are. The steps that the run counts are those of its itinerary.
The first is the first start step of the flow, or its first step if it has no start step, and from
each the run has gone on to one that it is connected to. They have left one span each, in their
order, except that a step of an unknown kind, over which the run ends, leaves none. A span that a
tool has supplied itself is taken over under the next number; every other names its step and
carries the identity that the options give. -/
theorem trace_is_itinerary (collaborators : Collaborators σ)
    (hrecord : collaborators.RecordsAsDrafted) (task : Task) (world : σ) (hflow : task.flow ≠ []) :
    let outcome := (task.run collaborators .builtin world).1
    let spans := outcome.result.spans
    let visits := task.itinerary collaborators .builtin world
    visits.length = outcome.result.stepsExecuted ∧
    (∀ first ∈ visits.head?, first.2 = task.begin world ∧
      (task.flow.find? (fun step => step.kind = .start) = some first.1 ∨
        (∀ step ∈ task.flow, step.kind ≠ .start) ∧ task.flow.head? = some first.1)) ∧
    (visits.IsChain fun visit next =>
      Walk.Moves collaborators .builtin task.flow visit.1 visit.2 next.1 next.2 ∧
        some next.1.id ∈ [visit.1.connections.next, visit.1.connections.onTrue,
          visit.1.connections.onFalse, visit.1.connections.onError]) ∧
    ((∀ name, outcome.error ≠ some (.unknownStepKind name)) → spans.length = visits.length) ∧
    (∀ name, outcome.error = some (.unknownStepKind name) → spans.length + 1 = visits.length) ∧
    ∀ (k : Nat) (visit : Step × Walk σ) (span : Span), visits[k]? = some visit →
      spans[k]? = some span →
      (visit.2.execution.suppliedSpan? collaborators visit.1 = none →
        span.Names task.options.attemptId task.options.parentSpanId visit.1) ∧
      ∀ supplied, visit.2.execution.suppliedSpan? collaborators visit.1 = some supplied →
        span = { supplied with sequence := visit.2.execution.context.sequence } := by
  intro outcome spans visits
  obtain ⟨entry, hentry⟩ := Flow.exists_entry? hflow
  let run := Walk.onward collaborators .builtin task.flow task.options.maxSteps
    task.options.maxSteps entry (task.begin world)
  have hvisits : visits = Walk.itinerary collaborators .builtin task.flow task.options.maxSteps
      entry (task.begin world) := by
    simp only [visits, itinerary, hentry]
  have houtcome : outcome = (run.2.outcome run.1 : Outcome) :=
    congrArg Prod.fst (run_eq_of_onward hentry rfl)
  have herror : outcome.error = run.1 := by rw [houtcome, Walk.outcome]
  obtain ⟨added, hadded, hlength, hunknown, htraces⟩ :=
    Walk.exists_spans_of_itinerary task.options.maxSteps task.options.maxSteps entry
      (task.begin world)
  have hspans : spans = added := by
    simp only [spans, houtcome, Walk.outcome]
    exact hadded
  rw [hvisits, herror, hspans]
  refine ⟨?_, ?_, ?_, hlength, hunknown, fun k visit span hvisit hspan => ?_⟩
  · rw [houtcome, Walk.outcome]
    exact ((Walk.stepsTaken_onward _ _ _ _).trans (Nat.zero_add _)).symm
  · intro first hfirst
    -- Without a step to take, the itinerary is empty and has no first visit.
    cases hmax : task.options.maxSteps with
    | zero =>
      rw [hmax] at hfirst
      cases hfirst
    | succ left =>
      rw [hmax] at hfirst
      cases hfirst
      exact ⟨rfl, Flow.entry?_eq_some_iff.mp hentry⟩
  · refine (Walk.isChain_itinerary _ _ _).imp fun visit next hmoves => ⟨hmoves, ?_⟩
    have hconnected := Step.mem_successors_iff.mp hmoves.id_mem_successors
    simpa only [List.mem_cons, List.not_mem_nil, or_false, eq_comm] using hconnected
  · have htrace := htraces k visit span hvisit hspan
    refine ⟨fun hsupplied => ?_, fun supplied hsupplied => htrace.eq_of_supplied hsupplied⟩
    obtain ⟨hattempt, hparent⟩ :=
      Walk.identity_of_mem_itinerary _ _ _ visit (List.mem_of_getElem? hvisit)
    have hnames := htrace.names hrecord hsupplied
    rw [hattempt, hparent] at hnames
    exact hnames

/-- A tool that supplies a span of its own, between a start step, which is declared last, and a
step of an unknown kind. -/
theorem trace_is_itinerary_up_to_unknown_kind :
    let task : Task :=
      { agent := {}
        flow :=
          [{ id := "odd", kind := .other "odd" },
            { id := "call", kind := .tool, config := [("toolName", .string "search")]
              connections := { next := some "odd" } },
            { id := "in", kind := .start, connections := { next := some "call" } }]
        input := {}
        options := { attemptId := "first" } }
    let supplied : Span := .ofDraft "own" { stepId := some "elsewhere", sequence := 7 }
    let world : Playback := { outcomes := [.ok { result := .ok .null, span := some supplied }] }
    let outcome := (task.run Playback.scripted .builtin world).1
    let visits := task.itinerary Playback.scripted .builtin world
    outcome.error = some (.unknownStepKind "odd") ∧
      visits.map (fun visit => visit.1.id) = ["in", "call", "odd"] ∧
      outcome.result.stepsExecuted = 3 ∧ outcome.result.spans.length = 2 ∧
      (∀ span, outcome.result.spans[0]? = some span → span.stepId = some "in") ∧
      ∀ span, outcome.result.spans[1]? = some span → span = { supplied with sequence := 1 } := by
  intro task supplied world outcome visits
  have herror : outcome.error = some (.unknownStepKind "odd") := rfl
  have hvisits : visits.map (fun visit => visit.1.id) = ["in", "call", "odd"] := rfl
  obtain ⟨hcount, -, -, -, hunknown, hspans⟩ :=
    trace_is_itinerary Playback.scripted (fun _ _ _ => ⟨_, rfl⟩) task world (List.cons_ne_nil _ _)
  have hlength := hunknown "odd" herror
  have hthree : visits.length = 3 := by rw [← List.length_map, hvisits]; rfl
  refine ⟨herror, hvisits, hcount.symm.trans hthree, Nat.succ.inj (hlength.trans hthree),
    fun span hspan => ?_, fun span hspan => ?_⟩
  · exact ((hspans 0 _ span rfl hspan).1 rfl).stepId
  · exact (hspans 1 _ span rfl hspan).2 supplied rfl

end Task

end AgentFlow
