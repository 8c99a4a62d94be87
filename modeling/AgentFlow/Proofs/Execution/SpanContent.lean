import AgentFlow.Execution.Playback
import AgentFlow.Proofs.Execution.ErrorEdge
import AgentFlow.Proofs.Execution.StepSpans

/-!
# What spans tell

The trace of a run is made of what its steps add (`Walk.spans_onward`). Of a step, the span that the
engine records tells two things: the value that the step has produced, as its output, and whether
something has gone wrong, as its error. If a tool has been called, it also has the arguments of the
call and the output of the tool, whatever they are.

For the error there are two rules. A span of a step that calls a tool repeats the message of the
tool's result, whether the result is a success or not. Every other span has an error exactly if its
step has failed. The two agree unless a tool fails without a message or succeeds with one
(`Task.span_tells_failure`).
-/

namespace AgentFlow

variable {σ : Type}

/-- What the built-in handler of a step answers, if there is one. -/
def Step.answer? (collaborators : Collaborators σ) (step : Step) (execution : Execution σ) :
    Option (Except FlowError StepResult) :=
  (Handlers.builtin step.kind : Option (Handler σ)).map fun handler =>
    (handler collaborators step execution).1

/-- The step fails: its handler reports a failure or throws an error. -/
def Step.Fails (collaborators : Collaborators σ) (step : Step) (execution : Execution σ) : Prop :=
  ∃ answer ∈ step.answer? collaborators execution, Handler.Fails answer

/-- What comes back from the call of a step, if the step calls a tool. -/
def Execution.toolOutcome? (collaborators : Collaborators σ) (step : Step)
    (execution : Execution σ) : Option ToolOutcome :=
  if step.kind = .tool then
    (step.toolRequest? execution.context).map fun request =>
      (execution.callTool collaborators request).1
  else none

/-- The span that a step of a walk adds to the trace, if it adds one. -/
def Walk.addedSpan? (collaborators : Collaborators σ) (handlers : Handlers σ)
    (visit : Step × Walk σ) : Option Span :=
  (turn collaborators handlers visit.1 visit.2).2.execution.context.spans[
    visit.2.execution.context.spans.size]?

/-- What a span says of the answer of a handler. A value is shown as the output. There is an error
exactly if a tool has been called that gave a message, or none has been called and the step has
failed. There is a result of a tool exactly if one has been called. -/
structure Span.Tells (outcome : Option ToolOutcome) (answer : Except FlowError StepResult)
    (span : Span) : Prop where
  output : ∀ result value, answer = .ok result → result.output = some value →
    span.output = value.shownText
  error : span.error.isSome ↔
    match outcome with
    | some outcome => outcome.result.error.isSome
    | none => Handler.Fails answer
  toolArgs : span.toolArgs ≠ some .null
  toolResult : span.toolResult = outcome.map fun outcome => outcome.result.output

/-! ## The outcome of a call -/

/-- The arguments of a call are an object, so never null. -/
theorem ToolConfig.arguments_request_ne_null (config : ToolConfig) (name : String)
    (context : Context) : (config.request name context).arguments ≠ .null :=
  nofun

namespace Execution

variable {collaborators : Collaborators σ} {step : Step} {execution after : Execution σ}

/-- Only tool steps have an outcome of a tool. -/
theorem toolOutcome?_of_kind {kind : StepKind} (hkind : step.kind = kind)
    (hne : kind ≠ .tool := by decide) : execution.toolOutcome? collaborators step = none :=
  if_neg (hkind ▸ hne)

/-- The outcome of a tool step is that of its call. -/
theorem toolOutcome?_of_callTool {config : ToolConfig} {name : String} {outcome : ToolOutcome}
    (hkind : step.kind = .tool) (hconfig : step.readConfig ToolConfig.read = .ok config)
    (hname : nonBlank? config.toolName = some name)
    (hcall : execution.callTool collaborators (config.request name execution.context) =
      (outcome, after)) :
    execution.toolOutcome? collaborators step = some outcome := by
  rw [toolOutcome?, if_pos hkind, Step.toolRequest?_of_readConfig _ hconfig, hname, Option.map_some,
    Option.map_some, hcall]

/-- A step whose handler throws has called no tool. -/
theorem toolOutcome?_of_served_error {error : FlowError}
    (h : Handler.Served collaborators step execution (.error error, after)) :
    execution.toolOutcome? collaborators step = none := by
  cases h with
  | refused hunreadable =>
    by_cases hkind : step.kind = .tool
    · rw [toolOutcome?, if_pos hkind, Step.toolRequest?_of_unreadable _ hkind hunreadable,
        Option.map_none]
    · exact if_neg hkind
  | unnamed hkind hconfig hname =>
    rw [toolOutcome?, if_pos hkind, Step.toolRequest?_of_readConfig _ hconfig, hname,
      Option.map_none, Option.map_none]

/-! ## Recorded spans -/

/-- Changes that keep the trace, and then a span with what its draft says of the answer. -/
theorem exists_span_record (hrecord : collaborators.RecordsAsDrafted)
    (hkeeps : execution.context.Keeps after.context) (draft : SpanDraft) :
    ∃ span, (after.record collaborators draft).context.spans =
        execution.context.spans.push span ∧
      span.output = draft.output ∧ span.error = draft.error ∧
      span.toolArgs = draft.toolArgs ∧ span.toolResult = draft.toolResult := by
  have hspans : (after.record collaborators draft).context.spans = execution.context.spans.push _ :=
    congrArg (fun spans : Array Span => spans.push _) hkeeps.spans_eq
  obtain ⟨id, hspan⟩ := hrecord _ _ _
  rw [hspan] at hspans
  exact ⟨_, hspans, rfl, rfl, rfl, rfl⟩

/-- A report adds no span. -/
theorem spans_reportError (step : Step) (text : String) (execution : Execution σ) :
    (execution.reportError step text).context.spans = execution.context.spans :=
  Context.Keeps.spans_eq (keeps_reportError step text execution)

end Execution

namespace Handler

variable {collaborators : Collaborators σ} {step : Step} {execution after : Execution σ}

/-- The span of a step that calls no tool, given its draft. -/
theorem exists_tells_record (hrecord : collaborators.RecordsAsDrafted)
    (hkeeps : execution.context.Keeps after.context) {draft : SpanDraft} {result : StepResult}
    {outcome : Option ToolOutcome} (hnone : outcome = none)
    (houtput : ∀ value, result.output = some value → draft.output = value.shownText)
    (herror : draft.error.isSome ↔ result.success = false)
    (htool : draft.toolArgs = none ∧ draft.toolResult = none := by exact ⟨rfl, rfl⟩) :
    ∃ span, (after.record collaborators draft).context.spans =
        execution.context.spans.push span ∧ span.Tells outcome (.ok result) := by
  obtain ⟨span, hspans, hspanOutput, hspanError, hspanArgs, hspanResult⟩ :=
    Execution.exists_span_record hrecord hkeeps draft
  refine ⟨span, hspans, ?_, ?_, ?_, ?_⟩
  · rintro _ value ⟨⟩ hvalue
    rw [hspanOutput, houtput value hvalue]
  · rw [hspanError, hnone]
    exact herror
  · rw [hspanArgs, htool.1]
    exact (Option.some_ne_none _).symm
  · rw [hspanResult, htool.2, hnone, Option.map_none]

/-- The span of a step that calls no tool and produces no value. -/
theorem exists_tells_record_of_no_output (hrecord : collaborators.RecordsAsDrafted)
    (hkeeps : execution.context.Keeps after.context) {draft : SpanDraft} {result : StepResult}
    {outcome : Option ToolOutcome} (hnone : outcome = none) (hsilent : result.output = none)
    (herror : draft.error.isSome ↔ result.success = false)
    (htool : draft.toolArgs = none ∧ draft.toolResult = none := by exact ⟨rfl, rfl⟩) :
    ∃ span, (after.record collaborators draft).context.spans =
        execution.context.spans.push span ∧ span.Tells outcome (.ok result) := by
  refine exists_tells_record hrecord hkeeps hnone (fun value hvalue => ?_) herror htool
  rw [hsilent] at hvalue
  cases hvalue

/-- The span of a step that calls a tool repeats its message. -/
theorem exists_tells_traceCall (hrecord : collaborators.RecordsAsDrafted)
    (hkeeps : execution.context.Keeps after.context) {request : ToolRequest}
    {outcome : ToolOutcome} (hspan : outcome.span = none) {result : StepResult}
    (hargs : request.arguments ≠ .null)
    (houtput : ∀ value, result.output = some value → outcome.result.output = value) :
    ∃ span, (after.traceCall collaborators step request outcome).context.spans =
        execution.context.spans.push span ∧ span.Tells (some outcome) (.ok result) := by
  obtain ⟨span, hspans, hspanOutput, hspanError, hspanArgs, hspanResult⟩ :=
    Execution.exists_span_record hrecord hkeeps
      ((step.draft .toolCall).called request outcome.result)
  refine ⟨span, ?_, ?_, ?_, ?_, hspanResult⟩
  · rw [← hspans]
    simp only [Execution.traceCall, hspan]
  · rintro _ value ⟨⟩ hvalue
    rw [hspanOutput, ← houtput value hvalue]
    rfl
  · rw [hspanError]
    exact Iff.rfl
  · rw [hspanArgs]
    exact fun h => hargs (Option.some.inj h)

/-- A step that is served without a throw leaves a span that tells of the answer, unless a tool
supplies it. -/
theorem Served.exists_tells {result : StepResult}
    (h : Served collaborators step execution (.ok result, after))
    (hrecord : collaborators.RecordsAsDrafted)
    (hsupplied : execution.suppliedSpan? collaborators step = none) :
    ∃ span, after.context.spans = execution.context.spans.push span ∧
      span.Tells (execution.toolOutcome? collaborators step) (.ok result) := by
  cases h with
  | started hkind =>
    exact exists_tells_record_of_no_output hrecord (Context.keeps_seed _ _)
      (Execution.toolOutcome?_of_kind hkind) rfl (by simp [Step.draft, StepResult.ok])
  | @answered config generation after hkind _ hask =>
    refine exists_tells_record hrecord ?_ (Execution.toolOutcome?_of_kind hkind) ?_
      (by simp [Step.draft, SpanDraft.generated, StepResult.ok])
    · rw [← Execution.context_of_generate hask]
      exact (Context.keeps_set _ _ _).trans (Context.keeps_set _ _ _)
    · rintro _ ⟨⟩
      rfl
  | unanswered hkind _ hask =>
    rw [Execution.spans_reportError]
    refine exists_tells_record_of_no_output hrecord ?_ (Execution.toolOutcome?_of_kind hkind) rfl
      (by simp [StepResult.failed])
    rw [Execution.context_of_generate hask]
    exact Context.keeps_refl _
  | called hkind hconfig hname hcall hsuccess =>
    rw [Execution.toolOutcome?_of_callTool hkind hconfig hname hcall]
    rw [Execution.suppliedSpan?_of_callTool hkind hconfig hname hcall] at hsupplied
    refine exists_tells_traceCall hrecord ?_ hsupplied
      (ToolConfig.arguments_request_ne_null _ _ _) ?_
    · rw [← Execution.context_of_callTool hcall]
      exact Context.keeps_storeResult _ _ _
    · rintro _ ⟨⟩
      rfl
  | calledInVain hkind hconfig hname hcall hfailure =>
    rw [Execution.toolOutcome?_of_callTool hkind hconfig hname hcall]
    rw [Execution.suppliedSpan?_of_callTool hkind hconfig hname hcall] at hsupplied
    refine exists_tells_traceCall hrecord ?_ hsupplied (ToolConfig.arguments_request_ne_null _ _ _)
      fun value hvalue => by cases hvalue
    rw [← Execution.context_of_callTool hcall]
    exact Context.keeps_storeResult _ _ _
  | decided hkind =>
    exact exists_tells_record_of_no_output hrecord (Context.keeps_refl _)
      (Execution.toolOutcome?_of_kind hkind) rfl (by simp [Step.draft, StepResult.ok])
  | undecided hkind =>
    exact exists_tells_record_of_no_output hrecord (Context.keeps_refl _)
      (Execution.toolOutcome?_of_kind hkind) rfl (by simp [StepResult.failed])
  | entered hkind =>
    exact exists_tells_record_of_no_output hrecord (Context.keeps_enterLoop _ _ _)
      (Execution.toolOutcome?_of_kind hkind) rfl (by simp [Step.draft, StepResult.ok])
  | exhausted hkind =>
    exact exists_tells_record_of_no_output hrecord (Context.keeps_leaveLoop _ _)
      (Execution.toolOutcome?_of_kind hkind) rfl (by simp [Step.draft, StepResult.ok])
  | concluded hkind =>
    refine exists_tells_record hrecord (Context.keeps_refl _) (Execution.toolOutcome?_of_kind hkind)
      ?_ (by simp [Step.draft, StepResult.ok])
    rintro _ ⟨⟩
    rfl

/-- A step that has called a tool fails exactly if the tool does. -/
theorem Served.fails_iff {answer : Except FlowError StepResult} {outcome : ToolOutcome}
    (h : Served collaborators step execution (answer, after))
    (houtcome : execution.toolOutcome? collaborators step = some outcome) :
    Fails answer ↔ outcome.result.success = false := by
  have hother {kind : StepKind} (hkind : step.kind = kind) (hne : kind ≠ .tool := by decide) :
      False := nomatch (Execution.toolOutcome?_of_kind hkind hne).symm.trans houtcome
  have hcalled {other : ToolOutcome}
      (hsome : execution.toolOutcome? collaborators step = some other) : other = outcome :=
    Option.some.inj (hsome.symm.trans houtcome)
  cases h with
  | refused hunreadable =>
    exact nomatch
      (Execution.toolOutcome?_of_served_error (.refused hunreadable)).symm.trans houtcome
  | unnamed hkind hconfig hname =>
    exact nomatch
      (Execution.toolOutcome?_of_served_error (.unnamed hkind hconfig hname)).symm.trans houtcome
  | called hkind hconfig hname hcall hsuccess =>
    obtain rfl := hcalled (Execution.toolOutcome?_of_callTool hkind hconfig hname hcall)
    rw [hsuccess]
    exact iff_of_false nofun nofun
  | calledInVain hkind hconfig hname hcall hfailure =>
    obtain rfl := hcalled (Execution.toolOutcome?_of_callTool hkind hconfig hname hcall)
    exact iff_of_true rfl hfailure
  | started hkind => exact (hother hkind).elim
  | answered hkind => exact (hother hkind).elim
  | unanswered hkind => exact (hother hkind).elim
  | decided hkind => exact (hother hkind).elim
  | undecided hkind => exact (hother hkind).elim
  | entered hkind => exact (hother hkind).elim
  | exhausted hkind => exact (hother hkind).elim
  | concluded hkind => exact (hother hkind).elim

end Handler

/-- The generation of a flow without steps: there is nothing to ask for, or the generator refuses,
which is told of by the error of a span, or its answer is the output of a span without error. No
tool is called. -/
theorem Execution.singlePrompt_cases {collaborators : Collaborators σ}
    (hrecord : collaborators.RecordsAsDrafted) (execution : Execution σ) :
    (∃ error, execution.singlePrompt collaborators = (.error error, execution)) ∨
    (∃ error after span, execution.singlePrompt collaborators = (.error error, after) ∧
      after.context.spans = execution.context.spans.push span ∧ span.error.isSome ∧
      span.toolArgs = none ∧ span.toolResult = none) ∨
    ∃ text after span, execution.singlePrompt collaborators = (.ok (.string text), after) ∧
      after.context.spans = execution.context.spans.push span ∧ span.output = text ∧
      span.error = none ∧ span.toolArgs = none ∧ span.toolResult = none := by
  cases hsystem : nonBlank? execution.context.agent.systemPrompt with
  | none => exact .inl ⟨.emptyFlow, by simp only [singlePrompt, hsystem]⟩
  | some system =>
    rcases hask : execution.generate collaborators (some system) execution.context.input.content
      with ⟨message | generation, asked⟩
    · have hkeeps : execution.context.Keeps asked.context := by
        rw [context_of_generate hask]
        exact Context.keeps_refl _
      obtain ⟨span, hspans, -, herror, htool⟩ := exists_span_record hrecord hkeeps
        { kind := .llmCall, input := execution.context.input.content
          modelId := some execution.context.agent.model, error := some message }
      refine .inr (.inl ⟨.generation message, _, span, ?_, hspans, by rw [herror]; rfl, htool⟩)
      simp only [singlePrompt, hsystem, hask]
    · have hkeeps : execution.context.Keeps asked.context := by
        rw [context_of_generate hask]
        exact Context.keeps_refl _
      let draft : SpanDraft := { kind := .llmCall, input := execution.context.input.content
                                 modelId := some execution.context.agent.model }
      obtain ⟨span, hspans, houtput, herror, htool⟩ :=
        exists_span_record hrecord hkeeps (draft.generated generation)
      refine .inr (.inr ⟨generation.text, (asked.record collaborators
        (draft.generated generation)).modify (.set "lastOutput" (.string generation.text)), span,
        ?_, hspans, houtput, herror, htool⟩)
      simp only [singlePrompt, hsystem, hask, draft]

namespace Walk

variable {collaborators : Collaborators σ} {flow : Flow}

/-! ## Spans of turns -/

/-- The span that a turn has pushed is the one that it has added. -/
theorem addedSpan?_of_spans_eq {handlers : Handlers σ} {visit : Step × Walk σ} {span : Span}
    (h : (turn collaborators handlers visit.1 visit.2).2.execution.context.spans =
      visit.2.execution.context.spans.push span) :
    addedSpan? collaborators handlers visit = some span := by
  rw [addedSpan?, h, Array.getElem?_push_size]

/-- A step of an unknown kind adds no span. -/
theorem addedSpan?_of_unknown {handlers : Handlers σ} {step : Step} {walk : Walk σ}
    (hunknown : handlers step.kind = none) :
    addedSpan? collaborators handlers (step, walk) = none := by
  have htakes : Takes collaborators handlers step walk _ _ := takes_turn step walk
  rw [addedSpan?, htakes.execution_eq hunknown]
  exact Array.getElem?_eq_none (Nat.le_refl _)

/-- A turn adds one span or, if no handler serves the step, none. -/
theorem spans_turn (collaborators : Collaborators σ) (step : Step) (walk : Walk σ) :
    (turn collaborators .builtin step walk).2.execution.context.spans.toList =
      walk.execution.context.spans.toList ++
        (addedSpan? collaborators .builtin (step, walk)).toList := by
  have htakes : Takes collaborators .builtin step walk _ _ := takes_turn step walk
  cases hhandler : (Handlers.builtin step.kind : Option (Handler σ)) with
  | none =>
    rw [htakes.execution_eq hhandler, addedSpan?_of_unknown hhandler, Option.toList_none,
      List.append_nil]
  | some handler =>
    obtain ⟨span, -, hadds⟩ := htakes.leaves hhandler
    have hsome : addedSpan? collaborators .builtin (step, walk) = some span :=
      addedSpan?_of_spans_eq hadds.spans_eq
    rw [hadds.spans_eq, hsome, Array.toList_push, Option.toList_some]

/-- What a walk adds to the trace is what its steps add, in their order. -/
theorem spans_onward (limit left : Nat) (step : Step) (walk : Walk σ) :
    (onward collaborators .builtin flow limit left step walk).2.execution.context.spans.toList =
      walk.execution.context.spans.toList ++
        (itinerary collaborators .builtin flow left step walk).filterMap
          (addedSpan? collaborators .builtin) := by
  induction left generalizing step walk with
  | zero => exact (List.append_nil _).symm
  | succ left ih =>
    have hturn := spans_turn collaborators step walk
    rcases moves_or_ends step walk with ⟨next, after, hmove⟩ | ⟨error, after, hends⟩
    · obtain ⟨id, hgoOn, -⟩ := hmove.leads
      rw [hgoOn] at hturn
      rw [onward_of_moves hmove, itinerary_of_moves hmove, ih, hturn, List.filterMap_cons]
      cases addedSpan? collaborators .builtin (step, walk) <;> simp
    · rw [hends.turn_snd] at hturn
      rw [onward_of_ends hends, itinerary_of_ends hends, hturn, List.filterMap_cons]
      cases addedSpan? collaborators .builtin (step, walk) <;> simp

/-- The engine's span of a step tells of what its handler has answered. -/
theorem tells_of_addedSpan? (hrecord : collaborators.RecordsAsDrafted) {step : Step}
    {walk : Walk σ} (hsupplied : walk.execution.suppliedSpan? collaborators step = none)
    {answer : Except FlowError StepResult}
    (hanswer : step.answer? collaborators walk.execution = some answer) :
    ∃ span, addedSpan? collaborators .builtin (step, walk) = some span ∧
      span.Tells (walk.execution.toolOutcome? collaborators step) answer := by
  obtain ⟨handler, hhandler, hcall⟩ := Option.map_eq_some_iff.mp hanswer
  have hserved : Handler.Served collaborators step walk.execution _ :=
    Handler.served_of_builtin hhandler
  rcases hresult : handler collaborators step walk.execution with ⟨error | result, execution⟩
  · rw [hresult] at hcall hserved
    subst hcall
    have hturn : (turn collaborators .builtin step walk).2.execution =
        (catchError collaborators step error execution).2 := by
      simp only [turn, hhandler, hresult]
    obtain rfl : execution = walk.execution := hserved.eq_of_error
    obtain ⟨span, hspans, -, herror, hargs, hresult⟩ := Execution.exists_span_record hrecord
      (Context.keeps_refl walk.execution.context)
      { step.draft .reasoning with error := some error.message }
    have hoff := Execution.toolOutcome?_of_served_error hserved
    refine ⟨span, addedSpan?_of_spans_eq ?_, fun result value hok => ?_, ?_, ?_, ?_⟩
    · rw [hturn, catchError_snd, Execution.spans_reportError, hspans]
    · cases hok
    · rw [herror, hoff]
      exact iff_of_true rfl trivial
    · rw [hargs]
      exact (Option.some_ne_none _).symm
    · rw [hresult, hoff]
      rfl
  · rw [hresult] at hcall hserved
    subst hcall
    have hturn : (turn collaborators .builtin step walk).2.execution = execution := by
      simp only [turn, hhandler, hresult]
    obtain ⟨span, hspans, htells⟩ := hserved.exists_tells hrecord hsupplied
    exact ⟨span, addedSpan?_of_spans_eq (by rw [hturn, hspans]), htells⟩

end Walk

namespace Task

/-! ## Spans of runs -/

/-- The trace of a flow with steps is what the steps of its run have added, in their order. -/
theorem spans_run (collaborators : Collaborators σ) {task : Task} (world : σ)
    (hflow : task.flow ≠ []) :
    (task.run collaborators .builtin world).1.result.spans =
      (task.itinerary collaborators .builtin world).filterMap
        (Walk.addedSpan? collaborators .builtin) := by
  obtain ⟨entry, hentry⟩ := Flow.exists_entry? hflow
  rw [run_eq_of_onward hentry rfl]
  simp only [itinerary, hentry]
  exact Walk.spans_onward _ _ _ _

/-- One span behind the beginning is all of the trace. -/
theorem toList_spans_of_push {task : Task} {world : σ} {after : Execution σ} {span : Span}
    (h : after.context.spans = (task.begin world).execution.context.spans.push span) :
    after.context.spans.toList = [span] := by
  rw [h, Array.toList_push]
  rfl

/-- A flow without steps leaves at most the span of its generation, which has the answer as output
if there is one, and an error if not. -/
theorem run_of_no_steps {collaborators : Collaborators σ}
    (hrecord : collaborators.RecordsAsDrafted) {task : Task} (world : σ) (hflow : task.flow = []) :
    let result := (task.run collaborators .builtin world).1.result
    result.success = false ∧ result.output = "" ∧
        (∀ span ∈ result.spans, span.error.isSome) ∨
      result.success = true ∧ ∃ span, result.spans = [span] ∧ span.output = result.output ∧
        span.error = none := by
  have hentry : task.flow.entry? = none := Flow.entry?_of_eq_nil hflow
  simp only [run, walk, hentry]
  rcases Execution.singlePrompt_cases hrecord (task.begin world).execution with
    ⟨error, h⟩ | ⟨error, after, span, h, hpush, herror, -⟩ |
      ⟨text, after, span, h, hpush, houtput, herror, -⟩
  · simp only [h, Walk.outcome]
    exact .inl ⟨rfl, rfl, fun span hspan => absurd hspan List.not_mem_nil⟩
  · simp only [h, Walk.outcome, toList_spans_of_push hpush]
    exact .inl ⟨rfl, rfl, List.forall_mem_singleton.mpr herror⟩
  · simp only [h, Walk.outcome, toList_spans_of_push hpush]
    exact .inr ⟨rfl, span, rfl, houtput, herror⟩

/-- A flow without steps calls no tool. -/
theorem spans_of_no_steps {collaborators : Collaborators σ}
    (hrecord : collaborators.RecordsAsDrafted) {task : Task} (world : σ) (hflow : task.flow = []) :
    ∀ span ∈ (task.run collaborators .builtin world).1.result.spans,
      span.toolArgs = none ∧ span.toolResult = none := by
  have hentry : task.flow.entry? = none := Flow.entry?_of_eq_nil hflow
  simp only [run, walk, hentry]
  rcases Execution.singlePrompt_cases hrecord (task.begin world).execution with
    ⟨error, h⟩ | ⟨error, after, span, h, hpush, -, htool⟩ |
      ⟨text, after, span, h, hpush, -, -, htool⟩
  · simp only [h, Walk.outcome]
    exact fun span hspan => absurd hspan List.not_mem_nil
  · simp only [h, Walk.outcome, toList_spans_of_push hpush]
    exact List.forall_mem_singleton.mpr htool
  · simp only [h, Walk.outcome, toList_spans_of_push hpush]
    exact List.forall_mem_singleton.mpr htool

/-- **What a span tells of failure.** In a run with the built-in handlers and a recorder that takes
drafts as they are, a span that no tool has supplied has an error exactly if its step has failed —
but for a step that has called a tool this is so exactly if the tool has given a message with a
failure and none with a success. The span of a flow without steps has an error exactly if the run
fails. -/
theorem span_tells_failure (collaborators : Collaborators σ)
    (hrecord : collaborators.RecordsAsDrafted) (task : Task) (world : σ) :
    let result := (task.run collaborators .builtin world).1.result
    let visits := task.itinerary collaborators .builtin world
    (task.flow ≠ [] →
      result.spans = visits.filterMap (Walk.addedSpan? collaborators .builtin)) ∧
    (∀ visit ∈ visits, visit.2.execution.suppliedSpan? collaborators visit.1 = none →
      ∀ span ∈ Walk.addedSpan? collaborators .builtin visit,
        ((span.error.isSome ↔ visit.1.Fails collaborators visit.2.execution) ↔
          ∀ outcome ∈ visit.2.execution.toolOutcome? collaborators visit.1,
            (outcome.result.error.isSome ↔ outcome.result.success = false))) ∧
    (task.flow = [] → ∀ span ∈ result.spans, (span.error.isSome ↔ result.success = false)) := by
  intro result visits
  refine ⟨spans_run collaborators world, fun visit hvisit hsupplied span hspan => ?_,
    fun hflow span hspan => ?_⟩
  · obtain ⟨step, walk⟩ := visit
    cases hhandler : (Handlers.builtin step.kind : Option (Handler σ)) with
    | none => exact nomatch (Walk.addedSpan?_of_unknown hhandler).symm.trans hspan
    | some handler =>
      have hserved : Handler.Served collaborators step walk.execution _ :=
        Handler.served_of_builtin hhandler
      have hanswer : step.answer? collaborators walk.execution =
          some (handler collaborators step walk.execution).1 := by
        rw [Step.answer?, hhandler, Option.map_some]
      obtain ⟨told, htold, htells⟩ := Walk.tells_of_addedSpan? hrecord hsupplied hanswer
      obtain rfl : told = span := Option.some.inj (htold.symm.trans hspan)
      have hfails : step.Fails collaborators walk.execution ↔
          Handler.Fails (handler collaborators step walk.execution).1 := by
        simp only [Step.Fails, hanswer, Option.mem_some_iff, exists_eq_left']
      have herror := htells.error
      dsimp only
      cases houtcome : walk.execution.toolOutcome? collaborators step with
      | none =>
        rw [houtcome] at herror
        exact iff_of_true (herror.trans hfails.symm) fun outcome h => nomatch h
      | some outcome =>
        rw [houtcome] at herror
        rw [hfails, hserved.fails_iff houtcome, herror]
        simp only [Option.mem_some_iff, forall_eq']
  · rcases run_of_no_steps hrecord world hflow with
      ⟨hsuccess, -, herrors⟩ | ⟨hsuccess, only, hspans, -, herror⟩
    · exact iff_of_true (herrors span hspan) hsuccess
    · have hspan : span ∈ (task.run collaborators .builtin world).1.result.spans := hspan
      rw [hspans, List.mem_singleton] at hspan
      rw [show result.success = true from hsuccess, hspan, herror]
      exact iff_of_false nofun nofun

/-- A tool fails with a message, and the output step behind it does not fail. -/
theorem span_tells_failure_of_refusal :
    let call : Step := { id := "call", kind := .tool, config := [("toolName", .string "search")],
                         connections := { onError := some "out" } }
    let task : Task :=
      { agent := {}, flow := [call, { id := "out", kind := .output }], input := {}, options := {} }
    let world : Playback := { outcomes := [.error "down"] }
    let visits := task.itinerary Playback.scripted .builtin world
    let spans := (task.run Playback.scripted .builtin world).1.result.spans
    visits.map (fun visit => visit.1.id) = ["call", "out"] ∧ spans.length = 2 ∧
      ∀ (i : Nat) (visit : Step × Walk Playback) (span : Span),
        visits[i]? = some visit → spans[i]? = some span →
        (span.error.isSome ↔ visit.1.Fails Playback.scripted visit.2.execution) := by
  intro call task world visits spans
  obtain ⟨-, hvisits, -⟩ :=
    span_tells_failure Playback.scripted (fun _ _ _ => ⟨_, rfl⟩) task world
  refine ⟨rfl, rfl, fun i visit span hvisit hspan => ?_⟩
  have htells := hvisits visit (List.mem_of_getElem? hvisit)
  rcases i with _ | _ | i
  · cases hvisit
    cases hspan
    refine (htells rfl _ rfl).mpr fun outcome houtcome => ?_
    cases houtcome
    exact iff_of_true rfl rfl
  · cases hvisit
    cases hspan
    refine (htells rfl _ rfl).mpr fun outcome houtcome => ?_
    cases houtcome
  · cases hvisit

/-- A tool that succeeds with a message leaves a span with an error, and one that fails without a
message a span without. -/
theorem span_tells_message_of_tool :
    let task : Task :=
      { agent := {}
        flow :=
          [{ id := "first", kind := .tool, config := [("toolName", .string "search")],
             connections := { next := some "second" } },
            { id := "second", kind := .tool, config := [("toolName", .string "search")] }]
        input := {}
        options := {} }
    let world : Playback :=
      { outcomes := [.ok { result := ⟨true, .string "found", some "slow"⟩ },
          .ok { result := ⟨false, .null, none⟩ }] }
    let visits := task.itinerary Playback.scripted .builtin world
    let spans := (task.run Playback.scripted .builtin world).1.result.spans
    visits.map (fun visit => visit.1.id) = ["first", "second"] ∧
      (∀ visit ∈ visits, visit.2.execution.suppliedSpan? Playback.scripted visit.1 = none) ∧
      spans.map Span.error = [some "slow", none] ∧
      (∀ visit, visits[0]? = some visit →
        ¬ visit.1.Fails Playback.scripted visit.2.execution) ∧
      ∀ visit, visits[1]? = some visit →
        visit.1.Fails Playback.scripted visit.2.execution := by
  intro task world visits spans
  refine ⟨rfl, ?_, rfl, fun visit hvisit => ?_, fun visit hvisit => ?_⟩
  · rw [show visits = [_, _] from rfl, List.forall_mem_cons, List.forall_mem_singleton]
    exact ⟨rfl, rfl⟩
  · cases hvisit
    rintro ⟨answer, ⟨⟩, hfails⟩
    cases hfails
  · cases hvisit
    exact ⟨_, rfl, rfl⟩

end Task

end AgentFlow
