import AgentFlow.Proofs.Execution.Service
import AgentFlow.Proofs.Flow.Graph

/-!
# What handlers do to an execution

The built-in handlers have two things in common. A handler that throws does so over the settings of
its step, before it has done anything: the execution is left as it was. A handler that returns has
added exactly one span to the trace, and apart from the trace it has changed nothing in the context
but variables and the states of loops; it leads nowhere but along the connections of its step.

`Handler.Tidy` says so of one call of a handler, and `tidy_of_builtin` that it holds of all of them.
Whose the span is, is said by `Execution.Traces`.
-/

namespace AgentFlow

/-- The causes that lie in the settings of a step. -/
inductive FlowError.OfSettings (step : Step) : FlowError → Prop where
  | invalid (message : String) : OfSettings step (.invalidConfig step.id message)
  /-- Only a tool step throws over a setting that is missing. -/
  | missing {config : ToolConfig} (hkind : step.kind = .tool)
    (hconfig : step.readConfig ToolConfig.read = .ok config)
    (hname : nonBlank? config.toolName = none) :
    OfSettings step (.missingConfig step.id "toolName")

namespace Step

/-- Settings that cannot be read are named with their step. -/
theorem exists_eq_invalidConfig_of_readConfig {α : Type} {step : Step} {read : Reader α}
    {error : FlowError} (h : step.readConfig read = .error error) :
    ∃ message, error = .invalidConfig step.id message := by
  unfold readConfig at h
  cases hread : read .json (.value (.object step.config)) with
  | error cause =>
    rw [hread] at h
    cases h
    exact ⟨cause.message, rfl⟩
  | ok a =>
    rw [hread] at h
    cases h

/-- Whatever the kind, settings that cannot be read are named with their step. -/
theorem Unreadable.exists_eq_invalidConfig {step : Step} {error : FlowError}
    (h : step.Unreadable error) : ∃ message, error = .invalidConfig step.id message := by
  unfold Unreadable at h
  split at h
  · exact exists_eq_invalidConfig_of_readConfig h
  · exact exists_eq_invalidConfig_of_readConfig h
  · exact exists_eq_invalidConfig_of_readConfig h
  · exact exists_eq_invalidConfig_of_readConfig h
  · exact exists_eq_invalidConfig_of_readConfig h
  · exact h.elim
  · exact h.elim

/-- What a tool step asks of its tool, if its settings allow for a call. -/
def toolRequest? (step : Step) (context : Context) : Option ToolRequest :=
  match step.readConfig ToolConfig.read with
  | .error _ => none
  | .ok config => (nonBlank? config.toolName).map fun name => config.request name context

/-- A tool step whose settings cannot be read asks for nothing. -/
theorem toolRequest?_of_unreadable {step : Step} {error : FlowError} (context : Context)
    (hkind : step.kind = .tool) (h : step.Unreadable error) : step.toolRequest? context = none := by
  rw [Unreadable, hkind] at h
  -- Lean is slow to prove the equation of this function, so its body is taken as it is.
  delta toolRequest?
  rw [h]

/-- A tool step asks for the tool that its settings name. -/
theorem toolRequest?_of_readConfig {step : Step} {config : ToolConfig} (context : Context)
    (h : step.readConfig ToolConfig.read = .ok config) :
    step.toolRequest? context =
      (nonBlank? config.toolName).map fun name => config.request name context := by
  delta toolRequest?
  rw [h]

end Step

/-! ## Frames -/

namespace Context

/-- Nothing has changed but variables and the states of loops. -/
def Keeps (before after : Context) : Prop :=
  ∃ vars loops, after = { before with vars, loops }

/-- One span has been added under the next number; otherwise nothing has changed but variables and
the states of loops. -/
def Adds (span : Span) (before after : Context) : Prop :=
  ∃ vars loops, after =
    { before with
      vars, loops
      spans := before.spans.push span
      sequence := before.sequence + 1 }

theorem keeps_refl (context : Context) : context.Keeps context :=
  ⟨_, _, rfl⟩

theorem keeps_set (name : String) (value : Json) (context : Context) :
    context.Keeps (context.set name value) :=
  ⟨_, _, rfl⟩

theorem keeps_seed (given : Option (Fields Json)) (context : Context) :
    context.Keeps (context.seed given) :=
  ⟨_, _, rfl⟩

theorem keeps_leaveLoop (id : String) (context : Context) : context.Keeps (context.leaveLoop id) :=
  ⟨_, _, rfl⟩

theorem Keeps.trans {first second third : Context} (h : first.Keeps second)
    (h' : second.Keeps third) : first.Keeps third := by
  obtain ⟨_, _, rfl⟩ := h
  obtain ⟨vars, loops, rfl⟩ := h'
  exact ⟨vars, loops, rfl⟩

/-- A round of a loop changes variables and its state. -/
theorem keeps_enterLoop (id : String) (state : LoopState) (context : Context) :
    context.Keeps (context.enterLoop id state) := by
  unfold enterLoop
  split <;> exact ⟨_, _, rfl⟩

/-- A result is stored in variables. -/
theorem keeps_storeResult (outputVariable : Option String) (result : ToolResult)
    (context : Context) : context.Keeps (context.storeResult outputVariable result) := by
  unfold storeResult
  split
  · split <;> exact ⟨_, _, rfl⟩
  · exact ⟨_, _, rfl⟩

/-- A span that is pushed gets the next number. -/
theorem adds_push (span : Span) (context : Context) :
    context.Adds { span with sequence := context.sequence } (context.push span) :=
  ⟨_, _, rfl⟩

variable {span : Span} {first second third : Context}

/-- What has been kept up to a span is kept behind it. -/
theorem Keeps.adds (h : first.Keeps second) (h' : second.Adds span third) :
    first.Adds span third := by
  obtain ⟨_, _, rfl⟩ := h
  obtain ⟨vars, loops, rfl⟩ := h'
  exact ⟨vars, loops, rfl⟩

/-- What is kept behind a span does not change it. -/
theorem Adds.keeps (h : first.Adds span second) (h' : second.Keeps third) :
    first.Adds span third := by
  obtain ⟨_, _, rfl⟩ := h
  obtain ⟨vars, loops, rfl⟩ := h'
  exact ⟨vars, loops, rfl⟩

/-- No span has been added. -/
theorem Keeps.spans_eq (h : first.Keeps second) : second.spans = first.spans := by
  obtain ⟨_, _, rfl⟩ := h
  rfl

/-- The span has been added at the end. -/
theorem Adds.spans_eq (h : first.Adds span second) : second.spans = first.spans.push span := by
  obtain ⟨_, _, rfl⟩ := h
  rfl

theorem Adds.attemptId_eq (h : first.Adds span second) : second.attemptId = first.attemptId := by
  obtain ⟨_, _, rfl⟩ := h
  rfl

theorem Adds.parentSpanId_eq (h : first.Adds span second) :
    second.parentSpanId = first.parentSpanId := by
  obtain ⟨_, _, rfl⟩ := h
  rfl

end Context

/-! ## Spans of steps -/

namespace Execution

variable {σ : Type}

/-- The span that the tool of a step records itself, if the step calls one that does. -/
def suppliedSpan? (collaborators : Collaborators σ) (step : Step) (execution : Execution σ) :
    Option Span :=
  if step.kind = .tool then
    (step.toolRequest? execution.context).bind fun request =>
      (execution.callTool collaborators request).1.span
  else none

/-- A span tells of a step that is served in this execution. Either the tool of the step has
recorded it, and it is renumbered; or a recorder has made it of a draft that names the step and
carries the identity and the next number of the execution. -/
inductive Traces (collaborators : Collaborators σ) (step : Step) (execution : Execution σ) :
    Span → Prop where
  | supplied {span : Span} (h : execution.suppliedSpan? collaborators step = some span) :
    Traces collaborators step execution { span with sequence := execution.context.sequence }
  | recorded {draft : SpanDraft} {keep : Bool} {world : σ}
    (h : execution.suppliedSpan? collaborators step = none)
    (hid : draft.stepId = some step.id) (htype : draft.stepType = some step.kind.name)
    (hattempt : draft.attemptId = execution.context.attemptId)
    (hparent : draft.parentSpanId = execution.context.parentSpanId)
    (hsequence : draft.sequence = execution.context.sequence) :
    Traces collaborators step execution (collaborators.record draft keep world).1

variable {collaborators : Collaborators σ} {step : Step} {execution : Execution σ}

/-- Only tools bring spans of their own. -/
theorem suppliedSpan?_of_kind {kind : StepKind} (hkind : step.kind = kind)
    (hne : kind ≠ .tool := by decide) : execution.suppliedSpan? collaborators step = none :=
  if_neg (hkind ▸ hne)

/-- Without a call there is no span of a tool. -/
theorem suppliedSpan?_of_toolRequest? (h : step.toolRequest? execution.context = none) :
    execution.suppliedSpan? collaborators step = none := by
  rw [suppliedSpan?, h]
  exact ite_self none

/-- The span of a tool comes with its outcome. -/
theorem suppliedSpan?_of_callTool {config : ToolConfig} {name : String} {outcome : ToolOutcome}
    {after : Execution σ} (hkind : step.kind = .tool)
    (hconfig : step.readConfig ToolConfig.read = .ok config)
    (hname : nonBlank? config.toolName = some name)
    (hcall : execution.callTool collaborators (config.request name execution.context) =
      (outcome, after)) :
    execution.suppliedSpan? collaborators step = outcome.span := by
  rw [suppliedSpan?, if_pos hkind, Step.toolRequest?_of_readConfig _ hconfig, hname,
    Option.map_some, Option.bind_some, hcall]

/-- A step leaves a span: one that tells of it is added to the trace, and nothing else changes but
variables and the states of loops. -/
def Leaves (collaborators : Collaborators σ) (step : Step) (execution after : Execution σ) : Prop :=
  ∃ span, execution.Traces collaborators step span ∧ execution.context.Adds span after.context

/-- What is changed behind the span, the trace aside, does not matter. -/
theorem Leaves.keeps {after last : Execution σ} (h : execution.Leaves collaborators step after)
    (hkeeps : after.context.Keeps last.context) : execution.Leaves collaborators step last := by
  obtain ⟨span, htraces, hadds⟩ := h
  exact ⟨span, htraces, hadds.keeps hkeeps⟩

/-- Changes that keep the trace, and then a span of the engine's that names the step. -/
theorem leaves_record {after : Execution σ} {draft : SpanDraft}
    (hkeeps : execution.context.Keeps after.context)
    (hsupplied : execution.suppliedSpan? collaborators step = none)
    (hid : draft.stepId = some step.id) (htype : draft.stepType = some step.kind.name) :
    execution.Leaves collaborators step (after.record collaborators draft) := by
  have hadds : after.context.Adds _ (after.record collaborators draft).context := ⟨_, _, rfl⟩
  refine ⟨_, ?_, hkeeps.adds hadds⟩
  obtain ⟨vars, loops, hcontext⟩ := hkeeps
  refine .recorded hsupplied hid htype ?_ ?_ ?_ <;> simp only [hcontext]

/-- The span of a call is the tool's if it has brought one, and the engine's otherwise. -/
theorem leaves_traceCall {after : Execution σ} {request : ToolRequest} {outcome : ToolOutcome}
    (hkeeps : execution.context.Keeps after.context)
    (hsupplied : execution.suppliedSpan? collaborators step = outcome.span) :
    execution.Leaves collaborators step (after.traceCall collaborators step request outcome) := by
  unfold traceCall
  cases hspan : outcome.span with
  | none => exact leaves_record hkeeps (hsupplied.trans hspan) rfl rfl
  | some span =>
    refine ⟨_, .supplied (hsupplied.trans hspan), ?_⟩
    have hadds := hkeeps.adds (Context.adds_push span after.context)
    obtain ⟨vars, loops, hcontext⟩ := hkeeps
    rw [show after.context.sequence = execution.context.sequence by rw [hcontext]] at hadds
    exact hadds

/-- A report is stored in a variable. -/
theorem keeps_reportError (step : Step) (text : String) (execution : Execution σ) :
    execution.context.Keeps (execution.reportError step text).context := by
  unfold reportError
  split
  · exact Context.keeps_set _ _ _
  · exact Context.keeps_refl _

end Execution

/-! ## Tidy handlers -/

namespace Handler

variable {σ : Type}

/-- What may come of a call: either the settings of the step are at fault and nothing has happened,
or there is a result, which leads to a step that this one is connected to if it leads anywhere, and
one more span. -/
inductive Tidy (collaborators : Collaborators σ) (step : Step) (execution : Execution σ) :
    Except FlowError StepResult × Execution σ → Prop where
  | refused {error : FlowError} (h : error.OfSettings step)
    (hsupplied : execution.suppliedSpan? collaborators step = none) :
    Tidy collaborators step execution (.error error, execution)
  | served {result : StepResult} {after : Execution σ}
    (hleaves : execution.Leaves collaborators step after)
    (hnext : ∀ id, result.next = some id → id ∈ step.successors) :
    Tidy collaborators step execution (.ok result, after)

variable {collaborators : Collaborators σ} {step : Step} {execution : Execution σ}

/-- A handler that throws does so over the settings of its step, before it has done anything. -/
theorem Served.ofSettings {error : FlowError} {after : Execution σ}
    (h : Served collaborators step execution (.error error, after)) :
    after = execution ∧ error.OfSettings step ∧
      execution.suppliedSpan? collaborators step = none := by
  cases h with
  | refused hunreadable =>
    obtain ⟨message, rfl⟩ := hunreadable.exists_eq_invalidConfig
    refine ⟨rfl, .invalid message, ?_⟩
    by_cases hkind : step.kind = .tool
    · exact Execution.suppliedSpan?_of_toolRequest?
        (Step.toolRequest?_of_unreadable _ hkind hunreadable)
    · exact Execution.suppliedSpan?_of_kind rfl hkind
  | unnamed hkind hconfig hname =>
    refine ⟨rfl, .missing hkind hconfig hname, Execution.suppliedSpan?_of_toolRequest? ?_⟩
    rw [Step.toolRequest?_of_readConfig _ hconfig, hname, Option.map_none]

section

variable {result : StepResult} {after : Execution σ}

/-- A handler that returns has recorded one span for its step. Only tools bring spans of their own;
the others change what they change and then record theirs. -/
theorem Served.leaves (h : Served collaborators step execution (.ok result, after)) :
    execution.Leaves collaborators step after := by
  have hrecord {kind : StepKind} {changed : Execution σ} {draft : SpanDraft}
      (hkind : step.kind = kind) (hne : kind ≠ .tool)
      (hkeeps : execution.context.Keeps changed.context) (hid : draft.stepId = some step.id)
      (htype : draft.stepType = some step.kind.name) :
      execution.Leaves collaborators step (changed.record collaborators draft) :=
    Execution.leaves_record hkeeps (Execution.suppliedSpan?_of_kind hkind hne) hid htype
  cases h with
  | started hkind => exact hrecord hkind nofun (Context.keeps_seed _ _) rfl rfl
  | answered hkind _ hask =>
    refine hrecord hkind nofun ?_ rfl rfl
    rw [← Execution.context_of_generate hask]
    exact (Context.keeps_set _ _ _).trans (Context.keeps_set _ _ _)
  | unanswered hkind _ hask =>
    refine .keeps (hrecord hkind nofun ?_ rfl rfl) (Execution.keeps_reportError _ _ _)
    rw [Execution.context_of_generate hask]
    exact Context.keeps_refl _
  | called hkind hconfig hname hcall =>
    refine Execution.leaves_traceCall ?_
      (Execution.suppliedSpan?_of_callTool hkind hconfig hname hcall)
    rw [← Execution.context_of_callTool hcall]
    exact Context.keeps_storeResult _ _ _
  | calledInVain hkind hconfig hname hcall =>
    refine Execution.leaves_traceCall ?_
      (Execution.suppliedSpan?_of_callTool hkind hconfig hname hcall)
    rw [← Execution.context_of_callTool hcall]
    exact Context.keeps_storeResult _ _ _
  | decided hkind => exact hrecord hkind nofun (Context.keeps_refl _) rfl rfl
  | undecided hkind => exact hrecord hkind nofun (Context.keeps_refl _) rfl rfl
  | entered hkind => exact hrecord hkind nofun (Context.keeps_enterLoop _ _ _) rfl rfl
  | exhausted hkind => exact hrecord hkind nofun (Context.keeps_leaveLoop _ _) rfl rfl
  | concluded hkind => exact hrecord hkind nofun (Context.keeps_refl _) rfl rfl

/-- A handler leads nowhere but along the connections of its step. -/
theorem Served.mem_successors (h : Served collaborators step execution (.ok result, after))
    {id : String} (hid : result.next = some id) : id ∈ step.successors := by
  rw [Step.mem_successors_iff]
  cases h with
  | started => exact .inl hid
  | answered => exact .inl hid
  | unanswered => exact .inr (.inr (.inr hid))
  | called => exact .inl hid
  | calledInVain => exact .inr (.inr (.inr hid))
  | @decided condition =>
    cases hholds : Condition.holds condition execution.context.vars with
    | true =>
      rw [hholds] at hid
      exact .inr (.inl hid)
    | false =>
      rw [hholds] at hid
      exact .inr (.inr (.inl hid))
  | undecided =>
    rcases Option.or_eq_some_iff.mp hid with hid | ⟨-, hid⟩
    · exact .inr (.inr (.inr hid))
    · exact .inr (.inr (.inl hid))
  | entered =>
    rcases Option.or_eq_some_iff.mp hid with hid | ⟨-, hid⟩
    · exact .inr (.inl hid)
    · exact .inl hid
  | exhausted =>
    rcases Option.or_eq_some_iff.mp hid with hid | ⟨-, hid⟩
    · exact .inr (.inr (.inl hid))
    · exact .inl hid
  | concluded => cases hid

end

/-- Whatever comes of a step that a built-in handler serves is tidy. -/
theorem Served.tidy {outcome : Except FlowError StepResult × Execution σ}
    (h : Served collaborators step execution outcome) :
    Tidy collaborators step execution outcome := by
  obtain ⟨error | result, after⟩ := outcome
  · obtain ⟨rfl, hsettings, hsupplied⟩ := h.ofSettings
    exact .refused hsettings hsupplied
  · exact .served h.leaves fun _ hid => h.mem_successors hid

/-- Every built-in handler throws only over the settings of its step and before it has done
anything, and adds one span otherwise. -/
theorem tidy_of_builtin {handler : Handler σ} (h : Handlers.builtin step.kind = some handler) :
    Tidy collaborators step execution (handler collaborators step execution) :=
  (served_of_builtin h).tidy

end Handler

end AgentFlow
