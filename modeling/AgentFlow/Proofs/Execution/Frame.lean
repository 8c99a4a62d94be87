import AgentFlow.Execution.Playback
import AgentFlow.Proofs.Execution.Itinerary

/-!
# What a step may change

All handlers work on one context, and many of the names under which they store variables come from
the settings of steps. What a handler may write is known beforehand all the same: `Step.Writes` says
it for each kind and each way the step can come out, and `Handler.framed_of_builtin` that the
context is as before apart from that. No variable is ever removed, and the trace only grows.

A frame is a relation between two contexts (`Context.Frame`), for the names that may be written and
the loop that may be touched. There is one lemma for each thing that handlers do with a context, and
a handler does several of them in turn. A turn of a run is in its frame as well
(`Walk.Takes.frame`), and the frames of the turns add up to what a whole run can write
(`Walk.grows_of_mem_itinerary`).
-/

namespace AgentFlow

/-! ## Frames -/

/-- Variables have been set under names of this kind only, and none has been removed. -/
structure Variables.Grows (written : String → Prop) (before after : Variables) : Prop where
  same : ∀ name, ¬ written name → after.get? name = before.get? name
  kept : ∀ name, (before.get? name).isSome → (after.get? name).isSome

namespace Variables.Grows

variable {written wider : String → Prop} {first second third : Variables}

theorem refl (vars : Variables) : Grows written vars vars :=
  ⟨fun _ _ => rfl, fun _ h => h⟩

theorem trans (h : Grows written first second) (h' : Grows written second third) :
    Grows written first third :=
  ⟨fun name hname => (h'.same name hname).trans (h.same name hname),
    fun name hname => h'.kept name (h.kept name hname)⟩

/-- What may be written under some names may be under more. -/
theorem mono (h : Grows written first second) (hwider : ∀ name, written name → wider name) :
    Grows wider first second :=
  ⟨fun name hname => h.same name fun hwritten => hname (hwider name hwritten), h.kept⟩

/-- Setting a variable that may be written. -/
theorem insert {name : String} (hname : written name) (value : Json) (vars : Variables) :
    Grows written vars (vars.insert name value) := by
  refine ⟨fun other hother => ?_, fun other hother => ?_⟩
  · have hne : other ≠ name := by
      rintro rfl
      exact hother hname
    exact Fields.get?_insert_of_ne hne value vars
  · by_cases heq : other = name
    · rw [heq, Fields.get?_insert_self]
      rfl
    · rwa [Fields.get?_insert_of_ne heq]

/-- Setting several variables that may be written. -/
theorem merge {more : Fields Json} (hmore : ∀ name ∈ more.keys, written name) (vars : Variables) :
    Grows written vars (vars.merge more) := by
  induction more generalizing vars with
  | nil => exact refl vars
  | cons entry more ih =>
    obtain ⟨hname, hothers⟩ := List.forall_mem_cons.mp hmore
    exact (insert hname entry.2 vars).trans (ih hothers _)

end Variables.Grows

/-- The states of loops are as before, but for that of one step if there is one. -/
def SameLoops (own : Option String) (before after : Fields LoopState) : Prop :=
  match own with
  | none => after = before
  | some id => ∀ other, other ≠ id → after.get? other = before.get? other

theorem SameLoops.refl (own : Option String) (loops : Fields LoopState) :
    SameLoops own loops loops := by
  cases own with
  | none => rfl
  | some id => exact fun _ _ => rfl

theorem SameLoops.trans {own : Option String} {first second third : Fields LoopState}
    (h : SameLoops own first second) (h' : SameLoops own second third) :
    SameLoops own first third := by
  cases own with
  | none => exact Eq.trans h' h
  | some id => exact fun other hne => (h' other hne).trans (h other hne)

/-- A context is as before, but for variables of some names, the state of at most one loop, and the
spans that have been added. -/
structure Context.Frame (written : String → Prop) (own : Option String) (before after : Context) :
    Prop where
  vars : before.vars.Grows written after.vars
  loops : SameLoops own before.loops after.loops
  agent : after.agent = before.agent
  input : after.input = before.input
  attemptId : after.attemptId = before.attemptId
  parentSpanId : after.parentSpanId = before.parentSpanId
  spans : before.spans.toList <+: after.spans.toList

namespace Context

variable {written wider : String → Prop} {own : Option String} {first second third : Context}

theorem Frame.refl (context : Context) : context.Frame written own context :=
  ⟨.refl _, .refl own _, rfl, rfl, rfl, rfl, List.prefix_rfl⟩

/-- Frames add up. -/
theorem Frame.trans (h : first.Frame written own second) (h' : second.Frame written own third) :
    first.Frame written own third :=
  ⟨h.vars.trans h'.vars, h.loops.trans h'.loops, h'.agent.trans h.agent, h'.input.trans h.input,
    h'.attemptId.trans h.attemptId, h'.parentSpanId.trans h.parentSpanId, h.spans.trans h'.spans⟩

/-- A frame for some names is one for more. -/
theorem Frame.mono (h : first.Frame written own second)
    (hwider : ∀ name, written name → wider name) : first.Frame wider own second :=
  { h with vars := h.vars.mono hwider }

/-- Other variables. -/
theorem frame_of_grows {vars : Variables} {context : Context}
    (h : context.vars.Grows written vars) : context.Frame written own { context with vars } :=
  ⟨h, .refl own _, rfl, rfl, rfl, rfl, List.prefix_rfl⟩

/-- Other states of loops. -/
theorem frame_of_sameLoops {loops : Fields LoopState} {context : Context}
    (h : SameLoops own context.loops loops) : context.Frame written own { context with loops } :=
  ⟨.refl _, h, rfl, rfl, rfl, rfl, List.prefix_rfl⟩

/-- One more span. -/
theorem frame_of_span (span : Span) (context : Context) :
    context.Frame written own
      { context with spans := context.spans.push span, sequence := context.sequence + 1 } := by
  refine ⟨.refl _, .refl own _, rfl, rfl, rfl, rfl, ?_⟩
  rw [Array.toList_push]
  exact List.prefix_append _ _

/-- One variable more is set. -/
theorem Frame.set (h : first.Frame written own second) {name : String} (hname : written name)
    (value : Json) : first.Frame written own (second.set name value) :=
  h.trans (frame_of_grows (.insert hname value _))

/-- The start step writes the input, the session if there is one, and the given variables. -/
theorem frame_seed {given : Option (Fields Json)} {context : Context} (hinput : written "input")
    (hsession : context.input.context.isSome → written "sessionContext")
    (hgiven : ∀ name ∈ (given.getD []).keys, written name) :
    context.Frame written own (context.seed given) := by
  have hfirst := Variables.Grows.insert hinput (.string context.input.content) context.vars
  unfold seed
  cases hcontext : context.input.context with
  | none => exact frame_of_grows (hfirst.trans (.merge hgiven _))
  | some session =>
    have hname := hsession (by rw [hcontext]; rfl)
    exact frame_of_grows
      ((hfirst.trans (.insert hname (.string session) _)).trans (.merge hgiven _))

/-- A result writes itself and its success; beyond that, a successful one its output variable, and a
failed one the error. -/
theorem Frame.storeResult {outputVariable : Option String} {result : ToolResult}
    (h : first.Frame written own second) (hresult : written "lastToolResult")
    (hflag : written "lastToolSuccess")
    (houtput : ∀ name, result.success = true → outputVariable = some name → written name)
    (herror : result.success = false → written "error") :
    first.Frame written own (second.storeResult outputVariable result) := by
  have hreport := (h.set hresult result.output).set hflag (.bool result.success)
  unfold Context.storeResult
  cases hsuccess : result.success with
  | true =>
    rw [hsuccess] at hreport
    cases hvariable : outputVariable with
    | none => exact hreport
    | some name => exact hreport.set (houtput name hsuccess hvariable) _
  | false =>
    rw [hsuccess] at hreport
    exact hreport.set (herror hsuccess) _

/-- A round writes the index and the item, and touches the state of its own loop. -/
theorem frame_enterLoop {id : String} {state : LoopState} {context : Context}
    (hindex : written "loopIndex")
    (hitem : ∀ name, state.itemVariable = some name → written name) :
    context.Frame written (some id) (context.enterLoop id state) := by
  have hset : context.Frame written (some id) (context.set "loopIndex" (.ofNat state.index)) :=
    (Frame.refl context).set hindex _
  have hcount (context : Context) : context.Frame written (some id)
      { context with loops := context.loops.insert id { state with index := state.index + 1 } } :=
    frame_of_sameLoops fun other hne => Fields.get?_insert_of_ne hne _ _
  unfold enterLoop
  split
  next name item hname _ => exact (hset.set (hitem name hname) item).trans (hcount _)
  next => exact hset.trans (hcount _)

/-- Leaving a loop touches its state alone. -/
theorem frame_leaveLoop (id : String) (context : Context) :
    context.Frame written (some id) (context.leaveLoop id) :=
  frame_of_sameLoops fun _ hne => Fields.get?_erase_of_ne hne _

variable {σ : Type} {execution : Execution σ}

/-- A span is added at the end. -/
theorem Frame.record (h : first.Frame written own execution.context)
    (collaborators : Collaborators σ) (draft : SpanDraft) :
    first.Frame written own (execution.record collaborators draft).context :=
  h.trans (frame_of_span _ _)

/-- The span of a call is added at the end, whoever has recorded it. -/
theorem Frame.traceCall (h : first.Frame written own execution.context)
    (collaborators : Collaborators σ) (step : Step) (request : ToolRequest)
    (outcome : ToolOutcome) :
    first.Frame written own (execution.traceCall collaborators step request outcome).context := by
  unfold Execution.traceCall
  cases outcome.span with
  | none => exact h.record _ _
  | some span => exact h.trans (frame_of_span _ _)

/-- A report writes the error if there is a way of errors. -/
theorem Frame.reportError (h : first.Frame written own execution.context) {step : Step}
    (herror : step.connections.onError.isSome → written "error") (text : String) :
    first.Frame written own (execution.reportError step text).context := by
  unfold Execution.reportError
  cases honError : step.connections.onError with
  | none => exact h
  | some id => exact h.set (herror (by rw [honError]; rfl)) _

end Context

/-! ## What handlers write -/

/-- The names of variables that the handler of a kind can write when a step comes out so. A handler
that throws writes none, and those of condition and output steps never do. -/
inductive Step.Writes (step : Step) (context : Context) :
    StepKind → Except FlowError StepResult → String → Prop where
  | input {result : StepResult} : Writes step context .start (.ok result) "input"
  | session {result : StepResult} (h : context.input.context.isSome) :
    Writes step context .start (.ok result) "sessionContext"
  | seeded {result : StepResult} {config : StartConfig} {name : String}
    (hconfig : step.readConfig StartConfig.read = .ok config)
    (hname : name ∈ (config.vars.getD []).keys) : Writes step context .start (.ok result) name
  | lastOutput {result : StepResult} (hsuccess : result.success = true) :
    Writes step context .prompt (.ok result) "lastOutput"
  | generated {result : StepResult} {config : PromptConfig} {name : String}
    (hsuccess : result.success = true) (hconfig : step.readConfig PromptConfig.read = .ok config)
    (hname : config.outputVariable = some name) : Writes step context .prompt (.ok result) name
  | promptError {result : StepResult} (hfailure : result.success = false)
    (honError : step.connections.onError.isSome) :
    Writes step context .prompt (.ok result) "error"
  | lastToolResult {result : StepResult} : Writes step context .tool (.ok result) "lastToolResult"
  | lastToolSuccess {result : StepResult} : Writes step context .tool (.ok result) "lastToolSuccess"
  | toolOutput {result : StepResult} {config : ToolConfig} {name : String}
    (hsuccess : result.success = true) (hconfig : step.readConfig ToolConfig.read = .ok config)
    (hname : config.outputVariable = some name) : Writes step context .tool (.ok result) name
  | toolError {result : StepResult} (hfailure : result.success = false) :
    Writes step context .tool (.ok result) "error"
  | loopIndex {result : StepResult} : Writes step context .loop (.ok result) "loopIndex"
  | item {result : StepResult} {config : LoopConfig} {name : String}
    (hconfig : step.readConfig LoopConfig.read = .ok config)
    (hname : (context.loopState step.id config).itemVariable = some name) :
    Writes step context .loop (.ok result) name

/-- The loop whose state the handler of a kind can change. -/
def Step.ownLoop (step : Step) : StepKind → Option String
  | .loop => some step.id
  | _ => none

/-- Only loop steps have a state to touch. -/
theorem Step.ownLoop_of_ne {step : Step} {kind : StepKind} (h : kind ≠ .loop) :
    step.ownLoop kind = none := by
  cases kind <;> first | rfl | exact absurd rfl h

namespace Handler

variable {σ : Type}

/-- What a handler has answered, and left behind, keeps to what the handler of the kind can
write. -/
def Framed (kind : StepKind) (step : Step) (execution : Execution σ)
    (served : Except FlowError StepResult × Execution σ) : Prop :=
  execution.context.Frame (step.Writes execution.context kind served.1) (step.ownLoop kind)
    served.2.context

variable {collaborators : Collaborators σ} {step : Step} {execution : Execution σ}

/-- A start step keeps to its frame. -/
theorem framed_start : Framed .start step execution (start collaborators step execution) := by
  cases hconfig : step.readConfig StartConfig.read with
  | error error =>
    rw [start_of_readConfig_error hconfig]
    exact .refl _
  | ok config =>
    rw [start_of_readConfig hconfig]
    exact (Context.frame_seed .input .session fun name => .seeded hconfig).record _ _

/-- A prompt step keeps to its frame. -/
theorem framed_prompt : Framed .prompt step execution (prompt collaborators step execution) := by
  cases hconfig : step.readConfig PromptConfig.read with
  | error error =>
    rw [prompt_of_readConfig_error hconfig]
    exact .refl _
  | ok config =>
    rcases hask : execution.generate collaborators (config.system execution.context.agent)
      (config.prompt execution.context) with ⟨message | generation, after⟩
    · rw [prompt_of_unanswered hconfig hask]
      unfold Framed
      rw [← Execution.context_of_generate hask]
      exact ((Context.Frame.refl _).record _ _).reportError (.promptError rfl) message
    · rw [prompt_of_answered hconfig hask]
      unfold Framed
      rw [← Execution.context_of_generate hask]
      refine (((Context.Frame.refl _).set ?_ _).set (.lastOutput rfl) _).record _ _
      cases hvariable : config.outputVariable with
      | none => exact .lastOutput rfl
      | some name => exact .generated rfl hconfig hvariable

/-- A tool step keeps to its frame. -/
theorem framed_tool : Framed .tool step execution (tool collaborators step execution) := by
  cases hconfig : step.readConfig ToolConfig.read with
  | error error =>
    rw [tool_of_readConfig_error hconfig]
    exact .refl _
  | ok config =>
    cases hname : nonBlank? config.toolName with
    | none =>
      rw [tool_of_no_name hconfig hname]
      exact .refl _
    | some name =>
      rcases hcall : execution.callTool collaborators (config.request name execution.context) with
        ⟨outcome, after⟩
      rw [tool_of_call hconfig hname hcall]
      unfold Framed
      rw [← Execution.context_of_callTool hcall]
      refine ((Context.Frame.refl _).storeResult .lastToolResult .lastToolSuccess
        (fun output hsuccess hvariable => ?_) fun hfailure => ?_).traceCall _ _ _ _
      · exact .toolOutput (by rw [hsuccess]; rfl) hconfig hvariable
      · exact .toolError (by rw [hfailure]; rfl)

/-- A condition step keeps to its frame. -/
theorem framed_condition :
    Framed .condition step execution (condition collaborators step execution) := by
  cases hcondition : step.condition with
  | error error =>
    rw [condition_of_error hcondition]
    exact (Context.Frame.refl _).record _ _
  | ok text =>
    rw [condition_of_ok hcondition]
    exact (Context.Frame.refl _).record _ _

/-- A loop step keeps to its frame. -/
theorem framed_loop : Framed .loop step execution (loop collaborators step execution) := by
  cases hconfig : step.readConfig LoopConfig.read with
  | error error =>
    rw [loop_of_readConfig_error hconfig]
    exact .refl _
  | ok config =>
    cases hdone : (execution.context.loopState step.id config).isExhausted with
    | true =>
      rw [loop_of_isExhausted hconfig hdone]
      exact (Context.frame_leaveLoop step.id execution.context).record _ _
    | false =>
      rw [loop_of_not_isExhausted hconfig hdone]
      exact (Context.frame_enterLoop .loopIndex fun name => .item hconfig).record _ _

/-- An output step keeps to its frame. -/
theorem framed_output : Framed .output step execution (output collaborators step execution) := by
  cases hconfig : step.readConfig OutputConfig.read with
  | error error =>
    rw [output_of_readConfig_error hconfig]
    exact .refl _
  | ok config =>
    rw [output_of_readConfig hconfig]
    exact (Context.Frame.refl _).record _ _

/-- Every built-in handler keeps to its frame, whatever step it is given. -/
theorem framed_of_builtin {kind : StepKind} {handler : Handler σ}
    (h : Handlers.builtin kind = some handler) :
    Framed kind step execution (handler collaborators step execution) := by
  cases kind <;> cases h
  case start => exact framed_start
  case prompt => exact framed_prompt
  case tool => exact framed_tool
  case condition => exact framed_condition
  case loop => exact framed_loop
  case output => exact framed_output

end Handler

/-! ## What runs write -/

/-- The names of variables that may be written when the turn of a step is taken, however it comes
out: those that its handler can write, and that of errors if an error that it throws has a way to
go. -/
def Step.MayWrite (step : Step) (context : Context) (name : String) : Prop :=
  (∃ answer, step.Writes context step.kind answer name) ∨
    name = "error" ∧ step.connections.onError.isSome

namespace Walk

variable {σ : Type} {collaborators : Collaborators σ} {flow : Flow}

/-- A turn keeps to its frame, whether the error that it throws is caught or not. -/
theorem Takes.frame {step : Step} {walk after : Walk σ} {t : Turn}
    (h : Takes collaborators .builtin step walk t after) :
    walk.execution.context.Frame (step.MayWrite walk.execution.context) (step.ownLoop step.kind)
      after.execution.context := by
  cases h with
  | unknown hhandler => exact .refl _
  | @returned handler result execution hhandler hcall =>
    have hframe : Handler.Framed step.kind step walk.execution
      (handler collaborators step walk.execution) := Handler.framed_of_builtin hhandler
    rw [hcall] at hframe
    exact hframe.mono fun name hwrites => .inl ⟨_, hwrites⟩
  | @thrown handler error execution hhandler hcall =>
    have hframe : Handler.Framed step.kind step walk.execution
      (handler collaborators step walk.execution) := Handler.framed_of_builtin hhandler
    rw [hcall] at hframe
    rw [catchError_snd]
    have hthrown : walk.execution.context.Frame (step.MayWrite walk.execution.context)
        (step.ownLoop step.kind) execution.context :=
      hframe.mono fun name hwrites => .inl ⟨_, hwrites⟩
    exact (hthrown.record _ _).reportError (fun honError => .inr ⟨rfl, honError⟩) _

/-- From step to step of a walk no variable is removed, and one that has another value than at first
may have been written by a step that was taken. -/
theorem grows_of_mem_itinerary (left : Nat) (start : Step) (walk : Walk σ) :
    ∀ reached ∈ itinerary collaborators .builtin flow left start walk,
      walk.execution.context.vars.Grows
        (fun name => ∃ visit ∈ itinerary collaborators .builtin flow left start walk,
          visit.1.MayWrite visit.2.execution.context name)
        reached.2.execution.context.vars := by
  induction left generalizing start walk with
  | zero => exact fun _ hreached => absurd hreached List.not_mem_nil
  | succ left ih =>
    rcases moves_or_ends start walk with ⟨next, after, hmove⟩ | ⟨error, after, hends⟩
    · rw [itinerary_of_moves hmove]
      intro reached hreached
      rcases List.mem_cons.mp hreached with rfl | hreached
      · exact .refl _
      · obtain ⟨id, htakes⟩ := hmove.takes
        refine (htakes.frame.vars.mono ?_).trans ((ih next after reached hreached).mono ?_)
        · exact fun name hwrites => ⟨_, List.mem_cons_self, hwrites⟩
        · rintro name ⟨visit, hvisit, hwrites⟩
          exact ⟨visit, List.mem_cons_of_mem _ hvisit, hwrites⟩
    · rw [itinerary_of_ends hends]
      intro reached hreached
      rw [List.mem_singleton.mp hreached]
      exact .refl _

end Walk

namespace Handler

variable {σ : Type}

/-- **The frame of a step.** Whatever a built-in handler does with a step, no variable is removed,
and only variables that this handler can write when the step comes out so have another value. The
states of loops are as before unless the handler is that of loop steps, and that one leaves all of
them alone but its own. Agent, input and the identity of the execution stay, and the spans that were
there are the first ones of those that are there now. -/
theorem frame_of_step (collaborators : Collaborators σ) {kind : StepKind} {handler : Handler σ}
    (hhandler : Handlers.builtin kind = some handler) {step : Step} {execution after : Execution σ}
    {answer : Except FlowError StepResult}
    (hserved : handler collaborators step execution = (answer, after)) :
    (∀ name, (execution.context.vars.get? name).isSome → (after.context.vars.get? name).isSome) ∧
    (∀ name, after.context.vars.get? name ≠ execution.context.vars.get? name →
      step.Writes execution.context kind answer name) ∧
    (kind ≠ .loop → after.context.loops = execution.context.loops) ∧
    (kind = .loop → ∀ id, id ≠ step.id →
      after.context.loops.get? id = execution.context.loops.get? id) ∧
    after.context.agent = execution.context.agent ∧
    after.context.input = execution.context.input ∧
    after.context.attemptId = execution.context.attemptId ∧
    after.context.parentSpanId = execution.context.parentSpanId ∧
    execution.context.spans.toList <+: after.context.spans.toList := by
  have hframe : Framed kind step execution (handler collaborators step execution) :=
    framed_of_builtin hhandler
  rw [hserved] at hframe
  refine ⟨hframe.vars.kept, fun name hne => ?_, fun hkind => ?_, ?_, hframe.agent, hframe.input,
    hframe.attemptId, hframe.parentSpanId, hframe.spans⟩
  · exact Classical.byContradiction fun hnot => hne (hframe.vars.same name hnot)
  · have hloops := hframe.loops
    rwa [Step.ownLoop_of_ne hkind] at hloops
  · rintro rfl
    exact hframe.loops

/-- The item of a loop goes into a variable that has an older value, since the settings name it. -/
theorem frame_of_step_of_item :
    let step : Step :=
      { id := "each", kind := .loop
        config := [("itemVariable", .string "error"), ("itemsVariable", .string "list")] }
    let context : Context :=
      { Context.initial {} {} {} with
        vars := [("error", .string "busy"), ("list", .array [.bool true])]
        loops := [("outer", .counter 3)] }
    let execution : Execution Playback := ⟨context, {}⟩
    let served := Handler.loop Playback.scripted step execution
    Handlers.builtin .loop = some (Handler.loop (σ := Playback)) ∧
      served.2.context.vars.get? "error" = some (.bool true) ∧
      step.Writes context .loop served.1 "error" ∧
      (served.2.context.vars.get? "list").isSome ∧
      served.2.context.loops.get? "outer" = some (.counter 3) := by
  intro step context execution served
  have hserved : loop Playback.scripted step execution = (served.1, served.2) := rfl
  obtain ⟨hkept, hwrites, -, hloops, -⟩ := frame_of_step Playback.scripted
    (rfl : Handlers.builtin .loop = some Handler.loop) hserved
  have hitem : served.2.context.vars.get? "error" = some (.bool true) := rfl
  refine ⟨rfl, hitem, hwrites "error" ?_, hkept "list" rfl, hloops rfl "outer" (by decide)⟩
  rw [hitem]
  exact nofun

end Handler

end AgentFlow
