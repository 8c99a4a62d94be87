import AgentFlow.Execution.Playback
import AgentFlow.Proofs.Execution.StepSpans

/-!
# Thrown errors

A handler throws over the settings of its step and over nothing else: they do not have the types
that the handler needs, or they name no tool where one is to be called (`Step.Throws`). It reads
them before it does anything. So a step that throws does so in every execution and with all
collaborators, and leaves the execution as it is (`Step.Throws.exists_handler`); the walk alone adds
to it, by catching the error (`Walk.turn_of_throw`).

A handler never looks at the kind of the step that it is given, so all this holds of the built-in
handlers of all kinds on steps of all kinds.
-/

namespace AgentFlow

/-- The settings of a step are at fault, so that the handler of a kind throws over them. -/
inductive Step.Throws (step : Step) : StepKind → FlowError → Prop where
  | start {error : FlowError} (h : step.readConfig StartConfig.read = .error error) :
    Throws step .start error
  | prompt {error : FlowError} (h : step.readConfig PromptConfig.read = .error error) :
    Throws step .prompt error
  | tool {error : FlowError} (h : step.readConfig ToolConfig.read = .error error) :
    Throws step .tool error
  | unnamed {config : ToolConfig} (hconfig : step.readConfig ToolConfig.read = .ok config)
    (hname : nonBlank? config.toolName = none) :
    Throws step .tool (.missingConfig step.id "toolName")
  | loop {error : FlowError} (h : step.readConfig LoopConfig.read = .error error) :
    Throws step .loop error
  | output {error : FlowError} (h : step.readConfig OutputConfig.read = .error error) :
    Throws step .output error

/-- Collaborators that also count what is asked of the generator and of tools. -/
def Collaborators.counting {σ : Type} (collaborators : Collaborators σ) :
    Collaborators (σ × Nat) where
  generate := fun request (world, asked) =>
    let (answer, world) := collaborators.generate request world
    (answer, world, asked + 1)
  callTool := fun call context (world, asked) =>
    let (answer, world) := collaborators.callTool call context world
    (answer, world, asked + 1)
  freshIdentifier := fun (world, asked) =>
    let (id, world) := collaborators.freshIdentifier world
    (id, world, asked)
  record := fun draft keep (world, asked) =>
    let (span, world) := collaborators.record draft keep world
    (span, world, asked)

variable {σ : Type}

namespace Handler

section

variable {collaborators : Collaborators σ} {step : Step} {execution after : Execution σ}
  {error : FlowError}

/-- A start step throws over settings that cannot be read. -/
theorem throws_start (h : start collaborators step execution = (.error error, after)) :
    step.Throws .start error ∧ after = execution := by
  cases hconfig : step.readConfig StartConfig.read with
  | error cause =>
    rw [start_of_readConfig_error hconfig] at h
    cases h
    exact ⟨.start hconfig, rfl⟩
  | ok config =>
    rw [start_of_readConfig hconfig] at h
    cases h

/-- A prompt step throws over settings that cannot be read, and not over what the generator says. -/
theorem throws_prompt (h : prompt collaborators step execution = (.error error, after)) :
    step.Throws .prompt error ∧ after = execution := by
  cases hconfig : step.readConfig PromptConfig.read with
  | error cause =>
    rw [prompt_of_readConfig_error hconfig] at h
    cases h
    exact ⟨.prompt hconfig, rfl⟩
  | ok config =>
    obtain ⟨result, served, hresult⟩ := exists_prompt_of_readConfig hconfig
    rw [hresult] at h
    cases h

/-- A tool step throws over settings that cannot be read or that name no tool, and not over what the
tool comes to. -/
theorem throws_tool (h : tool collaborators step execution = (.error error, after)) :
    step.Throws .tool error ∧ after = execution := by
  cases hconfig : step.readConfig ToolConfig.read with
  | error cause =>
    rw [tool_of_readConfig_error hconfig] at h
    cases h
    exact ⟨.tool hconfig, rfl⟩
  | ok config =>
    cases hname : nonBlank? config.toolName with
    | none =>
      rw [tool_of_no_name hconfig hname] at h
      cases h
      exact ⟨.unnamed hconfig hname, rfl⟩
    | some name =>
      obtain ⟨result, served, hresult⟩ := exists_tool_of_name hconfig hname
      rw [hresult] at h
      cases h

/-- A condition step never throws: one without a condition fails. -/
theorem condition_ne_error :
    condition collaborators step execution ≠ (.error error, after) := by
  intro h
  cases hcondition : step.condition with
  | error cause =>
    rw [condition_of_error hcondition] at h
    cases h
  | ok text =>
    rw [condition_of_ok hcondition] at h
    cases h

/-- A loop step throws over settings that cannot be read. -/
theorem throws_loop (h : loop collaborators step execution = (.error error, after)) :
    step.Throws .loop error ∧ after = execution := by
  cases hconfig : step.readConfig LoopConfig.read with
  | error cause =>
    rw [loop_of_readConfig_error hconfig] at h
    cases h
    exact ⟨.loop hconfig, rfl⟩
  | ok config =>
    cases hdone : (execution.context.loopState step.id config).isExhausted with
    | true =>
      rw [loop_of_isExhausted hconfig hdone] at h
      cases h
    | false =>
      rw [loop_of_not_isExhausted hconfig hdone] at h
      cases h

/-- An output step throws over settings that cannot be read. -/
theorem throws_output (h : output collaborators step execution = (.error error, after)) :
    step.Throws .output error ∧ after = execution := by
  cases hconfig : step.readConfig OutputConfig.read with
  | error cause =>
    rw [output_of_readConfig_error hconfig] at h
    cases h
    exact ⟨.output hconfig, rfl⟩
  | ok config =>
    rw [output_of_readConfig hconfig] at h
    cases h

/-- A handler throws over the settings only, and has done nothing then. -/
theorem throws_of_builtin {kind : StepKind} {handler : Handler σ}
    (hhandler : Handlers.builtin kind = some handler)
    (hthrow : handler collaborators step execution = (.error error, after)) :
    step.Throws kind error ∧ after = execution := by
  cases kind <;> cases hhandler
  case start => exact throws_start hthrow
  case prompt => exact throws_prompt hthrow
  case tool => exact throws_tool hthrow
  case condition => exact (condition_ne_error hthrow).elim
  case loop => exact throws_loop hthrow
  case output => exact throws_output hthrow

end

end Handler

/-- Whoever the collaborators are and whatever the execution has come to, the handler throws the
same and changes nothing. -/
theorem Step.Throws.exists_handler {kind : StepKind} {step : Step} {error : FlowError}
    (h : step.Throws kind error) (collaborators : Collaborators σ) (execution : Execution σ) :
    ∃ handler, Handlers.builtin kind = some handler ∧
      handler collaborators step execution = (.error error, execution) := by
  cases h with
  | start h => exact ⟨Handler.start, rfl, Handler.start_of_readConfig_error h⟩
  | prompt h => exact ⟨Handler.prompt, rfl, Handler.prompt_of_readConfig_error h⟩
  | tool h => exact ⟨Handler.tool, rfl, Handler.tool_of_readConfig_error h⟩
  | unnamed hconfig hname => exact ⟨Handler.tool, rfl, Handler.tool_of_no_name hconfig hname⟩
  | loop h => exact ⟨Handler.loop, rfl, Handler.loop_of_readConfig_error h⟩
  | output h => exact ⟨Handler.output, rfl, Handler.output_of_readConfig_error h⟩

/-- The draft of the span that tells of a thrown error. -/
def Step.thrownDraft (step : Step) (error : FlowError) (context : Context) : SpanDraft :=
  { step.draft .reasoning with
    error := some error.message
    attemptId := context.attemptId
    parentSpanId := context.parentSpanId
    sequence := context.sequence }

namespace Walk

/-- The walk behind a step that has thrown: one more step is counted, and there is one more span.
If the step has a way of errors, the text of the error is in the variable `error`. The span comes
with the state in which the recorder leaves the collaborators. -/
def behindThrow (step : Step) (error : FlowError) (recorded : Span × σ) (walk : Walk σ) : Walk σ :=
  let context := walk.execution.context
  { walk with
    stepsTaken := walk.stepsTaken + 1
    execution.context :=
      { context with
        spans := context.spans.push recorded.1
        sequence := context.sequence + 1
        vars :=
          if step.connections.onError.isSome then
            context.vars.insert "error" (.string error.message)
          else context.vars }
    execution.world := recorded.2 }

/-- A turn whose handler throws and has done nothing comes to catching the error. -/
theorem turn_of_throw {collaborators : Collaborators σ} {handlers : Handlers σ} {step : Step}
    {handler : Handler σ} {walk : Walk σ} {error : FlowError}
    (hhandler : handlers step.kind = some handler)
    (hthrow : handler collaborators step walk.execution = (.error error, walk.execution)) :
    turn collaborators handlers step walk =
      ((match step.connections.onError with
        | some id => .goOn id
        | none => .fail error),
        walk.behindThrow step error
          (collaborators.record (step.thrownDraft error walk.execution.context)
            walk.execution.context.persistSpans walk.execution.world)) := by
  unfold turn behindThrow
  simp only [hhandler, hthrow]
  unfold catchError
  cases step.connections.onError with
  | none => rfl
  | some id => rfl

end Walk

namespace Handler

/-- **A thrown error leaves no trace of the step.** If a built-in handler throws over a step, then
it leaves the execution as it was, variables, spans, numbering, states of loops and collaborators,
and it has asked nothing of generator or tools: collaborators that count what is asked of them count
no more than before. All that a walk adds which has the step served by this handler is one span,
which is recorded with the text of the error and under the next number, the variable `error` with
this text if the step has a way of errors, and one step that is counted. -/
theorem throw_leaves_no_trace (collaborators : Collaborators σ) {kind : StepKind}
    {handler : Handler σ} (hhandler : Handlers.builtin kind = some handler) {step : Step}
    {execution after : Execution σ} {error : FlowError}
    (hthrow : handler collaborators step execution = (.error error, after)) :
    after = execution ∧
      (∀ asked, ∃ counting : Handler (σ × Nat), Handlers.builtin kind = some counting ∧
        counting collaborators.counting step ⟨execution.context, execution.world, asked⟩ =
          (.error error, ⟨execution.context, execution.world, asked⟩)) ∧
      ∃ recorded,
        collaborators.record (step.thrownDraft error execution.context)
            execution.context.persistSpans execution.world = recorded ∧
          (collaborators.RecordsAsDrafted → recorded.1.error = some error.message) ∧
          ∀ (handlers : Handlers σ) (walk : Walk σ), handlers step.kind = some handler →
            walk.execution = execution →
            Walk.turn collaborators handlers step walk =
              ((match step.connections.onError with
                | some id => .goOn id
                | none => .fail error),
                walk.behindThrow step error recorded) := by
  obtain ⟨hthrows, rfl⟩ := throws_of_builtin hhandler hthrow
  refine ⟨rfl, fun asked => hthrows.exists_handler collaborators.counting _, _, rfl,
    fun hrecord => ?_, ?_⟩
  · obtain ⟨id, hspan⟩ := hrecord (step.thrownDraft error after.context) after.context.persistSpans
      after.world
    exact congrArg Span.error hspan
  · rintro handlers walk hserves rfl
    exact Walk.turn_of_throw hserves hthrow

/-- A loop step whose settings have gone bad in the middle of its loop: the state of the loop stays,
and the variable `error` gets the text in place of an older one. -/
theorem throw_leaves_no_trace_of_loop :
    let step : Step :=
      { id := "each", kind := .loop, config := [("maxIterations", .array [])]
        connections := { onError := some "out" } }
    let context : Context :=
      { Context.initial {} {} {} with
        vars := [("error", .string "busy"), ("item", .bool true)]
        loops := [("each", .counter 3)] }
    let walk : Walk Playback := ⟨⟨context, {}⟩, 4, none⟩
    let error : FlowError :=
      .invalidConfig "each" "invalid type: sequence, expected usize"
    let after := (Walk.turn Playback.scripted .builtin step walk).2
    Handlers.builtin step.kind = some (Handler.loop (σ := Playback)) ∧
      Handler.loop Playback.scripted step walk.execution = (.error error, walk.execution) ∧
      (Walk.turn Playback.scripted .builtin step walk).1 = .goOn "out" ∧
      after.execution.context.vars = [("error", .string error.message), ("item", .bool true)] ∧
      after.execution.context.spans.toList.map Span.error = [some error.message] ∧
      after.execution.context.loops.get? "each" = some (.counter 3) ∧ after.stepsTaken = 5 := by
  intro step context walk error after
  have hthrow : Handler.loop Playback.scripted step walk.execution =
      (.error error, walk.execution) := rfl
  obtain ⟨-, -, recorded, -, hspan, hturns⟩ := throw_leaves_no_trace Playback.scripted
    (rfl : Handlers.builtin step.kind = some Handler.loop) hthrow
  have hturn := hturns .builtin walk rfl rfl
  have hafter : after = walk.behindThrow step error recorded := congrArg Prod.snd hturn
  rw [hafter]
  refine ⟨rfl, hthrow, congrArg Prod.fst hturn, rfl, ?_, rfl, rfl⟩
  exact congrArg (fun error => [error]) (hspan fun _ _ _ => ⟨_, rfl⟩)

end Handler

end AgentFlow
