import AgentFlow.Execution.Run

/-!
# What serving a step can come to

The built-in handlers taken apart into the ways in which they end. `Served` has a constructor for
each of these ways; it says when a handler ends so, what it reports, and what it has done to the
execution. Further facts about handlers are proved by going through these cases, so that a handler
is opened here and nowhere else.
-/

namespace AgentFlow

/-- What a tool step with these settings asks of its tool. -/
def ToolConfig.request (config : ToolConfig) (name : String) (context : Context) :
    ToolRequest where
  name := name
  arguments := .object (config.arguments context.vars)

/-- The settings do not have the types that the kind of the step needs. A condition step is not
among these kinds: it deals with its settings itself. -/
def Step.Unreadable (step : Step) (error : FlowError) : Prop :=
  match step.kind with
  | .start => step.readConfig StartConfig.read = .error error
  | .prompt => step.readConfig PromptConfig.read = .error error
  | .tool => step.readConfig ToolConfig.read = .error error
  | .loop => step.readConfig LoopConfig.read = .error error
  | .output => step.readConfig OutputConfig.read = .error error
  | .condition => False
  | .other _ => False

namespace Execution

variable {σ : Type}

/-- Adds the span of a call: the one that the tool has recorded itself, else one of the engine's. -/
def traceCall (collaborators : Collaborators σ) (step : Step) (request : ToolRequest)
    (outcome : ToolOutcome) (execution : Execution σ) : Execution σ :=
  match outcome.span with
  | some span => execution.modify (Context.push span)
  | none => execution.record collaborators ((step.draft .toolCall).called request outcome.result)

/-- Leaves the text of a failure to the way of errors, if the step has one. -/
def reportError (step : Step) (text : String) (execution : Execution σ) : Execution σ :=
  match step.connections.onError with
  | some _ => execution.modify (Context.set "error" (.string text))
  | none => execution

/-- Asking the generator changes the state of the collaborators only. -/
theorem context_of_generate {collaborators : Collaborators σ} {system : Option String}
    {prompt : String} {execution after : Execution σ} {answer : Except String Generation}
    (h : execution.generate collaborators system prompt = (answer, after)) :
    after.context = execution.context :=
  (congrArg (fun result => result.2.context) h).symm

/-- Calling a tool changes the state of the collaborators only. -/
theorem context_of_callTool {collaborators : Collaborators σ} {request : ToolRequest}
    {execution after : Execution σ} {outcome : ToolOutcome}
    (h : execution.callTool collaborators request = (outcome, after)) :
    after.context = execution.context :=
  (congrArg (fun result => result.2.context) h).symm

end Execution

namespace Handler

variable {σ : Type}

/-- What a call of a built-in handler can come to. -/
inductive Served (collaborators : Collaborators σ) (step : Step) (execution : Execution σ) :
    Except FlowError StepResult × Execution σ → Prop where
  | refused {error : FlowError} (hunreadable : step.Unreadable error) :
    Served collaborators step execution (.error error, execution)
  /-- A tool step names no tool. -/
  | unnamed {config : ToolConfig} (hkind : step.kind = .tool)
    (hconfig : step.readConfig ToolConfig.read = .ok config)
    (hname : nonBlank? config.toolName = none) :
    Served collaborators step execution (.error (.missingConfig step.id "toolName"), execution)
  | started {config : StartConfig} (hkind : step.kind = .start)
    (hconfig : step.readConfig StartConfig.read = .ok config) :
    Served collaborators step execution
      (.ok (.ok step.connections.next),
        (execution.modify (Context.seed config.vars)).record collaborators
          { step.draft .reasoning with
            input := execution.context.input.content, output := "Flow started" })
  | answered {config : PromptConfig} {generation : Generation} {after : Execution σ}
    (hkind : step.kind = .prompt) (hconfig : step.readConfig PromptConfig.read = .ok config)
    (hask : execution.generate collaborators (config.system execution.context.agent)
      (config.prompt execution.context) = (.ok generation, after)) :
    Served collaborators step execution
      (.ok (.ok step.connections.next (some (.string generation.text))),
        (after.modify fun context =>
          (context.set (config.outputVariable.getD "lastOutput") (.string generation.text)).set
            "lastOutput" (.string generation.text)).record collaborators
          (({ step.draft .llmCall with
              input := config.prompt execution.context
              modelId := some execution.context.agent.model } : SpanDraft).generated generation))
  /-- The generator refuses. -/
  | unanswered {config : PromptConfig} {message : String} {after : Execution σ}
    (hkind : step.kind = .prompt) (hconfig : step.readConfig PromptConfig.read = .ok config)
    (hask : execution.generate collaborators (config.system execution.context.agent)
      (config.prompt execution.context) = (.error message, after)) :
    Served collaborators step execution
      (.ok (.failed (some (FlowError.generation message).message) step.connections.onError),
        (after.record collaborators
          { step.draft .llmCall with
            input := config.prompt execution.context
            modelId := some execution.context.agent.model
            error := some message }).reportError step message)
  | called {config : ToolConfig} {name : String} {outcome : ToolOutcome} {after : Execution σ}
    (hkind : step.kind = .tool) (hconfig : step.readConfig ToolConfig.read = .ok config)
    (hname : nonBlank? config.toolName = some name)
    (hcall : execution.callTool collaborators (config.request name execution.context) =
      (outcome, after))
    (hsuccess : outcome.result.success = true) :
    Served collaborators step execution
      (.ok (.ok step.connections.next (some outcome.result.output)),
        (after.modify (Context.storeResult config.outputVariable outcome.result)).traceCall
          collaborators step (config.request name execution.context) outcome)
  /-- The tool reports a failure, or the call was not possible. -/
  | calledInVain {config : ToolConfig} {name : String} {outcome : ToolOutcome}
    {after : Execution σ} (hkind : step.kind = .tool)
    (hconfig : step.readConfig ToolConfig.read = .ok config)
    (hname : nonBlank? config.toolName = some name)
    (hcall : execution.callTool collaborators (config.request name execution.context) =
      (outcome, after))
    (hfailure : outcome.result.success = false) :
    Served collaborators step execution
      (.ok (.failed (some (FlowError.tool name (outcome.result.error.getD "")).message)
          step.connections.onError),
        (after.modify (Context.storeResult config.outputVariable outcome.result)).traceCall
          collaborators step (config.request name execution.context) outcome)
  | decided {condition : String} (hkind : step.kind = .condition)
    (hcondition : step.condition = .ok condition) :
    Served collaborators step execution
      (.ok (.ok (if Condition.holds condition execution.context.vars then
          step.connections.onTrue else step.connections.onFalse)),
        execution.record collaborators
          { step.draft .reasoning with
            input := condition
            output := if Condition.holds condition execution.context.vars then "true"
              else "false" })
  /-- A condition step has no condition. -/
  | undecided {error : FlowError} (hkind : step.kind = .condition)
    (hcondition : step.condition = .error error) :
    Served collaborators step execution
      (.ok (.failed (some error.message) (step.connections.onError.or step.connections.onFalse)),
        execution.record collaborators
          { step.draft .reasoning with error := some error.message })
  | entered {config : LoopConfig} (hkind : step.kind = .loop)
    (hconfig : step.readConfig LoopConfig.read = .ok config)
    (hleft : (execution.context.loopState step.id config).isExhausted = false) :
    Served collaborators step execution
      (.ok (.ok (step.connections.onTrue.or step.connections.next)),
        (execution.modify
          (Context.enterLoop step.id (execution.context.loopState step.id config))).record
          collaborators
          { step.draft .reasoning with
            output := s!"iteration {(execution.context.loopState step.id config).index}" })
  | exhausted {config : LoopConfig} (hkind : step.kind = .loop)
    (hconfig : step.readConfig LoopConfig.read = .ok config)
    (hdone : (execution.context.loopState step.id config).isExhausted = true) :
    Served collaborators step execution
      (.ok (.ok (step.connections.onFalse.or step.connections.next)),
        (execution.modify (Context.leaveLoop step.id)).record collaborators
          { step.draft .reasoning with
            output :=
              s!"completed after {(execution.context.loopState step.id config).max} iterations" })
  | concluded {config : OutputConfig} (hkind : step.kind = .output)
    (hconfig : step.readConfig OutputConfig.read = .ok config) :
    Served collaborators step execution
      (.ok (.ok none (some (config.answer execution.context.vars))),
        execution.record collaborators
          { step.draft .output with
            output := (config.answer execution.context.vars).shownText })

section

variable {collaborators : Collaborators σ} {step : Step} {execution : Execution σ}

theorem start_of_readConfig_error {error : FlowError}
    (hconfig : step.readConfig StartConfig.read = .error error) :
    start collaborators step execution = (.error error, execution) := by
  simp only [start, hconfig]

theorem start_of_readConfig {config : StartConfig}
    (hconfig : step.readConfig StartConfig.read = .ok config) :
    start collaborators step execution =
      (.ok (.ok step.connections.next),
        (execution.modify (Context.seed config.vars)).record collaborators
          { step.draft .reasoning with
            input := execution.context.input.content, output := "Flow started" }) := by
  simp only [start, hconfig]
  rfl

/-- The handler of start steps serves them as `Served` says. -/
theorem served_start (hkind : step.kind = .start) :
    Served collaborators step execution (start collaborators step execution) := by
  cases hconfig : step.readConfig StartConfig.read with
  | error error =>
    rw [start_of_readConfig_error hconfig]
    exact .refused (by rw [Step.Unreadable, hkind]; exact hconfig)
  | ok config =>
    rw [start_of_readConfig hconfig]
    exact .started hkind hconfig

theorem output_of_readConfig_error {error : FlowError}
    (hconfig : step.readConfig OutputConfig.read = .error error) :
    output collaborators step execution = (.error error, execution) := by
  simp only [output, hconfig]

theorem output_of_readConfig {config : OutputConfig}
    (hconfig : step.readConfig OutputConfig.read = .ok config) :
    output collaborators step execution =
      (.ok (.ok none (some (config.answer execution.context.vars))),
        execution.record collaborators
          { step.draft .output with
            output := (config.answer execution.context.vars).shownText }) := by
  simp only [output, hconfig]

/-- The handler of output steps serves them as `Served` says. -/
theorem served_output (hkind : step.kind = .output) :
    Served collaborators step execution (output collaborators step execution) := by
  cases hconfig : step.readConfig OutputConfig.read with
  | error error =>
    rw [output_of_readConfig_error hconfig]
    exact .refused (by rw [Step.Unreadable, hkind]; exact hconfig)
  | ok config =>
    rw [output_of_readConfig hconfig]
    exact .concluded hkind hconfig

theorem prompt_of_readConfig_error {error : FlowError}
    (hconfig : step.readConfig PromptConfig.read = .error error) :
    prompt collaborators step execution = (.error error, execution) := by
  simp only [prompt, hconfig]

/-- A prompt step whose generator answers stores the text and goes on. -/
theorem prompt_of_answered {config : PromptConfig} {generation : Generation} {after : Execution σ}
    (hconfig : step.readConfig PromptConfig.read = .ok config)
    (hask : execution.generate collaborators (config.system execution.context.agent)
      (config.prompt execution.context) = (.ok generation, after)) :
    prompt collaborators step execution =
      (.ok (.ok step.connections.next (some (.string generation.text))),
        (after.modify fun context =>
          (context.set (config.outputVariable.getD "lastOutput") (.string generation.text)).set
            "lastOutput" (.string generation.text)).record collaborators
          (({ step.draft .llmCall with
              input := config.prompt execution.context
              modelId := some execution.context.agent.model } : SpanDraft).generated
            generation)) := by
  simp only [prompt, hconfig, hask]

/-- A prompt step whose generator refuses goes the way of errors. -/
theorem prompt_of_unanswered {config : PromptConfig} {message : String} {after : Execution σ}
    (hconfig : step.readConfig PromptConfig.read = .ok config)
    (hask : execution.generate collaborators (config.system execution.context.agent)
      (config.prompt execution.context) = (.error message, after)) :
    prompt collaborators step execution =
      (.ok (.failed (some (FlowError.generation message).message) step.connections.onError),
        (after.record collaborators
          { step.draft .llmCall with
            input := config.prompt execution.context
            modelId := some execution.context.agent.model
            error := some message }).reportError step message) := by
  simp only [prompt, hconfig, hask]
  unfold Execution.reportError
  cases step.connections.onError with
  | none => rfl
  | some id => rfl

/-- With settings that can be read a prompt step has a result. -/
theorem exists_prompt_of_readConfig {config : PromptConfig}
    (hconfig : step.readConfig PromptConfig.read = .ok config) :
    ∃ result after, prompt collaborators step execution = (.ok result, after) := by
  rcases hask : execution.generate collaborators (config.system execution.context.agent)
    (config.prompt execution.context) with ⟨message | generation, after⟩
  · exact ⟨_, _, prompt_of_unanswered hconfig hask⟩
  · exact ⟨_, _, prompt_of_answered hconfig hask⟩

/-- The handler of prompt steps serves them as `Served` says. -/
theorem served_prompt (hkind : step.kind = .prompt) :
    Served collaborators step execution (prompt collaborators step execution) := by
  cases hconfig : step.readConfig PromptConfig.read with
  | error error =>
    rw [prompt_of_readConfig_error hconfig]
    exact .refused (by rw [Step.Unreadable, hkind]; exact hconfig)
  | ok config =>
    rcases hask : execution.generate collaborators (config.system execution.context.agent)
      (config.prompt execution.context) with ⟨message | generation, after⟩
    · rw [prompt_of_unanswered hconfig hask]
      exact .unanswered hkind hconfig hask
    · rw [prompt_of_answered hconfig hask]
      exact .answered hkind hconfig hask

theorem tool_of_readConfig_error {error : FlowError}
    (hconfig : step.readConfig ToolConfig.read = .error error) :
    tool collaborators step execution = (.error error, execution) := by
  simp only [tool, hconfig]

/-- A tool step that names no tool throws before anything is called. -/
theorem tool_of_no_name {config : ToolConfig}
    (hconfig : step.readConfig ToolConfig.read = .ok config)
    (hname : nonBlank? config.toolName = none) :
    tool collaborators step execution =
      (.error (.missingConfig step.id "toolName"), execution) := by
  simp only [tool, hconfig, hname]

/-- A tool step that names a tool calls it, stores the result, and goes on by its success. -/
theorem tool_of_call {config : ToolConfig} {name : String} {outcome : ToolOutcome}
    {after : Execution σ} (hconfig : step.readConfig ToolConfig.read = .ok config)
    (hname : nonBlank? config.toolName = some name)
    (hcall : execution.callTool collaborators (config.request name execution.context) =
      (outcome, after)) :
    tool collaborators step execution =
      (.ok (if outcome.result.success then
          .ok step.connections.next (some outcome.result.output)
        else
          .failed (some (FlowError.tool name (outcome.result.error.getD "")).message)
            step.connections.onError),
        (after.modify (Context.storeResult config.outputVariable outcome.result)).traceCall
          collaborators step (config.request name execution.context) outcome) := by
  unfold tool
  simp only [hconfig, hname]
  have hcall' := hcall
  unfold ToolConfig.request at hcall'
  rw [hcall']
  cases hsuccess : outcome.result.success with
  | true => simp only [if_true]; rfl
  | false => simp only [Bool.false_eq_true, if_false]; rfl

/-- With settings that name a tool a tool step has a result. -/
theorem exists_tool_of_name {config : ToolConfig} {name : String}
    (hconfig : step.readConfig ToolConfig.read = .ok config)
    (hname : nonBlank? config.toolName = some name) :
    ∃ result after, tool collaborators step execution = (.ok result, after) := by
  rcases hcall : execution.callTool collaborators (config.request name execution.context) with
    ⟨outcome, after⟩
  exact ⟨_, _, tool_of_call hconfig hname hcall⟩

/-- The handler of tool steps serves them as `Served` says. -/
theorem served_tool (hkind : step.kind = .tool) :
    Served collaborators step execution (tool collaborators step execution) := by
  cases hconfig : step.readConfig ToolConfig.read with
  | error error =>
    rw [tool_of_readConfig_error hconfig]
    exact .refused (by rw [Step.Unreadable, hkind]; exact hconfig)
  | ok config =>
    cases hname : nonBlank? config.toolName with
    | none =>
      rw [tool_of_no_name hconfig hname]
      exact .unnamed hkind hconfig hname
    | some name =>
      rcases hcall : execution.callTool collaborators (config.request name execution.context) with
        ⟨outcome, after⟩
      rw [tool_of_call hconfig hname hcall]
      cases hsuccess : outcome.result.success with
      | true =>
        rw [if_pos rfl]
        exact .called hkind hconfig hname hcall hsuccess
      | false =>
        rw [if_neg Bool.false_ne_true]
        exact .calledInVain hkind hconfig hname hcall hsuccess

/-- A condition step without a condition goes the way of errors, or else the one for false. -/
theorem condition_of_error {error : FlowError} (hcondition : step.condition = .error error) :
    condition collaborators step execution =
      (.ok (.failed (some error.message) (step.connections.onError.or step.connections.onFalse)),
        execution.record collaborators
          { step.draft .reasoning with error := some error.message }) := by
  simp only [condition, hcondition]

/-- A condition step goes the way that its condition says. -/
theorem condition_of_ok {text : String} (hcondition : step.condition = .ok text) :
    condition collaborators step execution =
      (.ok (.ok (if Condition.holds text execution.context.vars then
          step.connections.onTrue else step.connections.onFalse)),
        execution.record collaborators
          { step.draft .reasoning with
            input := text
            output := if Condition.holds text execution.context.vars then "true"
              else "false" }) := by
  simp only [condition, hcondition]

/-- The handler of condition steps serves them as `Served` says. -/
theorem served_condition (hkind : step.kind = .condition) :
    Served collaborators step execution (condition collaborators step execution) := by
  cases hcondition : step.condition with
  | error error =>
    rw [condition_of_error hcondition]
    exact .undecided hkind hcondition
  | ok text =>
    rw [condition_of_ok hcondition]
    exact .decided hkind hcondition

theorem loop_of_readConfig_error {error : FlowError}
    (hconfig : step.readConfig LoopConfig.read = .error error) :
    loop collaborators step execution = (.error error, execution) := by
  simp only [loop, hconfig]

/-- A loop step with rounds left goes into its body. -/
theorem loop_of_not_isExhausted {config : LoopConfig}
    (hconfig : step.readConfig LoopConfig.read = .ok config)
    (hleft : (execution.context.loopState step.id config).isExhausted = false) :
    loop collaborators step execution =
      (.ok (.ok (step.connections.onTrue.or step.connections.next)),
        (execution.modify
          (Context.enterLoop step.id (execution.context.loopState step.id config))).record
          collaborators
          { step.draft .reasoning with
            output := s!"iteration {(execution.context.loopState step.id config).index}" }) := by
  simp only [loop, hconfig, hleft, Bool.false_eq_true, if_false]

/-- A loop step without rounds left is left. -/
theorem loop_of_isExhausted {config : LoopConfig}
    (hconfig : step.readConfig LoopConfig.read = .ok config)
    (hdone : (execution.context.loopState step.id config).isExhausted = true) :
    loop collaborators step execution =
      (.ok (.ok (step.connections.onFalse.or step.connections.next)),
        (execution.modify (Context.leaveLoop step.id)).record collaborators
          { step.draft .reasoning with
            output :=
              s!"completed after {(execution.context.loopState step.id config).max} iterations"
          }) := by
  simp only [loop, hconfig, hdone, if_true]

/-- The handler of loop steps serves them as `Served` says. -/
theorem served_loop (hkind : step.kind = .loop) :
    Served collaborators step execution (loop collaborators step execution) := by
  cases hconfig : step.readConfig LoopConfig.read with
  | error error =>
    rw [loop_of_readConfig_error hconfig]
    exact .refused (by rw [Step.Unreadable, hkind]; exact hconfig)
  | ok config =>
    cases hdone : (execution.context.loopState step.id config).isExhausted with
    | true =>
      rw [loop_of_isExhausted hconfig hdone]
      exact .exhausted hkind hconfig hdone
    | false =>
      rw [loop_of_not_isExhausted hconfig hdone]
      exact .entered hkind hconfig hdone

/-- Whatever a built-in handler is given, it ends in one of these ways. -/
theorem served_of_builtin {handler : Handler σ} (h : Handlers.builtin step.kind = some handler) :
    Served collaborators step execution (handler collaborators step execution) := by
  cases hkind : step.kind <;> rw [hkind] at h <;> cases h
  · exact served_start hkind
  · exact served_prompt hkind
  · exact served_tool hkind
  · exact served_condition hkind
  · exact served_loop hkind
  · exact served_output hkind

/-- A handler that throws has done nothing. -/
theorem Served.eq_of_error {error : FlowError} {after : Execution σ}
    (h : Served collaborators step execution (.error error, after)) : after = execution := by
  cases h <;> rfl

end

end Handler

end AgentFlow
