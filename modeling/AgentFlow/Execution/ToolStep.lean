import AgentFlow.Execution.Prompt

/-!
# Tool steps

A tool step makes one call. Texts among its arguments are templates. Whatever goes wrong in the
call is a failed result, so a tool step fails by its result and not by an error.
-/

namespace AgentFlow

/-- The settings of a tool step. -/
structure ToolConfig where
  toolName : Option String
  args : Option (Fields Json)
  /-- The older name for `args`. -/
  parameters : Option (Fields Json)
  /-- A template that is passed as the argument `input`. -/
  inputMapping : Option String
  outputVariable : Option String

namespace ToolConfig

/-- Reads the settings of a tool step. -/
def read : Reader ToolConfig :=
  RecordType.read
      ⟨"ToolConfig", ["toolName", "args", "parameters", "inputMapping", "outputVariable"]⟩
    fun field =>
      mk <$> (field "toolName").optional Decode.text
        <*> (field "args").optional Decode.map
        <*> (field "parameters").optional Decode.map
        <*> (field "inputMapping").optional Decode.text
        <*> (field "outputVariable").optional Decode.text

/-- The arguments as they are written. -/
def rawArguments (config : ToolConfig) : Fields Json :=
  match config.args.or config.parameters, config.inputMapping with
  | some args, _ => args
  | none, some template => [("input", .string template)]
  | none, none => []

/-- An argument with its template filled in, if it is one. -/
def fillIn (vars : Variables) : Json → Json
  | .string template => .string (Template.interpolate template vars)
  | value => value

/-- The arguments of the call. -/
def arguments (config : ToolConfig) (vars : Variables) : Fields Json :=
  config.rawArguments.map fun (name, value) => (name, fillIn vars value)

end ToolConfig

/-- Stores what a tool reports. -/
def Context.storeResult (outputVariable : Option String) (result : ToolResult) (context : Context) :
    Context :=
  let context :=
    (context.set "lastToolResult" result.output).set "lastToolSuccess" (.bool result.success)
  if result.success then
    match outputVariable with
    | some name => context.set name result.output
    | none => context
  else context.set "error" (.string (result.error.getD "tool reported failure"))

/-- The span of a call. -/
def SpanDraft.called (draft : SpanDraft) (request : ToolRequest) (result : ToolResult) :
    SpanDraft :=
  { draft with
    input := request.arguments.render
    output := result.output.shownText
    error := result.error
    toolName := some request.name
    toolArgs := some request.arguments
    toolResult := some result.output
    toolError := result.error }

namespace Execution

variable {σ : Type}

/-- Calls a tool, under a fresh identifier. A call that was not possible is a failed result. -/
def callTool (collaborators : Collaborators σ) (request : ToolRequest) (execution : Execution σ) :
    ToolOutcome × Execution σ :=
  let (id, world) := collaborators.freshIdentifier execution.world
  let (answer, world) :=
    collaborators.callTool (request.call id) execution.context.toolContext world
  let outcome :=
    match answer with
    | .ok outcome => outcome
    | .error message => { result := .failed message }
  (outcome, { execution with world })

end Execution

namespace Handler

variable {σ : Type}

/-- Serves tool steps. -/
def tool : Handler σ := fun collaborators step execution =>
  match step.readConfig ToolConfig.read with
  | .error e => (.error e, execution)
  | .ok config =>
    match nonBlank? config.toolName with
    | none => (.error (.missingConfig step.id "toolName"), execution)
    | some name =>
      let request : ToolRequest :=
        { name, arguments := .object (config.arguments execution.context.vars) }
      let (outcome, execution) := execution.callTool collaborators request
      let result := outcome.result
      let execution := execution.modify (Context.storeResult config.outputVariable result)
      let execution :=
        match outcome.span with
        | some span => execution.modify (Context.push span)
        | none =>
          execution.record collaborators ((step.draft .toolCall).called request result)
      if result.success then (.ok (.ok step.connections.next (some result.output)), execution)
      else
        let failure := FlowError.tool name (result.error.getD "")
        (.ok (.failed (some failure.message) step.connections.onError), execution)

end Handler

end AgentFlow
