import AgentFlow.Execution.Context
import AgentFlow.Template

/-!
# Prompts

A prompt step asks the generator for a text and stores it. A flow without steps does the same once,
with the agent's system prompt and the input as it is.
-/

namespace AgentFlow

/-- The settings of a prompt step. -/
structure PromptConfig where
  template : Option String
  systemPrompt : Option String
  outputVariable : Option String

/-- Reads the settings of a prompt step. -/
def PromptConfig.read : Reader PromptConfig :=
  RecordType.read ⟨"PromptConfig", ["template", "systemPrompt", "outputVariable"]⟩ fun field =>
    mk <$> (field "template").optional Decode.text
      <*> (field "systemPrompt").optional Decode.text
      <*> (field "outputVariable").optional Decode.text

/-- A text, unless it is blank. -/
def nonBlank? (text : Option String) : Option String :=
  text.filter fun s => !Text.isBlankText s

/-- The generation settings that an agent asks for. -/
def AgentConfig.generation (agent : AgentConfig) : GenerationConfig where
  temperature := some agent.temperature
  maxOutputTokens := some agent.maxTokens
  model := some agent.model

/-- The prompt of a step: its template if that is not blank, else what the step works on. -/
def PromptConfig.prompt (config : PromptConfig) (context : Context) : String :=
  match nonBlank? config.template with
  | some template => Template.interpolate template context.vars
  | none => context.currentInput

/-- The system prompt of a step: its own, else the agent's; a blank one is none. -/
def PromptConfig.system (config : PromptConfig) (agent : AgentConfig) : Option String :=
  nonBlank? (config.systemPrompt.or agent.systemPrompt)

/-- The span of a generation that gave a text. -/
def SpanDraft.generated (draft : SpanDraft) (generation : Generation) : SpanDraft :=
  { draft with
    output := generation.text
    promptTokens := generation.usage.map TokenUsage.promptTokens
    completionTokens := generation.usage.map TokenUsage.completionTokens }

namespace Execution

variable {σ : Type}

/-- Asks the generator. -/
def generate (collaborators : Collaborators σ) (system : Option String) (prompt : String)
    (execution : Execution σ) : Except String Generation × Execution σ :=
  let request := ⟨system, prompt, execution.context.agent.generation⟩
  let (generated, world) := collaborators.generate request execution.world
  (generated, { execution with world })

end Execution

namespace Handler

variable {σ : Type}

/-- Serves prompt steps. -/
def prompt : Handler σ := fun collaborators step execution =>
  match step.readConfig PromptConfig.read with
  | .error e => (.error e, execution)
  | .ok config =>
    let agent := execution.context.agent
    let prompt := config.prompt execution.context
    let draft := { step.draft .llmCall with input := prompt, modelId := some agent.model }
    match execution.generate collaborators (config.system agent) prompt with
    | (.ok generation, execution) =>
      let text : Json := .string generation.text
      let execution := execution.modify fun context =>
        (context.set (config.outputVariable.getD "lastOutput") text).set "lastOutput" text
      (.ok (.ok step.connections.next (some text)),
        execution.record collaborators (draft.generated generation))
    | (.error message, execution) =>
      let execution := execution.record collaborators { draft with error := some message }
      let failure := StepResult.failed (some (FlowError.generation message).message)
      match step.connections.onError with
      | some id =>
        (.ok (failure (some id)), execution.modify (Context.set "error" (.string message)))
      | none => (.ok (failure none), execution)

end Handler

namespace Execution

variable {σ : Type}

/-- Executes a flow without steps: one generation with the agent's system prompt over the input.
Returns the generated text. -/
def singlePrompt (collaborators : Collaborators σ) (execution : Execution σ) :
    Except FlowError Json × Execution σ :=
  let context := execution.context
  match nonBlank? context.agent.systemPrompt with
  | none => (.error .emptyFlow, execution)
  | some system =>
    let draft : SpanDraft :=
      { kind := .llmCall, input := context.input.content, modelId := some context.agent.model }
    match execution.generate collaborators (some system) context.input.content with
    | (.ok generation, execution) =>
      let text : Json := .string generation.text
      let execution := execution.record collaborators (draft.generated generation)
      (.ok text, execution.modify (Context.set "lastOutput" text))
    | (.error message, execution) =>
      (.error (.generation message),
        execution.record collaborators { draft with error := some message })

end Execution

end AgentFlow
