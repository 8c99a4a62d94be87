import AgentFlow.Execution.Error
import AgentFlow.Flow.Document
import AgentFlow.Flow.Graph
import AgentFlow.Tool.Call
import AgentFlow.Variables

/-!
# Executions

An execution has a context — variables, the trace so far, the states of loops — and collaborators
that do what the engine cannot: generate text, call tools, record spans. Collaborators are
functions on a state of their own (`σ`), which the engine threads through and never looks at. What
a collaborator does may depend on everything it did before, and on nothing else.

The trace is numbered without gaps: the next span gets the number `sequence`, and every span that
is added raises it by one.
-/

namespace AgentFlow

/-- What the engine relies on. -/
structure Collaborators (σ : Type) where
  /-- Generates a text, or says why not. -/
  generate : GenerationRequest → σ → Except String Generation × σ
  /-- Calls a tool, or says why that was not possible. -/
  callTool : ToolCall → ToolContext → σ → Except String ToolOutcome × σ
  /-- An identifier for a call, which has not been used. -/
  freshIdentifier : σ → String × σ
  /-- Makes a span of a draft. The flag says whether the span is to be kept for good. -/
  record : SpanDraft → Bool → σ → Span × σ

/-- The state of a loop. -/
structure LoopState where
  /-- How often the loop has been entered. -/
  index : Nat
  /-- How often it may be entered. -/
  max : Nat
  /-- What the loop goes through, if it goes through a list. -/
  items : Option (List Json)
  /-- The variable that holds the item. -/
  itemVariable : Option String
  deriving Inhabited

namespace LoopState

/-- A loop that counts. -/
def counter (max : Nat) : LoopState := ⟨0, max, none, none⟩

/-- A loop over items. -/
def ofItems (items : List Json) (itemVariable : String) : LoopState :=
  ⟨0, items.length, some items, some itemVariable⟩

/-- Has the loop been entered as often as it may? -/
def isExhausted (state : LoopState) : Bool :=
  state.max ≤ state.index

/-- The item that is next. -/
def currentItem? (state : LoopState) : Option Json :=
  state.items.bind fun items => items[state.index]?

end LoopState

/-- The settings of an execution. -/
structure ExecutionOptions where
  /-- How many steps an execution may take. -/
  maxSteps : Nat := 100
  /-- Are spans to be kept for good? -/
  persistSpans : Bool := true
  attemptId : String := "attempt"
  parentSpanId : Option String := none
  /-- The number of the first span. -/
  initialSequence : UInt64 := 0
  deriving Inhabited

/-- What an execution has gathered. -/
structure Context where
  agent : AgentConfig
  input : ExecutionInput
  vars : Variables
  /-- The number of the next span. -/
  sequence : UInt64
  spans : Array Span
  loops : Fields LoopState
  attemptId : String
  parentSpanId : Option String
  persistSpans : Bool
  deriving Inhabited

namespace Context

/-- The context in which an execution begins. -/
def initial (agent : AgentConfig) (input : ExecutionInput) (options : ExecutionOptions) :
    Context where
  agent := agent
  input := input
  vars := []
  sequence := options.initialSequence
  spans := #[]
  loops := []
  attemptId := options.attemptId
  parentSpanId := options.parentSpanId
  persistSpans := options.persistSpans

/-- What a step works on if it has nothing else: the variable `input` if it is a text, else the
input of the execution. -/
def currentInput (context : Context) : String :=
  (context.vars.text? "input").getD context.input.content

/-- The place in the trace that a tool is called from. -/
def toolContext (context : Context) : ToolContext :=
  ⟨context.attemptId, context.parentSpanId, context.sequence⟩

/-- Sets a variable. -/
def set (name : String) (value : Json) (context : Context) : Context :=
  { context with vars := context.vars.insert name value }

/-- Adds a span at the end of the trace, under the next number. -/
def push (span : Span) (context : Context) : Context :=
  { context with
    spans := context.spans.push { span with sequence := context.sequence }
    sequence := context.sequence + 1 }

end Context

/-- An execution that is under way: its context, and the state of its collaborators. -/
structure Execution (σ : Type) where
  context : Context
  world : σ

namespace Execution

variable {σ : Type}

/-- Changes the context. -/
def modify (f : Context → Context) (execution : Execution σ) : Execution σ :=
  { execution with context := f execution.context }

/-- Has a span recorded and adds it to the trace. The execution stamps the draft with its identity
and the next number. -/
def record (collaborators : Collaborators σ) (draft : SpanDraft) (execution : Execution σ) :
    Execution σ :=
  let context := execution.context
  let stamped :=
    { draft with
      attemptId := context.attemptId
      parentSpanId := context.parentSpanId
      sequence := context.sequence }
  let (span, world) := collaborators.record stamped context.persistSpans execution.world
  { context :=
      { context with
        spans := context.spans.push span
        sequence := context.sequence + 1 }
    world }

end Execution

/-- What a step reports. -/
structure StepResult where
  success : Bool
  /-- The value that the step produced, if it is of a kind that produces one. -/
  output : Option Json
  /-- The step to go on with. -/
  next : Option String
  /-- Why the step failed. -/
  error : Option String
  deriving Inhabited

namespace StepResult

/-- A step that succeeded. -/
def ok (next : Option String) (output : Option Json := none) : StepResult :=
  ⟨true, output, next, none⟩

/-- A step that failed and dealt with it. -/
def failed (message : Option String) (next : Option String) : StepResult :=
  ⟨false, none, next, message⟩

end StepResult

/-- Serves steps of one kind. A failure that the handler deals with is a result; an error is left
to whoever called the handler. -/
abbrev Handler (σ : Type) :=
  Collaborators σ → Step → Execution σ → Except FlowError StepResult × Execution σ

namespace Step

/-- The draft of a step's span. -/
def draft (step : Step) (kind : SpanKind) : SpanDraft :=
  { kind, stepId := some step.id, stepType := some step.kind.name }

/-- Reads the settings of a step. -/
def readConfig {α : Type} (step : Step) (read : Reader α) : Except FlowError α :=
  (read .json (.value (.object step.config))).mapError fun cause =>
    .invalidConfig step.id cause.message

end Step

end AgentFlow
