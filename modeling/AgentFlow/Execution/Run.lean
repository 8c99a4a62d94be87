import AgentFlow.Execution.Boundary
import AgentFlow.Execution.Branch
import AgentFlow.Execution.ToolStep
import AgentFlow.Flow.Result

/-!
# Running flows

A run walks from step to step, each served by the handler of its kind, until a step leads nowhere,
a failure is not handled, or as many steps have been taken as may be. Cycles are welcome; the
limit of steps bounds them, and is what makes the walk end.

A run never fails: all that goes wrong is in its result.
-/

namespace AgentFlow

/-- The handlers of the kinds of steps. -/
abbrev Handlers (σ : Type) := StepKind → Option (Handler σ)

namespace Handlers

variable {σ : Type}

/-- The handlers of the built-in kinds. -/
def builtin : Handlers σ
  | .start => some Handler.start
  | .prompt => some Handler.prompt
  | .tool => some Handler.tool
  | .condition => some Handler.condition
  | .loop => some Handler.loop
  | .output => some Handler.output
  | .other _ => none

/-- Serves one kind by another handler. -/
def replace (handlers : Handlers σ) (kind : StepKind) (handler : Handler σ) : Handlers σ :=
  fun other => if other = kind then some handler else handlers other

end Handlers

/-- An execution with the count of its steps and the last value produced. -/
structure Walk (σ : Type) where
  execution : Execution σ
  stepsTaken : Nat
  output : Option Json

/-- How a turn ends. -/
inductive Turn where
  /-- The step leads nowhere: the run is complete. -/
  | complete
  /-- The run goes on at a step. -/
  | goOn (id : String)
  /-- The run fails. -/
  | fail (error : FlowError)
  deriving DecidableEq, Repr, Inhabited

namespace StepResult

/-- How a turn ends whose step reports a result. -/
def turn (stepId : String) (result : StepResult) : Turn :=
  match result.next, result.success with
  | some next, _ => .goOn next
  | none, true => .complete
  | none, false => .fail (.stepFailed stepId (result.error.getD "step failed"))

end StepResult

namespace Walk

variable {σ : Type}

/-- Records an error that a handler left, and follows the way of errors if the step has one. -/
def catchError (collaborators : Collaborators σ) (step : Step) (error : FlowError)
    (execution : Execution σ) : Turn × Execution σ :=
  let draft := { step.draft .reasoning with error := some error.message }
  let execution := execution.record collaborators draft
  match step.connections.onError with
  | some next => (.goOn next, execution.modify (Context.set "error" (.string error.message)))
  | none => (.fail error, execution)

/-- Takes one step. -/
def turn (collaborators : Collaborators σ) (handlers : Handlers σ) (step : Step) (walk : Walk σ) :
    Turn × Walk σ :=
  let walk := { walk with stepsTaken := walk.stepsTaken + 1 }
  match handlers step.kind with
  | none => (.fail (.unknownStepKind step.kind.name), walk)
  | some handler =>
    match handler collaborators step walk.execution with
    | (.ok result, execution) =>
      (result.turn step.id, { walk with execution, output := result.output.or walk.output })
    | (.error error, execution) =>
      let (turn, execution) := catchError collaborators step error execution
      (turn, { walk with execution })

/-- Walks on from a step. `left` is how many steps may still be taken, `limit` how many it were in
all. Returns the error of a run that fails. -/
def onward (collaborators : Collaborators σ) (handlers : Handlers σ) (flow : Flow) (limit : Nat) :
    Nat → Step → Walk σ → Option FlowError × Walk σ
  | 0, _, walk => (some (.maxStepsExceeded limit), walk)
  | left + 1, step, walk =>
    match turn collaborators handlers step walk with
    | (.complete, walk) => (none, walk)
    | (.fail error, walk) => (some error, walk)
    | (.goOn id, walk) =>
      match flow.step? id with
      | none => (some (.stepNotFound id), walk)
      | some next => onward collaborators handlers flow limit left next walk

end Walk

/-- What a run needs apart from its collaborators. -/
structure Task where
  agent : AgentConfig
  flow : Flow
  input : ExecutionInput
  options : ExecutionOptions

/-- A finished run: its result, and the error that it failed with. -/
structure Outcome where
  result : ExecutionResult
  error : Option FlowError

namespace Walk

variable {σ : Type}

/-- The outcome of a walk. The engine has no clock, so the result lasts no time. -/
def outcome (error : Option FlowError) (walk : Walk σ) : Outcome where
  result :=
    { success := error.isNone
      output := (walk.output.map Json.shownText).getD ""
      spans := walk.execution.context.spans.toList
      error := error.map FlowError.message
      durationMs := 0
      stepsExecuted := walk.stepsTaken
      vars := walk.execution.context.vars }
  error := error

end Walk

namespace Task

variable {σ : Type}

/-- The walk before its first step. -/
def begin (task : Task) (world : σ) : Walk σ :=
  ⟨⟨.initial task.agent task.input task.options, world⟩, 0, none⟩

/-- Walks through the whole flow. -/
def walk (task : Task) (collaborators : Collaborators σ) (handlers : Handlers σ) (world : σ) :
    Option FlowError × Walk σ :=
  match task.flow.entry? with
  | none =>
    match (task.begin world).execution.singlePrompt collaborators with
    | (.ok text, execution) => (none, ⟨execution, 0, some text⟩)
    | (.error error, execution) => (some error, ⟨execution, 0, none⟩)
  | some entry =>
    Walk.onward collaborators handlers task.flow task.options.maxSteps task.options.maxSteps entry
      (task.begin world)

/-- Runs a flow. -/
def run (task : Task) (collaborators : Collaborators σ) (handlers : Handlers σ) (world : σ) :
    Outcome × σ :=
  let (error, walk) := task.walk collaborators handlers world
  (walk.outcome error, walk.execution.world)

/-- Runs a flow, and again as long as it fails, another try could end differently, and there are
tries left. Every try starts from the beginning, with the collaborators as the one before has left
them. -/
def runWithRetry (task : Task) (collaborators : Collaborators σ) (handlers : Handlers σ) :
    (retries : Nat) → σ → Outcome × σ
  | 0, world => task.run collaborators handlers world
  | retries + 1, world =>
    let (outcome, world) := task.run collaborators handlers world
    if outcome.error.any FlowError.isRetryable then
      task.runWithRetry collaborators handlers retries world
    else (outcome, world)

end Task

end AgentFlow
