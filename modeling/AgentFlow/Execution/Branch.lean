import AgentFlow.Condition
import AgentFlow.Execution.Prompt

/-!
# Branches and loops

A condition step goes one of two ways. A loop step goes into its body a number of times and then on
behind it; what it goes through is settled when it is first reached, and forgotten once it is
through, so a loop that is reached again starts afresh.
-/

namespace AgentFlow

/-- The settings of a condition step. -/
structure ConditionConfig where
  condition : Option String

/-- Reads the settings of a condition step. -/
def ConditionConfig.read : Reader ConditionConfig :=
  RecordType.read ⟨"ConditionConfig", ["condition"]⟩ fun field =>
    mk <$> (field "condition").optional Decode.text

/-- The condition of a step. -/
def Step.condition (step : Step) : Except FlowError String :=
  match step.readConfig ConditionConfig.read with
  | .error e => .error e
  | .ok config =>
    match nonBlank? config.condition with
    | some condition => .ok condition
    | none => .error (.missingConfig step.id "condition")

/-- The settings of a loop step. -/
structure LoopConfig where
  maxIterations : Option Nat
  /-- The path of the list to go through. -/
  itemsVariable : Option String
  itemVariable : Option String

namespace LoopConfig

/-- Reads the settings of a loop step. -/
def read : Reader LoopConfig :=
  RecordType.read ⟨"LoopConfig", ["maxIterations", "itemsVariable", "itemVariable"]⟩ fun field =>
    mk <$> (field "maxIterations").optional Decode.size
      <*> (field "itemsVariable").optional Decode.text
      <*> (field "itemVariable").optional Decode.text

/-- The state in which a loop begins. A path that leads to no list leads to no items. -/
def initialState (config : LoopConfig) (vars : Variables) : LoopState :=
  match config.itemsVariable with
  | none => .counter (config.maxIterations.getD 10)
  | some path =>
    .ofItems (((vars.path? path).bind Json.items?).getD []) (config.itemVariable.getD "item")

end LoopConfig

namespace Context

/-- The state of a step's loop: the one it is in, or the one it begins in. -/
def loopState (id : String) (config : LoopConfig) (context : Context) : LoopState :=
  (context.loops.get? id).getD (config.initialState context.vars)

/-- Goes into the body of a loop: sets the index and the item, and counts. -/
def enterLoop (id : String) (state : LoopState) (context : Context) : Context :=
  let context := context.set "loopIndex" (.ofNat state.index)
  let context :=
    match state.itemVariable, state.currentItem? with
    | some name, some item => context.set name item
    | _, _ => context
  { context with loops := context.loops.insert id { state with index := state.index + 1 } }

/-- Leaves a loop for good. -/
def leaveLoop (id : String) (context : Context) : Context :=
  { context with loops := context.loops.erase id }

end Context

namespace Handler

variable {σ : Type}

/-- Serves condition steps. A condition that is missing is a failure, which goes the way of errors
or else the way of `false`. -/
def condition : Handler σ := fun collaborators step execution =>
  match step.condition with
  | .error e =>
    let draft := { step.draft .reasoning with error := some e.message }
    (.ok (.failed (some e.message) (step.connections.onError.or step.connections.onFalse)),
      execution.record collaborators draft)
  | .ok condition =>
    let holds := Condition.holds condition execution.context.vars
    let draft :=
      { step.draft .reasoning with
        input := condition, output := if holds then "true" else "false" }
    let next := if holds then step.connections.onTrue else step.connections.onFalse
    (.ok (.ok next), execution.record collaborators draft)

/-- Serves loop steps. -/
def loop : Handler σ := fun collaborators step execution =>
  match step.readConfig LoopConfig.read with
  | .error e => (.error e, execution)
  | .ok config =>
    let state := execution.context.loopState step.id config
    let connections := step.connections
    if state.isExhausted then
      let draft :=
        { step.draft .reasoning with output := s!"completed after {state.max} iterations" }
      (.ok (.ok (connections.onFalse.or connections.next)),
        (execution.modify (Context.leaveLoop step.id)).record collaborators draft)
    else
      let draft := { step.draft .reasoning with output := s!"iteration {state.index}" }
      (.ok (.ok (connections.onTrue.or connections.next)),
        (execution.modify (Context.enterLoop step.id state)).record collaborators draft)

end Handler

end AgentFlow
