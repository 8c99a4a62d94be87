/-!
# Why an execution fails
-/

namespace AgentFlow

/-- The cause for which a step or a whole execution fails. -/
inductive FlowError where
  /-- No handler serves the kind of a step. -/
  | unknownStepKind (name : String)
  /-- A step leads to an identifier that no step has. -/
  | stepNotFound (id : String)
  /-- The execution has taken as many steps as it may. -/
  | maxStepsExceeded (limit : Nat)
  /-- A setting that the step needs is absent or blank. -/
  | missingConfig (stepId field : String)
  /-- The settings of a step do not have the types that they need. -/
  | invalidConfig (stepId message : String)
  /-- The generator refused. -/
  | generation (message : String)
  /-- The tool reported a failure. -/
  | tool (name message : String)
  /-- A step failed, and nothing handles the failure. -/
  | stepFailed (stepId message : String)
  /-- There is nothing to execute. -/
  | emptyFlow
  deriving DecidableEq, Repr, Inhabited

namespace FlowError

/-- The text shown for a cause. -/
def message : FlowError → String
  | unknownStepKind name => s!"Unknown step type: {name}"
  | stepNotFound id => s!"Step not found: {id}"
  | maxStepsExceeded limit => s!"Flow exceeded maximum steps limit ({limit})"
  | missingConfig stepId field => s!"Step '{stepId}' is missing required config '{field}'"
  | invalidConfig stepId message => s!"Step '{stepId}' has invalid config: {message}"
  | generation message => s!"Generation failed: {message}"
  | tool name message => s!"Tool '{name}' failed: {message}"
  | stepFailed stepId message => s!"Step '{stepId}' failed: {message}"
  | emptyFlow => "Flow has no steps and the agent has no system prompt"

/-- Could another execution end differently? Running into the limit of steps is sure to happen
again. -/
def isRetryable : FlowError → Bool
  | maxStepsExceeded _ => false
  | _ => true

end FlowError

end AgentFlow
