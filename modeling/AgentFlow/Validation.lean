import AgentFlow.Condition
import AgentFlow.Flow.Graph

/-!
# Validation

What can be said of a flow without executing it. A flow with an error cannot be executed safely;
warnings are advice.
-/

namespace AgentFlow

/-- What validation finds. -/
inductive Finding where
  | duplicateId (id : String)
  | noStart
  | noOutput
  | unknownTarget (id connection target : String)
  | noBranch (id : String)
  | invalidCondition (id : String) (cause : ExprError)
  | noCondition (id : String)
  | noBody (id : String)
  | noToolName (id : String)
  | unreachable (id : String)
  deriving DecidableEq, Repr, Inhabited

namespace Finding

/-- The text shown for a finding. -/
def message : Finding → String
  | duplicateId id => s!"Duplicate step id '{id}'"
  | noStart => "Flow has no start step"
  | noOutput => "Flow has no output step"
  | unknownTarget id connection target =>
    s!"Step '{id}' has {connection} connection to unknown step '{target}'"
  | noBranch id => s!"Condition step '{id}' has neither onTrue nor onFalse"
  | invalidCondition id cause =>
    s!"Condition step '{id}' has an invalid condition: " ++ cause.message
  | noCondition id => s!"Condition step '{id}' has no condition"
  | noBody id => s!"Loop step '{id}' has no onTrue (body) connection"
  | noToolName id => s!"Tool step '{id}' is missing toolName"
  | unreachable id => s!"Step '{id}' is unreachable from the start step"

end Finding

/-- The findings of a validation. -/
structure ValidationReport where
  errors : List Finding
  warnings : List Finding
  deriving DecidableEq, Repr, Inhabited

namespace ValidationReport

/-- Is a flow free of errors? -/
def valid (report : ValidationReport) : Bool :=
  report.errors.isEmpty

/-- The report as a value. -/
def toJson (report : ValidationReport) : Json :=
  let texts (findings : List Finding) : Json :=
    .array (findings.map fun finding => .string finding.message)
  .ofEntries [("valid", .bool report.valid), ("errors", texts report.errors),
    ("warnings", texts report.warnings)]

end ValidationReport

namespace Step

/-- The text of a setting, unless it is blank. -/
def configText? (step : Step) (key : String) : Option String :=
  ((step.config.get? key).bind Json.text?).filter fun s => !Text.isBlankText s

/-- The connections of a step that lead to no step of its flow. -/
def danglingTargets (flow : Flow) (step : Step) : List Finding :=
  step.connections.targets.filterMap fun (connection, target) =>
    if flow.any fun other => other.id = target then none
    else some (.unknownTarget step.id connection target)

/-- The errors of a step that do not concern its connections. -/
def settingErrors (step : Step) : List Finding :=
  match step.kind with
  | .condition =>
    match step.configText? "condition" with
    | some condition =>
      match Condition.check condition with
      | .ok _ => []
      | .error cause => [.invalidCondition step.id cause]
    | none => []
  | .tool => if (step.configText? "toolName").isSome then [] else [.noToolName step.id]
  | _ => []

/-- The warnings about a step taken by itself. -/
def warnings (step : Step) : List Finding :=
  match step.kind with
  | .condition =>
    (if step.connections.onTrue.isNone && step.connections.onFalse.isNone then
      [.noBranch step.id] else []) ++
    (if (step.configText? "condition").isNone then [.noCondition step.id] else [])
  | .loop => if step.connections.onTrue.isNone then [.noBody step.id] else []
  | _ => []

end Step

namespace Flow

/-- The identifiers that were declared before, in the order in which they come again. -/
def duplicates (seen : List String) : Flow → List Finding
  | [] => []
  | step :: rest =>
    if seen.contains step.id then .duplicateId step.id :: duplicates seen rest
    else duplicates (step.id :: seen) rest

/-- The steps that cannot be reached from the start step. -/
def unreachable (flow : Flow) : List Finding :=
  match flow.start? with
  | none => []
  | some start =>
    let reached := flow.reachable start
    flow.filterMap fun step =>
      if reached.contains step.id then none else some (.unreachable step.id)

/-- Validates a flow. -/
def validate (flow : Flow) : ValidationReport where
  errors :=
    flow.duplicates [] ++ (if flow.start?.isNone then [.noStart] else []) ++
      flow.flatMap fun step => step.danglingTargets flow ++ step.settingErrors
  warnings :=
    (if flow.any fun step => step.kind = .output then [] else [.noOutput]) ++
      flow.flatMap Step.warnings ++ flow.unreachable

end Flow

end AgentFlow
