import AgentFlow.Execution.Context
import AgentFlow.Template

/-!
# Where a flow starts and ends

A start step puts the input and the variables of its settings into place. An output step makes the
answer and ends the flow; the input itself never becomes the answer unless a setting asks for it.
-/

namespace AgentFlow

/-- The settings of a start step. -/
structure StartConfig where
  vars : Option (Fields Json)

/-- Reads the settings of a start step. -/
def StartConfig.read : Reader StartConfig :=
  RecordType.read ⟨"StartConfig", ["variables"]⟩ fun field =>
    mk <$> (field "variables").optional Decode.map

/-- The settings of an output step. -/
structure OutputConfig where
  template : Option String
  /-- The path of the variable that holds the answer. -/
  path : Option String

/-- Reads the settings of an output step. -/
def OutputConfig.read : Reader OutputConfig :=
  RecordType.read ⟨"OutputConfig", ["template", "variable"]⟩ fun field =>
    mk <$> (field "template").optional Decode.text <*> (field "variable").optional Decode.text

/-- Puts the input and the variables of the settings into place. -/
def Context.seed (given : Option (Fields Json)) (context : Context) : Context :=
  let vars := context.vars.insert "input" (Json.string context.input.content)
  let vars :=
    match context.input.context with
    | some session => vars.insert "sessionContext" (Json.string session)
    | none => vars
  { context with vars := vars.merge (given.getD []) }

/-- A value, unless it is null. -/
def Json.nonNull? : Option Json → Option Json
  | some .null => none
  | value => value

/-- The answer: the template if there is one, else the variable if it has a value, else the last
output. -/
def OutputConfig.answer (config : OutputConfig) (vars : Variables) : Json :=
  match config.template.filter fun template => !template.isEmpty with
  | some template => .string (Template.interpolate template vars)
  | none =>
    ((Json.nonNull? (config.path.bind vars.path?)).or
      (Json.nonNull? (vars.get? "lastOutput"))).getD (.string "")

namespace Handler

variable {σ : Type}

/-- Serves start steps. -/
def start : Handler σ := fun collaborators step execution =>
  match step.readConfig StartConfig.read with
  | .error e => (.error e, execution)
  | .ok config =>
    let execution := execution.modify (Context.seed config.vars)
    let draft :=
      { step.draft .reasoning with
        input := execution.context.input.content, output := "Flow started" }
    (.ok (.ok step.connections.next), execution.record collaborators draft)

/-- Serves output steps. -/
def output : Handler σ := fun collaborators step execution =>
  match step.readConfig OutputConfig.read with
  | .error e => (.error e, execution)
  | .ok config =>
    let answer := config.answer execution.context.vars
    let draft := { step.draft .output with output := answer.shownText }
    (.ok (.ok none (some answer)), execution.record collaborators draft)

end Handler

end AgentFlow
