import AgentFlow.Decode.Record

/-!
# Steps

A flow is a list of steps. A step has a kind, settings that only its kind understands, and up to
four connections to other steps, which it names by their identifiers.
-/

namespace AgentFlow

/-- The kind of a step. Names that are not built in are kept. -/
inductive StepKind where
  | start
  | prompt
  | tool
  | condition
  | loop
  | output
  | other (name : String)
  deriving DecidableEq, Repr, Inhabited

namespace StepKind

/-- The name of a kind. -/
def name : StepKind → String
  | start => "start"
  | prompt => "prompt"
  | tool => "tool"
  | condition => "condition"
  | loop => "loop"
  | output => "output"
  | other name => name

/-- The kinds that are built in. -/
def builtins : List StepKind := [start, prompt, tool, condition, loop, output]

/-- The kind with a name. -/
def ofName (name : String) : StepKind :=
  (builtins.find? fun kind => kind.name = name).getD (other name)

/-- A name names its kind. -/
theorem name_ofName (name : String) : (ofName name).name = name := by
  unfold ofName
  cases h : builtins.find? fun kind => kind.name = name with
  | none => rfl
  | some kind => simpa using List.find?_some h

/-- Reads a kind. -/
def read : Reader StepKind := fun conventions node =>
  (Decode.text conventions node).map ofName

end StepKind

/-- Where a step leads to. -/
structure Connections where
  next : Option String := none
  onTrue : Option String := none
  onFalse : Option String := none
  onError : Option String := none
  deriving DecidableEq, Repr, Inhabited

namespace Connections

/-- The connections that are there, each with its name. -/
def targets (connections : Connections) : List (String × String) :=
  [("next", connections.next), ("onTrue", connections.onTrue), ("onFalse", connections.onFalse),
    ("onError", connections.onError)].filterMap fun (name, target) =>
      target.map fun id => (name, id)

/-- The connections as a value; those that are absent are left out. -/
def toJson (connections : Connections) : Json :=
  .ofEntries <|
    Json.entryIfSome "next" .string connections.next ++
    Json.entryIfSome "onTrue" .string connections.onTrue ++
    Json.entryIfSome "onFalse" .string connections.onFalse ++
    Json.entryIfSome "onError" .string connections.onError

/-- The declaration of the connections. -/
def type : RecordType := ⟨"Connections", ["next", "onTrue", "onFalse", "onError"]⟩

/-- Reads connections. -/
def read : Reader Connections :=
  type.read fun field =>
    mk <$> (field "next").optional Decode.text <*> (field "onTrue").optional Decode.text
      <*> (field "onFalse").optional Decode.text <*> (field "onError").optional Decode.text

end Connections

/-- A step of a flow. -/
structure Step where
  id : String
  kind : StepKind
  name : String := ""
  /-- The settings that the kind understands; others are kept and ignored. -/
  config : Fields Json := []
  connections : Connections := {}
  deriving Inhabited

namespace Step

/-- The step as a value. -/
def toJson (step : Step) : Json :=
  .ofEntries [("id", .string step.id), ("type", .string step.kind.name),
    ("name", .string step.name), ("config", .object step.config),
    ("connections", step.connections.toJson)]

/-- The declaration of a step. -/
def type : RecordType := ⟨"FlowStep", ["id", "type", "name", "config", "connections"]⟩

/-- Reads a step. -/
def read : Reader Step :=
  type.read fun field =>
    mk <$> (field "id").required Decode.text <*> (field "type").required StepKind.read
      <*> (field "name").withDefault "" Decode.text
      <*> (field "config").withDefault [] Decode.map
      <*> (field "connections").withDefault {} Connections.read

/-- The identifiers of the steps that a step is connected to. -/
def successors (step : Step) : List String :=
  step.connections.targets.map Prod.snd

end Step

end AgentFlow
