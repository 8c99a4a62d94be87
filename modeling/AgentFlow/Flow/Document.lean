import AgentFlow.Flow.Step
import AgentFlow.Model.Generation

/-!
# Flow documents

A flow as it is stored: its name, the settings of the agent that runs it, and its steps; and the
input that an execution starts from.
-/

namespace AgentFlow

/-- The settings that all steps of a flow share. -/
structure AgentConfig where
  systemPrompt : Option String := none
  temperature : Float32 := 0.7
  maxTokens : UInt32 := 2048
  model : String := "gpt-4o-mini"
  deriving Inhabited

namespace AgentConfig

/-- The settings as a value. -/
def toJson (agent : AgentConfig) : Json :=
  .ofEntries [("systemPrompt", .ofOption .string agent.systemPrompt),
    ("temperature", .ofSingle agent.temperature), ("maxTokens", .ofNat agent.maxTokens.toNat),
    ("model", .string agent.model)]

/-- The declaration of the settings. -/
def type : RecordType := ⟨"AgentConfig", ["systemPrompt", "temperature", "maxTokens", "model"]⟩

/-- Reads settings; each has a default. -/
def read : Reader AgentConfig :=
  let default : AgentConfig := {}
  type.read fun field =>
    mk <$> (field "systemPrompt").optional Decode.text
      <*> (field "temperature").withDefault default.temperature Decode.single
      <*> (field "maxTokens").withDefault default.maxTokens Decode.count32
      <*> (field "model").withDefault default.model Decode.text

end AgentConfig

/-- What an execution starts from. -/
structure ExecutionInput where
  content : String := ""
  /-- What is known from earlier in the session. -/
  context : Option String := none
  deriving DecidableEq, Repr, Inhabited

namespace ExecutionInput

/-- The input as a value. -/
def toJson (input : ExecutionInput) : Json :=
  .ofEntries [("content", .string input.content), ("context", .ofOption .string input.context)]

/-- The declaration of the input. -/
def type : RecordType := ⟨"ExecutionInput", ["content", "context"]⟩

/-- Reads an input. -/
def read : Reader ExecutionInput :=
  type.read fun field =>
    mk <$> (field "content").required Decode.text <*> (field "context").optional Decode.text

end ExecutionInput

/-- A flow as it is stored. -/
structure FlowDocument where
  name : String
  description : String := ""
  agent : AgentConfig := {}
  steps : List Step := []
  deriving Inhabited

namespace FlowDocument

/-- The document as a value. -/
def toJson (document : FlowDocument) : Json :=
  .ofEntries [("name", .string document.name), ("description", .string document.description),
    ("agent", document.agent.toJson), ("steps", .array (document.steps.map Step.toJson))]

/-- The declaration of a document. -/
def type : RecordType := ⟨"FlowDocument", ["name", "description", "agent", "steps"]⟩

/-- Reads a document. -/
def read : Reader FlowDocument :=
  type.read fun field =>
    mk <$> (field "name").required Decode.text
      <*> (field "description").withDefault "" Decode.text
      <*> (field "agent").withDefault {} AgentConfig.read
      <*> (field "steps").withDefault [] (Decode.list Step.read)

/-- Reads a document from JSON text. -/
def ofJsonText (text : String) : Except DecodeError FlowDocument := do
  let (node, behind) := Json.readText text
  let document ← read .json node
  match behind with
  | none => .ok document
  | some fault => .error (.unreadable fault)

end FlowDocument

end AgentFlow
