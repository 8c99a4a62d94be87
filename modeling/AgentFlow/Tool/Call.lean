import AgentFlow.Trace.Span

/-!
# Tool calls

A call of a tool by name, the place in the trace that it is made from, and what comes back. A
failed call is a result like any other.
-/

namespace AgentFlow

/-- A call of a tool. -/
structure ToolCall where
  id : String
  name : String
  arguments : Json
  deriving Inhabited

namespace ToolCall

/-- The call as a value. -/
def toJson (call : ToolCall) : Json :=
  .ofEntries [("id", .string call.id), ("name", .string call.name), ("arguments", call.arguments)]

/-- The declaration of a call. -/
def type : RecordType := ⟨"ToolCall", ["id", "name", "arguments"]⟩

/-- Reads a call. -/
def read : Reader ToolCall :=
  type.read fun field =>
    mk <$> (field "id").required Decode.text <*> (field "name").required Decode.text
      <*> (field "arguments").required Decode.json

end ToolCall

/-- What a step asks of a tool. -/
structure ToolRequest where
  name : String
  arguments : Json
  deriving Inhabited

/-- The call that makes a request, under an identifier of its own. -/
def ToolRequest.call (request : ToolRequest) (id : String) : ToolCall :=
  ⟨id, request.name, request.arguments⟩

/-- The place in the trace that a tool is called from: the span that the call will get. -/
structure ToolContext where
  attemptId : String
  parentSpanId : Option String
  sequence : UInt64
  deriving DecidableEq, Repr, Inhabited

/-- What a tool reports. -/
structure ToolResult where
  success : Bool
  output : Json
  error : Option String
  deriving Inhabited

namespace ToolResult

/-- A success. -/
def ok (output : Json) : ToolResult := ⟨true, output, none⟩

/-- A failure with its message. -/
def failed (message : String) : ToolResult := ⟨false, .null, some message⟩

/-- The result as a value. -/
def toJson (result : ToolResult) : Json :=
  .ofEntries ([("success", .bool result.success), ("output", result.output)] ++
    Json.entryIfSome "error" .string result.error)

/-- The declaration of a result. -/
def type : RecordType := ⟨"ToolResult", ["success", "output", "error"]⟩

/-- Reads a result. -/
def read : Reader ToolResult :=
  type.read fun field =>
    mk <$> (field "success").required Decode.bool <*> (field "output").required Decode.json
      <*> (field "error").nullable Decode.text

end ToolResult

/-- What comes back from a call: a result, and the span if the tool has recorded one itself. -/
structure ToolOutcome where
  result : ToolResult
  span : Option Span := none
  deriving Inhabited

end AgentFlow
