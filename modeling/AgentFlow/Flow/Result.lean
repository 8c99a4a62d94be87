import AgentFlow.Trace.Span

/-!
# Results of executions
-/

namespace AgentFlow

/-- What an execution leaves. -/
structure ExecutionResult where
  success : Bool
  output : String
  spans : List Span
  error : Option String
  durationMs : UInt64
  stepsExecuted : Nat
  vars : Fields Json
  deriving Inhabited

namespace ExecutionResult

/-- The result as a value. -/
def toJson (result : ExecutionResult) : Json :=
  .ofEntries <|
    [("success", .bool result.success), ("output", .string result.output),
      ("spans", .array (result.spans.map Span.toJson))] ++
    Json.entryIfSome "error" .string result.error ++
    [("durationMs", .ofNat result.durationMs.toNat),
      ("stepsExecuted", .ofNat result.stepsExecuted), ("variables", .object result.vars)]

/-- The declaration of a result. -/
def type : RecordType :=
  ⟨"FlowExecutionResult", ["success", "output", "spans", "error", "durationMs", "stepsExecuted",
    "variables"]⟩

/-- Reads a result. -/
def read : Reader ExecutionResult :=
  type.read fun field =>
    mk <$> (field "success").required Decode.bool <*> (field "output").required Decode.text
      <*> (field "spans").required (Decode.list Span.read)
      <*> (field "error").nullable Decode.text
      <*> (field "durationMs").required Decode.count64
      <*> (field "stepsExecuted").required Decode.size
      <*> (field "variables").required Decode.map

end ExecutionResult

end AgentFlow
