import AgentFlow.Decode.Record

/-!
# Spans

A span is the entry of one step in the trace of an execution: what went in, what came out, when,
and what a generator or a tool had to do with it. The engine drafts spans (`SpanDraft`); a recorder
gives them an identifier and makes them `Span`s.
-/

namespace AgentFlow

/-- The kind of work that a span tells of. -/
inductive SpanKind where
  | llmCall
  | toolCall
  | toolResult
  | reasoning
  | output
  deriving DecidableEq, Repr, Inhabited

namespace SpanKind

/-- The name of a kind. -/
def name : SpanKind → String
  | llmCall => "llm_call"
  | toolCall => "tool_call"
  | toolResult => "tool_result"
  | reasoning => "reasoning"
  | output => "output"

/-- All kinds. -/
def all : List SpanKind := [llmCall, toolCall, toolResult, reasoning, output]

/-- The kind with a name. -/
def ofName? (name : String) : Option SpanKind :=
  all.find? fun kind => kind.name = name

/-- A name names its kind. -/
theorem ofName?_name (kind : SpanKind) : ofName? kind.name = some kind := by
  cases kind <;> decide

/-- The kind with a name, or the cause why there is none. -/
def ofName (name : String) : Except DecodeError SpanKind :=
  match ofName? name with
  | some kind => .ok kind
  | none => .error (.unknownVariant name (all.map SpanKind.name))

/-- Reads a kind from a value: its name, or an object whose one entry has the name and no
content. -/
def ofJson : Json → Except DecodeError SpanKind
  | .string name => ofName name
  | .object [(name, content)] => do
    let kind ← ofName name
    match content with
    | .null => .ok kind
    | content => .error (.wrongType (.ofJson content) "unit")
  | .object _ => .error (.wrongValue .map "map with a single key")
  | v => .error (.wrongType (.ofJson v) "string or map")

/-- Reads a kind. -/
def read : Reader SpanKind := fun conventions node => do
  ofJson (← Decode.json conventions node)

end SpanKind

/-- What a span tells, all but its identifier. -/
structure SpanDraft where
  attemptId : String := ""
  parentSpanId : Option String := none
  sequence : UInt64 := 0
  kind : SpanKind := .reasoning
  stepId : Option String := none
  stepType : Option String := none
  input : String := ""
  output : String := ""
  error : Option String := none
  startedAt : Timestamp := .epoch
  endedAt : Timestamp := .epoch
  modelId : Option String := none
  promptTokens : Option UInt32 := none
  completionTokens : Option UInt32 := none
  toolName : Option String := none
  toolArgs : Option Json := none
  toolResult : Option Json := none
  toolError : Option String := none
  deriving Inhabited

/-- A recorded span. -/
structure Span where
  id : String
  attemptId : String
  parentSpanId : Option String
  sequence : UInt64
  kind : SpanKind
  stepId : Option String
  stepType : Option String
  input : String
  output : String
  error : Option String
  startedAt : Timestamp
  endedAt : Timestamp
  durationMs : UInt64
  modelId : Option String
  promptTokens : Option UInt32
  completionTokens : Option UInt32
  toolName : Option String
  toolArgs : Option Json
  toolResult : Option Json
  toolError : Option String
  deriving Inhabited

namespace Span

/-- The span of a draft. It lasts no time if it ends before it starts. -/
def ofDraft (id : String) (draft : SpanDraft) : Span where
  id := id
  attemptId := draft.attemptId
  parentSpanId := draft.parentSpanId
  sequence := draft.sequence
  kind := draft.kind
  stepId := draft.stepId
  stepType := draft.stepType
  input := draft.input
  output := draft.output
  error := draft.error
  startedAt := draft.startedAt
  endedAt := draft.endedAt
  durationMs := (draft.startedAt.millisUntil draft.endedAt).toUInt64
  modelId := draft.modelId
  promptTokens := draft.promptTokens
  completionTokens := draft.completionTokens
  toolName := draft.toolName
  toolArgs := draft.toolArgs
  toolResult := draft.toolResult
  toolError := draft.toolError

/-- The span as a value; what is absent is left out. -/
def toJson (span : Span) : Json :=
  .ofEntries <|
    [("id", .string span.id), ("attemptId", .string span.attemptId)] ++
    Json.entryIfSome "parentSpanId" .string span.parentSpanId ++
    [("sequence", .ofNat span.sequence.toNat), ("type", .string span.kind.name)] ++
    Json.entryIfSome "stepId" .string span.stepId ++
    Json.entryIfSome "stepType" .string span.stepType ++
    [("input", .string span.input), ("output", .string span.output)] ++
    Json.entryIfSome "error" .string span.error ++
    [("startedAt", .string span.startedAt.render), ("endedAt", .string span.endedAt.render),
      ("durationMs", .ofNat span.durationMs.toNat)] ++
    Json.entryIfSome "modelId" .string span.modelId ++
    Json.entryIfSome "promptTokens" (fun n => .ofNat n.toNat) span.promptTokens ++
    Json.entryIfSome "completionTokens" (fun n => .ofNat n.toNat) span.completionTokens ++
    Json.entryIfSome "toolName" .string span.toolName ++
    Json.entryIfSome "toolArgs" (fun v => v) span.toolArgs ++
    Json.entryIfSome "toolResult" (fun v => v) span.toolResult ++
    Json.entryIfSome "toolError" .string span.toolError

/-- The declaration of a span. -/
def type : RecordType :=
  ⟨"ExecutionSpan", ["id", "attemptId", "parentSpanId", "sequence", "type", "stepId", "stepType",
    "input", "output", "error", "startedAt", "endedAt", "durationMs", "modelId", "promptTokens",
    "completionTokens", "toolName", "toolArgs", "toolResult", "toolError"]⟩

/-- Reads a span. -/
def read : Reader Span :=
  type.read fun field =>
    mk <$> (field "id").required Decode.text
      <*> (field "attemptId").required Decode.text
      <*> (field "parentSpanId").nullable Decode.text
      <*> (field "sequence").required Decode.count64
      <*> (field "type").required SpanKind.read
      <*> (field "stepId").nullable Decode.text
      <*> (field "stepType").nullable Decode.text
      <*> (field "input").required Decode.text
      <*> (field "output").required Decode.text
      <*> (field "error").nullable Decode.text
      <*> (field "startedAt").required Decode.timestamp
      <*> (field "endedAt").required Decode.timestamp
      <*> (field "durationMs").required Decode.count64
      <*> (field "modelId").nullable Decode.text
      <*> (field "promptTokens").nullable Decode.count32
      <*> (field "completionTokens").nullable Decode.count32
      <*> (field "toolName").nullable Decode.text
      <*> (field "toolArgs").nullable Decode.json
      <*> (field "toolResult").nullable Decode.json
      <*> (field "toolError").nullable Decode.text

end Span

end AgentFlow
