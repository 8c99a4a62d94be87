import AgentFlow.Decode.Record

/-!
# Text generation

What is asked of a text generator, and what it answers. The generator itself is a collaborator.
-/

namespace AgentFlow

/-- A single as a value: the number that its own shortest decimal denotes. -/
def Json.ofSingle (x : Float32) : Json :=
  if x.isFinite then .ofFloat (shortestDouble x) else .null

/-- How a text is to be generated; what is absent is up to the generator. -/
structure GenerationConfig where
  temperature : Option Float32
  maxOutputTokens : Option UInt32
  model : Option String
  deriving Inhabited

namespace GenerationConfig

/-- The settings as a value. -/
def toJson (config : GenerationConfig) : Json :=
  .ofEntries [("temperature", .ofOption Json.ofSingle config.temperature),
    ("max_output_tokens", .ofOption (fun n => .ofNat n.toNat) config.maxOutputTokens),
    ("model", .ofOption .string config.model)]

/-- The declaration of the settings. -/
def type : RecordType := ⟨"GenerationConfig", ["temperature", "max_output_tokens", "model"]⟩

/-- Reads settings. -/
def read : Reader GenerationConfig :=
  type.read fun field =>
    mk <$> (field "temperature").nullable Decode.single
      <*> (field "max_output_tokens").nullable Decode.count32
      <*> (field "model").nullable Decode.text

end GenerationConfig

/-- A request to generate a text. -/
structure GenerationRequest where
  systemPrompt : Option String
  prompt : String
  config : GenerationConfig
  deriving Inhabited

/-- The tokens that a generation took. -/
structure TokenUsage where
  promptTokens : UInt32
  completionTokens : UInt32
  deriving DecidableEq, Repr, Inhabited

namespace TokenUsage

/-- The counts as a value. -/
def toJson (usage : TokenUsage) : Json :=
  .ofEntries [("prompt_tokens", .ofNat usage.promptTokens.toNat),
    ("completion_tokens", .ofNat usage.completionTokens.toNat)]

/-- The declaration of the counts. -/
def type : RecordType := ⟨"TokenUsage", ["prompt_tokens", "completion_tokens"]⟩

/-- Reads counts. -/
def read : Reader TokenUsage :=
  type.read fun field =>
    mk <$> (field "prompt_tokens").required Decode.count32
      <*> (field "completion_tokens").required Decode.count32

end TokenUsage

/-- A generated text. -/
structure Generation where
  text : String
  usage : Option TokenUsage
  deriving Inhabited

end AgentFlow
