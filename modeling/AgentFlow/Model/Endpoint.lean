import AgentFlow.Json.Parse
import AgentFlow.Model.Generation

/-!
# Chat completions

A text generator that asks an endpoint for chat completions: a request is posted as a JSON object,
and the first choice of the reply is the text. The connection itself is a function on a state `σ`
of its own.
-/

namespace AgentFlow

/-- What is posted to an endpoint. -/
structure Post where
  url : String
  authorization : String
  body : Json
  deriving Inhabited

/-- What an endpoint replies. -/
structure Reply where
  status : Nat
  body : String
  deriving DecidableEq, Repr, Inhabited

namespace Reply

/-- Does the status say that the request was served? -/
def isSuccess (reply : Reply) : Bool :=
  200 ≤ reply.status && reply.status < 300

end Reply

/-- A connection to an endpoint: posts, and tells the reply or why there is none. -/
abbrev Endpoint (σ : Type) := Post → σ → Except String Reply × σ

/-- Why an endpoint generates no text. -/
inductive EndpointError where
  /-- There is no key to ask with. -/
  | noKey
  /-- There is no reply. -/
  | unreachable (reason : String)
  /-- The reply says that the request was not served. -/
  | refused (body : String)
  /-- The reply is no JSON. -/
  | notJson
  /-- The reply has no choices. -/
  | noChoices
  deriving DecidableEq, Repr, Inhabited

namespace EndpointError

/-- The text shown for an error. -/
def message : EndpointError → String
  | noKey => "OPENAI_API_KEY must be set"
  | unreachable reason => reason
  | refused body => "OpenAI API error: " ++ body
  | notJson => "error decoding response body"
  | noChoices => "No choices in OpenAI response"

end EndpointError

namespace TokenUsage

/-- The counts of a reply, if both are natural numbers. They are taken modulo `2^32`. -/
def ofReply? (reply : Json) : Option TokenUsage := do
  let usage ← reply.field? "usage"
  let prompt ← (← usage.field? "prompt_tokens").nat?
  let completion ← (← usage.field? "completion_tokens").nat?
  return ⟨prompt.toUInt32, completion.toUInt32⟩

end TokenUsage

namespace Generation

/-- The generation that a reply tells: the content of its first choice, nothing if that is no
text. -/
def ofReply (reply : Json) : Except EndpointError Generation :=
  match (reply.field? "choices").bind Json.items? with
  | some (choice :: _) =>
    let content := (choice.field? "message").bind (Json.field? "content")
    .ok ⟨(content.bind Json.text?).getD "", TokenUsage.ofReply? reply⟩
  | _ => .error .noChoices

end Generation

/-- A model behind an endpoint. -/
structure ChatModel where
  key : String
  name : String
  baseUrl : String
  deriving DecidableEq, Repr, Inhabited

namespace ChatModel

/-- The endpoint that is asked if the environment names none. -/
def defaultBaseUrl : String := "https://api.openai.com/v1"

/-- The model of a name, with the key and the endpoint that the environment names. -/
def ofEnvironment (environment : String → Option String) (name : String) :
    Except EndpointError ChatModel :=
  match environment "OPENAI_API_KEY" with
  | none => .error .noKey
  | some key => .ok ⟨key, name, (environment "OPENAI_BASE_URL").getD defaultBaseUrl⟩

/-- A message of a role. -/
def roleMessage (role content : String) : Json :=
  .ofEntries [("role", .string role), ("content", .string content)]

/-- The messages of a request: the system prompt, unless it is empty, and the prompt. -/
def messages (request : GenerationRequest) : List Json :=
  let system := (request.systemPrompt.filter fun prompt => !prompt.isEmpty).toList
  system.map (roleMessage "system") ++ [roleMessage "user" request.prompt]

/-- The body that asks for a generation. The request may name another model. -/
def body (model : ChatModel) (request : GenerationRequest) : Json :=
  let config := request.config
  .ofEntries <|
    [("model", .string (config.model.getD model.name)), ("messages", .array (messages request))] ++
    Json.entryIfSome "temperature" (fun t => .ofFloat (doubleOf t)) config.temperature ++
    Json.entryIfSome "max_tokens" (fun n => .ofNat n.toNat) config.maxOutputTokens

/-- What is posted to ask for a generation. -/
def post (model : ChatModel) (request : GenerationRequest) : Post where
  url := model.baseUrl ++ "/chat/completions"
  authorization := "Bearer " ++ model.key
  body := model.body request

/-- The generation that a reply of the endpoint brings. -/
def read (reply : Reply) : Except EndpointError Generation :=
  if reply.isSuccess then
    match Json.parse reply.body with
    | .ok value => Generation.ofReply value
    | .error _ => .error .notJson
  else .error (.refused reply.body)

/-- Asks for a generation. -/
def generate {σ : Type} (model : ChatModel) (endpoint : Endpoint σ) (request : GenerationRequest)
    (world : σ) : Except EndpointError Generation × σ :=
  match endpoint (model.post request) world with
  | (.error reason, world) => (.error (.unreachable reason), world)
  | (.ok reply, world) => (read reply, world)

end ChatModel

end AgentFlow
