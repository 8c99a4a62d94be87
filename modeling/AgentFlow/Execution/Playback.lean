import AgentFlow.Execution.Context
import AgentFlow.Tool.Registry

/-!
# Collaborators that play a script

Collaborators for trying out flows: the generator answers from a list of replies, tools answer from
a list of outcomes or from a registry, and everything that is asked of them is written down. What
they do depends on the script alone.
-/

namespace AgentFlow

/-- A call as it is written down. -/
structure CallRecord where
  tool : String
  input : Json
  /-- Where the call was made from, if the callee was told. -/
  context : Option ToolContext

/-- A script, and what has been asked so far. -/
structure Playback where
  /-- What the generator has still to say. -/
  replies : List (Except String Generation) := []
  /-- What tools have still to answer. -/
  outcomes : List (Except String ToolOutcome) := []
  requests : Array GenerationRequest := #[]
  calls : Array CallRecord := #[]
  /-- Of every recorded span, whether it was to be kept. -/
  kept : Array Bool := #[]

namespace Playback

/-- Answers with the next reply; when there is none left, with the prompt. -/
def generate (request : GenerationRequest) (play : Playback) :
    Except String Generation × Playback :=
  let play := { play with requests := play.requests.push request }
  match play.replies with
  | [] => (.ok ⟨"echo: " ++ request.prompt, none⟩, play)
  | reply :: rest => (reply, { play with replies := rest })

/-- Answers with the next outcome; when there is none left, with the arguments. -/
def callTool (call : ToolCall) (context : ToolContext) (play : Playback) :
    Except String ToolOutcome × Playback :=
  let play := { play with calls := play.calls.push ⟨call.name, call.arguments, some context⟩ }
  match play.outcomes with
  | [] => (.ok { result := .ok call.arguments }, play)
  | outcome :: rest => (outcome, { play with outcomes := rest })

/-- Names a call after how many there have been. -/
def freshIdentifier (play : Playback) : String × Playback :=
  (s!"call {play.calls.size}", play)

/-- Makes a span of a draft, named after its place in the trace. -/
def record (draft : SpanDraft) (keep : Bool) (play : Playback) : Span × Playback :=
  (.ofDraft (draft.attemptId ++ s!"#{draft.sequence}") draft,
    { play with kept := play.kept.push keep })

/-- A tool that writes down its calls. It fails with a message, answers with a fixed output, or
else answers with its input. -/
def tool (name description : String) (schema : Json) (error : Option String)
    (output : Option Json) : Tool Playback where
  name := name
  description := description
  schema := schema
  run := fun input play =>
    let play := { play with calls := play.calls.push ⟨name, input, none⟩ }
    match error with
    | some message => (.error message, play)
    | none => (.ok (output.getD input), play)

/-- Collaborators with scripted tools. -/
def scripted : Collaborators Playback := ⟨generate, callTool, freshIdentifier, record⟩

/-- Collaborators with the tools of a registry. -/
def withRegistry (registry : Registry Playback) : Collaborators Playback where
  generate := generate
  callTool := fun call _ play =>
    let (outcome, play) := registry.call call play
    (.ok outcome, play)
  freshIdentifier := freshIdentifier
  record := record

end Playback

end AgentFlow
