import AgentFlow.CommandLine.Environment
import AgentFlow.CommandLine.Help
import AgentFlow.Condition
import AgentFlow.Execution.Run
import AgentFlow.Flow.File
import AgentFlow.Model.Endpoint
import AgentFlow.Tool.Registry
import AgentFlow.Validation

/-!
# Reports of commands

What a command writes, and the code that it ends with: 0 if all went well, 1 if not, 2 if the
arguments do not fit. The files, the environment and the endpoint are the host's.
-/

namespace AgentFlow.CommandLine

/-- What commands are performed on. Its endpoint and its source of identifiers are functions on a
state `σ`. -/
structure Host (σ : Type) where
  /-- What the file at a path holds. -/
  content : String → FileContent
  environment : Environment
  endpoint : Endpoint σ
  /-- An identifier that has not been used. -/
  freshIdentifier : σ → String × σ

/-- What a command leaves behind. -/
structure Report where
  code : UInt8 := 0
  output : String := ""
  errors : String := ""
  deriving DecidableEq, Repr, Inhabited

namespace Report

/-- A report of success. -/
def written (output : String) : Report := { output }

/-- A report of failure, with its cause if there is one to tell. -/
def failed (message : String) (cause : Option String := none) (output : String := "") : Report where
  code := 1
  output := output
  errors := "Error: " ++ message ++ "\n" ++
    cause.elim "" fun cause => "\nCaused by:\n    " ++ cause ++ "\n"

/-- The report on arguments that do not fit. -/
def misuse : Report where
  code := 2
  errors := "error: the arguments do not fit\n\nFor more information, try '--help'.\n"

/-- The report on a flow that cannot be loaded. -/
def notLoaded (file : String) (error : LoadError) : Report :=
  failed ("Could not load flow " ++ file) error.message

end Report

/-- The file whose settings extend the environment. -/
def settingsFile : String := ".env"

namespace Host

variable {σ : Type}

/-- The host whose environment is extended by the settings in its files. -/
def withSettings (host : Host σ) : Host σ :=
  match host.content settingsFile with
  | .error _ => host
  | .ok bytes =>
    { host with
      environment := (String.fromUTF8? bytes).elim host.environment host.environment.addSettings }

/-- The collaborators of a run: a model behind the host's endpoint, and the built-in tools. -/
def collaborators (host : Host σ) (model : ChatModel) : Collaborators σ where
  generate := fun request world =>
    let (generation, world) := model.generate host.endpoint request world
    (generation.mapError EndpointError.message, world)
  callTool := fun call _ world =>
    let (outcome, world) := Registry.builtins.call call world
    (.ok outcome, world)
  freshIdentifier := host.freshIdentifier
  record := fun draft _ world =>
    let (id, world) := host.freshIdentifier world
    (.ofDraft id draft, world)

end Host

namespace RunCommand

variable {σ : Type}

/-- The lines that a run of a document of a name writes. -/
def output (command : RunCommand) (name : String) (result : ExecutionResult) : String :=
  let answer := if command.json then result.toJson.renderPretty else "Response: " ++ result.output
  "Running flow: " ++ name ++ "\n" ++ answer ++ "\n"

/-- The report on a finished run. -/
def report (command : RunCommand) (name : String) (result : ExecutionResult) : Report :=
  let output := command.output name result
  match result.error with
  | none => .written output
  | some error => .failed s!"Flow failed after {result.stepsExecuted} steps: {error}" none output

/-- Runs a flow. Waiting between tries changes no answer, so there is none. -/
def perform (command : RunCommand) (host : Host σ) (world : σ) : Report × σ :=
  match FlowDocument.ofFile command.file (host.content command.file) with
  | .error error => (.notLoaded command.file error, world)
  | .ok document =>
    let agent := { document.agent with model := command.model.getD document.agent.model }
    match ChatModel.ofEnvironment host.environment agent.model with
    | .error error => (.failed error.message, world)
    | .ok model =>
      let (attemptId, world) := host.freshIdentifier world
      let task : Task := {
        agent
        flow := document.steps
        input := ⟨command.input, command.context⟩
        options := { maxSteps := command.maxSteps, persistSpans := false, attemptId } }
      let (outcome, world) :=
        task.runWithRetry (host.collaborators model) Handlers.builtin command.retries world
      (command.report document.name outcome.result, world)

end RunCommand

namespace EvalCommand

/-- The message about variables that are no object. -/
def variablesMessage : String := "--vars must be a JSON object"

/-- Evaluates an expression or a condition. -/
def perform (command : EvalCommand) : Report :=
  match Json.parse command.vars with
  | .ok (.object vars) =>
    if command.condition then
      .written (if Condition.holds command.expression vars then "true\n" else "false\n")
    else
      match evaluate command.expression vars with
      | .error error => .failed error.message
      | .ok value =>
        if command.json then .written (value.toJson.render ++ "\n")
        else .written (value.toText ++ " (" ++ value.typeName ++ ")\n")
  | _ => .failed variablesMessage

end EvalCommand

/-- Validates the flow in a file. -/
def validate (file : String) (content : FileContent) : Report :=
  match FlowDocument.ofFile file content with
  | .error error => .notLoaded file error
  | .ok document =>
    let report := Flow.validate document.steps
    let lines (word : String) (findings : List Finding) : String :=
      String.join (findings.map fun finding => word ++ ": " ++ finding.message ++ "\n")
    let output := lines "error" report.errors ++ lines "warning" report.warnings
    if report.valid then .written (output ++ file ++ " is valid\n")
    else .failed s!"{file} has {report.errors.length} error(s)" none output

namespace Command

variable {σ : Type}

/-- Performs a command. -/
def perform (command : Command) (host : Host σ) (world : σ) : Report × σ :=
  match command with
  | run command => command.perform host world
  | validate file => (CommandLine.validate file (host.content file), world)
  | eval command => (command.perform, world)

end Command

namespace Invocation

variable {σ : Type}

/-- Does what the arguments ask for. -/
def serve (invocation : Invocation) (host : Host σ) (world : σ) : Report × σ :=
  match invocation with
  | .perform command => command.perform host.withSettings world
  | help topic => (.written topic.text, world)
  | version => (.written versionText, world)
  | misuse => (.misuse, world)

end Invocation

end AgentFlow.CommandLine
