import AgentFlow.CommandLine.Argument

/-!
# Commands

The commands of the program: run a flow, validate one, evaluate an expression. Each has a signature,
which says what it takes.
-/

namespace AgentFlow.CommandLine

/-- An integer in decimal digits, with a sign or without. -/
def integer? (text : String) : Option Int :=
  let digits? (digits : List Char) : Option Nat :=
    if digits.isEmpty || !digits.all Char.isDigit then none
    else some (digits.foldl (fun n c => 10 * n + (c.toNat - '0'.toNat)) 0)
  match text.toList with
  | '+' :: digits => (digits? digits).map Int.ofNat
  | '-' :: digits => (digits? digits).map fun n => -Int.ofNat n
  | digits => (digits? digits).map Int.ofNat

/-- A natural number below `2^64`, without a minus. -/
def size? (text : String) : Option Nat := do
  if text.startsWith "-" then none
  let n := (← integer? text).toNat
  if n < Nat.pow 2 64 then some n else none

/-- A number from 0 up to `2^32 - 1`. A minus is fine in front of zero. -/
def count? (text : String) : Option Nat := do
  let n ← integer? text
  if 0 ≤ n && n < Int.pow 2 32 then some n.toNat else none

/-- How a flow is to be run. -/
structure RunCommand where
  file : String
  input : String
  context : Option String
  /-- The model in place of the document's own. -/
  model : Option String
  maxSteps : Nat
  retries : Nat
  /-- How long to wait before another try. -/
  retryDelayMs : Nat
  json : Bool
  deriving DecidableEq, Repr, Inhabited

/-- How an expression is to be evaluated. -/
structure EvalCommand where
  expression : String
  /-- The variables, in JSON text. -/
  vars : String
  condition : Bool
  json : Bool
  deriving DecidableEq, Repr, Inhabited

/-- What the program is told to do. -/
inductive Command where
  | run (command : RunCommand)
  | validate (file : String)
  | eval (command : EvalCommand)
  deriving DecidableEq, Repr, Inhabited

namespace RunCommand

/-- What `run` takes. -/
def signature : Signature where
  name := "run"
  about := "Run a flow from a file"
  parameters := [
    { name := "file", letter := some 'f', valueName := some "FILE", isRequired := true
      about := "Path to the flow file (YAML or JSON)" },
    { name := "input", letter := some 'i', valueName := some "INPUT", isRequired := true
      about := "Input to the flow" },
    { name := "context", letter := some 'c', valueName := some "CONTEXT"
      about := "Prior session context" },
    { name := "model", letter := some 'm', valueName := some "MODEL"
      about := "Override the agent's model" },
    { name := "max-steps", valueName := some "MAX_STEPS", default := some "100"
      accepts := fun text => (size? text).isSome
      about := "Maximum number of steps" },
    { name := "retries", valueName := some "RETRIES", default := some "0"
      accepts := fun text => (count? text).isSome
      about := "Retries after a failed execution" },
    { name := "retry-delay-ms", valueName := some "RETRY_DELAY_MS", default := some "1000"
      accepts := fun text => (size? text).isSome
      about := "Delay between retries in milliseconds" },
    { name := "json", about := "Print the full execution result as JSON" }]

/-- The command with arguments. -/
def ofArguments (arguments : Arguments) : RunCommand where
  file := arguments.text "file"
  input := arguments.text "input"
  context := arguments.get? "context"
  model := arguments.get? "model"
  maxSteps := (size? (arguments.text "max-steps")).getD 0
  retries := (count? (arguments.text "retries")).getD 0
  retryDelayMs := (size? (arguments.text "retry-delay-ms")).getD 0
  json := arguments.has "json"

end RunCommand

namespace EvalCommand

/-- What `eval` takes. -/
def signature : Signature where
  name := "eval"
  about := "Evaluate an expression against JSON variables"
  operand := some ("EXPRESSION", "The expression")
  parameters := [
    { name := "vars", letter := some 'v', valueName := some "VARS", default := some "\x7b\x7d"
      about := "Variables as a JSON object" },
    { name := "condition"
      about := "Evaluate as a condition (shorthands allowed, never fails)" },
    { name := "json", about := "Print the result as JSON" }]

/-- The command with arguments. -/
def ofArguments (arguments : Arguments) : EvalCommand where
  expression := arguments.operand.getD ""
  vars := arguments.text "vars"
  condition := arguments.has "condition"
  json := arguments.has "json"

end EvalCommand

namespace Command

/-- What `validate` takes. -/
def validateSignature : Signature where
  name := "validate"
  about := "Check a flow file without running it"
  parameters := [
    { name := "file", letter := some 'f', valueName := some "FILE", isRequired := true
      about := "Path to the flow file (YAML or JSON)" }]

/-- The commands: what each takes, and what it is with arguments. -/
def forms : List (Signature × (Arguments → Command)) :=
  [(RunCommand.signature, fun arguments => run (.ofArguments arguments)),
    (validateSignature, fun arguments => validate (arguments.text "file")),
    (EvalCommand.signature, fun arguments => eval (.ofArguments arguments))]

/-- The form of the command of a name. -/
def form? (name : String) : Option (Signature × (Arguments → Command)) :=
  forms.find? fun form => form.1.name = name

/-- The file that a command reads. -/
def file? : Command → Option String
  | run command => some command.file
  | validate file => some file
  | eval _ => none

end Command

/-- What help can be about. -/
inductive Topic where
  | program
  | command (signature : Signature)
  | help

/-- What the program is asked for. -/
inductive Invocation where
  | perform (command : Command)
  | help (topic : Topic)
  | version
  | misuse

namespace Invocation

/-- Asks for help on a list of words: none, or the name of a command. -/
def ofHelpWords : List String → Invocation
  | [] => help .program
  | ["help"] => help .help
  | [name] =>
    match Command.form? name with
    | some (signature, _) => help (.command signature)
    | none => misuse
  | _ => misuse

/-- What the arguments of the program ask for. -/
def ofArguments : List String → Invocation
  | [] => misuse
  | "help" :: words => ofHelpWords words
  | first :: rest =>
    match Argument.ofText first with
    | .long "help" none => help .program
    | .short 'h' _ => help .program
    | .long "version" none => version
    | .short 'V' _ => version
    | .operand name =>
      match Command.form? name with
      | none => misuse
      | some (signature, build) =>
        match signature.read rest with
        | .ok arguments => perform (build arguments)
        | .error .help => help (.command signature)
        | .error .misuse => misuse
    | _ => misuse

end Invocation

end AgentFlow.CommandLine
