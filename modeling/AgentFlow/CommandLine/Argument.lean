/-!
# Arguments of commands

A command takes options, and one operand at most. An option is written `--name value`,
`--name=value`, `-l value`, `-lvalue` or `-l=value`; one without a value, a flag, is written
`--name`. What starts with a dash is never the value of the argument before it. Behind `--` stand
operands only. Every option is given once at most.

Arguments are taken from left to right, and the first that asks for help or cannot be taken decides.
-/

namespace AgentFlow.CommandLine

/-- An argument as it is written. -/
inductive Argument where
  | endOfOptions
  | long (name : String) (value : Option String)
  | short (letter : Char) (value : Option String)
  | operand (text : String)
  deriving DecidableEq, Repr, Inhabited

namespace Argument

/-- Tells options by their dashes; a lone dash is an operand. -/
def ofText (text : String) : Argument :=
  match text.toList with
  | ['-', '-'] => endOfOptions
  | '-' :: '-' :: rest =>
    let name := String.ofList (rest.takeWhile (· ≠ '='))
    match rest.dropWhile (· ≠ '=') with
    | [] => long name none
    | _ :: value => long name (some (String.ofList value))
  | ['-', letter] => short letter none
  | '-' :: letter :: '=' :: value => short letter (some (String.ofList value))
  | '-' :: letter :: value => short letter (some (String.ofList value))
  | _ => operand text

end Argument

/-- An option of a command. -/
structure Parameter where
  name : String
  letter : Option Char := none
  /-- What the value is called; a flag has none. -/
  valueName : Option String := none
  /-- The value if none is given. -/
  default : Option String := none
  isRequired : Bool := false
  /-- Can a text be the value? -/
  accepts : String → Bool := fun _ => true
  about : String

/-- What a command takes. -/
structure Signature where
  name : String
  about : String
  parameters : List Parameter
  /-- What the operand is called, and what it is. A command with an operand needs it. -/
  operand : Option (String × String) := none

/-- The arguments that a command is given. -/
structure Arguments where
  values : List (String × String) := []
  operand : Option String := none

/-- Why a command is not performed. -/
inductive Stop where
  /-- Help is asked for instead. -/
  | help
  /-- The arguments do not fit. -/
  | misuse
  deriving DecidableEq, Repr, Inhabited

namespace Arguments

/-- The value of an option. -/
def get? (name : String) (arguments : Arguments) : Option String :=
  arguments.values.lookup name

/-- The value of an option that has one. -/
def text (name : String) (arguments : Arguments) : String :=
  (arguments.get? name).getD ""

/-- Is an option given? -/
def has (name : String) (arguments : Arguments) : Bool :=
  (arguments.get? name).isSome

/-- Gives a value to an option. -/
def give (parameter : Parameter) (value : String) (arguments : Arguments) :
    Except Stop Arguments :=
  if arguments.has parameter.name || !parameter.accepts value then .error .misuse
  else .ok { arguments with values := (parameter.name, value) :: arguments.values }

/-- An option that can be given has not been given before, and has its value from then on. -/
theorem get?_of_give {parameter : Parameter} {value : String} {arguments given : Arguments}
    (h : arguments.give parameter value = .ok given) :
    arguments.get? parameter.name = none ∧ given.get? parameter.name = some value := by
  unfold give at h
  split at h
  · cases h
  · rename_i hfree
    cases h
    simp only [has, Bool.or_eq_true, not_or, Bool.not_eq_true, Option.isSome_eq_false_iff,
      Option.isNone_iff_eq_none] at hfree
    exact ⟨hfree.1, by simp [get?]⟩

/-- Gives the operand. -/
def giveOperand (signature : Signature) (text : String) (arguments : Arguments) :
    Except Stop Arguments :=
  if signature.operand.isNone || arguments.operand.isSome then .error .misuse
  else .ok { arguments with operand := some text }

/-- Gives an option that is written with a value or without. An option that still waits for its
value is returned. -/
def giveOption (parameter? : Option Parameter) (value : Option String) (arguments : Arguments) :
    Except Stop (Option Parameter × Arguments) := do
  match parameter? with
  | none => .error .misuse
  | some parameter =>
    match parameter.valueName, value with
    | none, none => return (none, ← arguments.give parameter "")
    | none, some _ => .error .misuse
    | some _, none => return (some parameter, arguments)
    | some _, some value => return (none, ← arguments.give parameter value)

/-- Is everything there that a command needs? -/
def areComplete (signature : Signature) (arguments : Arguments) : Bool :=
  (signature.parameters.all fun parameter =>
    !parameter.isRequired || arguments.has parameter.name) &&
  (signature.operand.isNone || arguments.operand.isSome)

/-- Gives their defaults to the options that are not given. -/
def withDefaults (signature : Signature) (arguments : Arguments) : Arguments :=
  let defaults := signature.parameters.filterMap fun parameter =>
    parameter.default.map fun value => (parameter.name, value)
  { arguments with values := arguments.values ++ defaults }

end Arguments

namespace Signature

/-- Takes operands only. -/
def takeOperands (signature : Signature) (arguments : Arguments) :
    List String → Except Stop Arguments
  | [] => .ok arguments
  | text :: rest => do
    signature.takeOperands (← arguments.giveOperand signature text) rest

/-- Takes arguments. `waiting` is the option whose value is next. -/
def take (signature : Signature) (waiting : Option Parameter) (arguments : Arguments) :
    List String → Except Stop Arguments
  | [] => if waiting.isNone then .ok arguments else .error .misuse
  | text :: rest =>
    match waiting, Argument.ofText text with
    | some parameter, .operand value => do
      signature.take none (← arguments.give parameter value) rest
    | some _, _ => .error .misuse
    | none, .operand text => do
      signature.take none (← arguments.giveOperand signature text) rest
    | none, .endOfOptions => signature.takeOperands arguments rest
    | none, .long "help" none => .error .help
    | none, .short 'h' _ => .error .help
    | none, .long name value => do
      let parameter? := signature.parameters.find? (·.name = name)
      let (waiting, arguments) ← arguments.giveOption parameter? value
      signature.take waiting arguments rest
    | none, .short letter value => do
      let parameter? := signature.parameters.find? (·.letter = some letter)
      let (waiting, arguments) ← arguments.giveOption parameter? value
      signature.take waiting arguments rest

/-- The arguments that a list of texts gives to a command. -/
def read (signature : Signature) (texts : List String) : Except Stop Arguments := do
  let arguments ← signature.take none {} texts
  if arguments.areComplete signature then .ok (arguments.withDefaults signature)
  else .error .misuse

end Signature

end AgentFlow.CommandLine
