import AgentFlow.CommandLine.Command

/-!
# Help

The texts that tell how the program and its commands are used, laid out from their signatures.
-/

namespace AgentFlow.CommandLine

/-- What the program is called where it is used. -/
def programName : String := "evoflow"

/-- What the program does. -/
def programAbout : String :=
  "Sandboxed expression language and step-based flow engine for evolving agent configurations"

/-- The text of the version. -/
def versionText : String := "evoflow-rs 0.1.0\n"

/-- Rows of two columns, each indented by two; the second column starts at one place. -/
def rows (entries : List (String × String)) : String :=
  let width := (entries.map fun entry => entry.1.length).foldl max 0
  String.join (entries.map fun (left, right) =>
    "  " ++ left ++ String.ofList (List.replicate (width + 2 - left.length) ' ') ++ right ++ "\n")

/-- The commands and what they do. -/
def commandRows : String :=
  rows <| (Command.forms.map fun (signature, _) => (signature.name, signature.about)) ++
    [("help", "Print this message or the help of the given subcommand(s)")]

namespace Parameter

/-- An option with the name of its value. -/
def usage (parameter : Parameter) : String :=
  "--" ++ parameter.name ++ (parameter.valueName.elim "" fun value => " <" ++ value ++ ">")

/-- The two columns of an option. -/
def row (parameter : Parameter) : String × String :=
  let letter := parameter.letter.elim "    " fun letter => String.ofList ['-', letter, ',', ' ']
  let default := parameter.default.elim "" fun value => " [default: " ++ value ++ "]"
  (letter ++ parameter.usage, parameter.about ++ default)

end Parameter

namespace Signature

/-- How a command is used, in one line. -/
def usage (signature : Signature) : String :=
  let required := signature.parameters.filter Parameter.isRequired
  let hasOptions := signature.parameters.length ≠ required.length
  " ".intercalate <| [programName, signature.name] ++ (if hasOptions then ["[OPTIONS]"] else []) ++
    required.map Parameter.usage ++
    (signature.operand.elim [] fun operand => ["<" ++ operand.1 ++ ">"])

/-- The help on a command. -/
def help (signature : Signature) : String :=
  let operand := signature.operand.elim "" fun (name, about) =>
    "Arguments:\n" ++ rows [("<" ++ name ++ ">", about)] ++ "\n"
  signature.about ++ "\n\nUsage: " ++ signature.usage ++ "\n\n" ++ operand ++ "Options:\n" ++
    rows (signature.parameters.map Parameter.row ++ [("-h, --help", "Print help")])

end Signature

namespace Topic

/-- The help on a topic. -/
def text : Topic → String
  | program =>
    programAbout ++ "\n\nUsage: " ++ programName ++ " <COMMAND>\n\nCommands:\n" ++ commandRows ++
      "\nOptions:\n" ++ rows [("-h, --help", "Print help"), ("-V, --version", "Print version")]
  | command signature => signature.help
  | help =>
    "Print this message or the help of the given subcommand(s)\n\nUsage: " ++ programName ++
      " help [COMMAND]\n\nCommands:\n" ++ commandRows

end Topic

end AgentFlow.CommandLine
