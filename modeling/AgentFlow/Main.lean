import AgentFlow.CommandLine.Report

/-!
# The program

The outermost layer of the command line: it reads files and the environment, writes the report, and
ends with its code. There is no client for networks here, so every endpoint counts as out of reach.
-/

namespace AgentFlow.Main

open CommandLine

/-- Reads a file. -/
def readFile (path : String) : IO FileContent := do
  try return .ok (← IO.FS.readBinFile path)
  catch
    | .noFileOrDirectory .. => return .error .missing
    | error => return .error (.other (toString error))

/-- Asks nobody. -/
def offline (post : Post) (world : StdGen) : Except String Reply × StdGen :=
  (.error ("error sending request for url (" ++ post.url ++ ")"), world)

/-- Sixteen random hexadecimal digits. -/
def randomDigits (generator : StdGen) : String × StdGen :=
  let (n, generator) := randNat generator (Nat.pow 16 15) (Nat.pow 16 16 - 1)
  (String.ofList (Nat.toDigits 16 n), generator)

/-- Thirty-two random hexadecimal digits. -/
def freshIdentifier (generator : StdGen) : String × StdGen :=
  let (first, generator) := randomDigits generator
  let (second, generator) := randomDigits generator
  (first ++ second, generator)

/-- Does what the arguments ask for. -/
def serve (arguments : List String) : IO Report := do
  let invocation := Invocation.ofArguments arguments
  let settings ← readFile settingsFile
  let content ←
    match invocation with
    | .perform command => command.file?.elim (pure (.error .missing)) readFile
    | _ => pure (.error .missing)
  let key ← IO.getEnv "OPENAI_API_KEY"
  let baseUrl ← IO.getEnv "OPENAI_BASE_URL"
  let environment : Environment := fun name =>
    if name = "OPENAI_API_KEY" then key else if name = "OPENAI_BASE_URL" then baseUrl else none
  let host : Host StdGen := {
    content := fun path => if path = settingsFile then settings else content
    environment
    endpoint := offline
    freshIdentifier }
  return (invocation.serve host (mkStdGen (← IO.rand 0 (Nat.pow 2 62)))).1

end AgentFlow.Main

/-- The program. -/
def main (arguments : List String) : IO UInt32 := do
  let report ← AgentFlow.Main.serve arguments
  IO.print report.output
  IO.eprint report.errors
  return report.code.toUInt32
