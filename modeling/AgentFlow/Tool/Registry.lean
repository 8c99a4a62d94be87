import AgentFlow.Tool.Call

/-!
# Tool registries

A registry holds tools under their names; a tool that is registered under a name takes the place of
the one before. Calling a tool that there is not, and a tool that fails, are failed results.
-/

namespace AgentFlow

/-- A tool. It works on a state `σ` of its surroundings. -/
structure Tool (σ : Type) where
  name : String
  description : String
  /-- The JSON schema of the tool's input. -/
  schema : Json
  /-- Does the tool's work, or says why not. -/
  run : Json → σ → Except String Json × σ

namespace Tool

variable {σ : Type}

/-- The tool that returns its arguments. -/
def echo : Tool σ where
  name := "echo"
  description := "Returns its arguments unchanged"
  schema := .ofEntries [("type", .string "object"), ("additionalProperties", .bool true)]
  run := fun input world => (.ok input, world)

/-- The description of a tool as a value. -/
def definition (tool : Tool σ) : Json :=
  .ofEntries [("name", .string tool.name), ("description", .string tool.description),
    ("inputSchema", tool.schema)]

end Tool

/-- Tools by name. -/
abbrev Registry (σ : Type) := Fields (Tool σ)

namespace Registry

variable {σ : Type}

/-- The registry without tools. -/
def empty : Registry σ := []

/-- Adds a tool under its name. -/
def register (tool : Tool σ) (registry : Registry σ) : Registry σ :=
  Fields.insert tool.name tool registry

/-- The registry of the built-in tools. -/
def builtins : Registry σ :=
  empty.register .echo

/-- The descriptions of all tools, in ascending order of names. -/
def definitions (registry : Registry σ) : List Json :=
  registry.map fun entry => entry.2.definition

/-- Calls a tool. -/
def call (registry : Registry σ) (call : ToolCall) (world : σ) : ToolOutcome × σ :=
  match Fields.get? call.name registry with
  | none => ({ result := .failed s!"Tool not found: {call.name}" }, world)
  | some tool =>
    match tool.run call.arguments world with
    | (.ok output, world) => ({ result := .ok output }, world)
    | (.error message, world) => ({ result := .failed message }, world)

end Registry

end AgentFlow
