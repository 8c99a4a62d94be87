import AgentFlow.Tool.Registry

/-!
# Shared registries

A registry is held by handles. Cloning a handle gives one more handle on the same registry, so that
a tool registered through one of them is there for all.
-/

namespace AgentFlow

/-- A registry as what calls the tools of a run. A call that fails is answered too, so there is
always a result. -/
def Registry.execute {σ : Type} (registry : Registry σ) (call : ToolCall) (_ : ToolContext)
    (world : σ) : Except String ToolOutcome × σ :=
  let (outcome, world) := registry.call call world
  (.ok outcome, world)

/-- The registries that there are, and the handles on them. -/
structure Registries (σ : Type) where
  tables : List (Registry σ)
  /-- For each handle the number of its registry. -/
  handles : List Nat
  handles_lt : ∀ number ∈ handles, number < tables.length

/-- What can happen to registries. Handles are numbered in the order in which they come to be. -/
inductive RegistryEvent (σ : Type) where
  /-- A new registry, with or without the built-in tools, and a handle on it. -/
  | create (builtins : Bool)
  /-- One more handle on the registry of a handle. -/
  | clone (handle : Nat)
  /-- A tool is registered through a handle. -/
  | register (handle : Nat) (tool : Tool σ)

namespace Registries

variable {σ : Type}

/-- No registries. -/
def initial : Registries σ := ⟨[], [], fun _ h => nomatch h⟩

/-- The registry that a handle is on. -/
def table? (registries : Registries σ) (handle : Nat) : Option (Registry σ) :=
  registries.handles[handle]?.bind fun number => registries.tables[number]?

/-- Lets an event happen. There is nothing to clone or to register in where there is no handle. -/
def perform (registries : Registries σ) : RegistryEvent σ → Registries σ
  | .create builtins =>
    { tables := registries.tables ++ [if builtins then .builtins else .empty]
      handles := registries.handles ++ [registries.tables.length]
      handles_lt := fun number h => by
        have hold := registries.handles_lt number
        grind }
  | .clone handle =>
    { registries with
      handles := registries.handles ++ registries.handles[handle]?.toList
      handles_lt := fun number h => by
        have hold := registries.handles_lt number
        grind }
  | .register handle tool =>
    match registries.handles[handle]? with
    | none => registries
    | some number =>
      { registries with
        tables := registries.tables.modify number (Registry.register tool)
        handles_lt := by simpa using registries.handles_lt }

/-- Lets events happen one after the other. -/
def performAll (registries : Registries σ) (events : List (RegistryEvent σ)) : Registries σ :=
  events.foldl perform registries

end Registries

end AgentFlow
