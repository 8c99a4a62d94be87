/-!
# The deny-list

Names that no expression may mention, neither as a variable nor as a property. They are names that
reach out of a scripting sandbox: evaluators, prototypes, global objects, module loaders, timers,
network and storage. Comparison is exact, letter case included.
-/

namespace AgentFlow

/-- The names that are denied. -/
def denyList : List String :=
  ["eval", "Function", "constructor", "__proto__", "prototype", "__defineGetter__",
    "__defineSetter__", "__lookupGetter__", "__lookupSetter__", "window", "document", "globalThis",
    "global", "self", "process", "require", "module", "exports", "import", "this", "arguments",
    "fetch", "XMLHttpRequest", "WebSocket", "setTimeout", "setInterval", "setImmediate", "Reflect",
    "Proxy", "Object", "localStorage", "sessionStorage", "indexedDB", "location", "navigator",
    "alert", "Buffer", "Deno"]

/-- Is a name denied? -/
def isDenied (name : String) : Bool :=
  denyList.contains name

theorem isDenied_iff {name : String} : isDenied name = true ↔ name ∈ denyList := by
  simp [isDenied]

end AgentFlow
