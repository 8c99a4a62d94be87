import AgentFlow.Json.Reader
import AgentFlow.Json.Scalar

/-!
# Values from text

`Node.toJson` keeps what a document holds as a value, as far as it is sound and nested no deeper
than allowed; `Json.parse` reads a whole text. Of two entries with the same key the later one
stays.
-/

namespace AgentFlow

namespace Node

mutual

/-- The value of a node; brackets may nest `room` deep. -/
def toJson (room : Nat) : Node → Except Fault Json
  | value v => .ok v
  | scalar text style tag =>
    match Scalar.resolve? text style tag with
    | some v => .ok v
    | none => .error .malformed
  | array items ending =>
    match room with
    | 0 => .error .malformed
    | room + 1 => do
      let items ← itemsToJson room items
      match ending with
      | .closed => .ok (.array items)
      | .broken fault => .error fault
  | object members ending =>
    match room with
    | 0 => .error .malformed
    | room + 1 => do
      let entries ← membersToJson room members
      match ending with
      | .closed => .ok (.ofEntries entries)
      | .broken fault => .error fault
  | walkOnly _ => .error .malformed
  | broken whenRead _ => .error whenRead

/-- The values of items, in order. -/
def itemsToJson (room : Nat) : List Node → Except Fault (List Json)
  | [] => .ok []
  | item :: rest => do
    let v ← item.toJson room
    let vs ← itemsToJson room rest
    .ok (v :: vs)

/-- The entries of an object, in order; a key that cannot be read is a fault. -/
def membersToJson (room : Nat) : List (Option String × Node) → Except Fault (List (String × Json))
  | [] => .ok []
  | (none, _) :: _ => .error .malformed
  | (some key, item) :: rest => do
    let v ← item.toJson room
    let vs ← membersToJson room rest
    .ok ((key, v) :: vs)

end

end Node

namespace Json

/-- The deepest nesting of brackets in JSON text that is kept. -/
def maxNesting : Nat := 127

/-- A text as it is read: its first value, and the fault of what stands behind it. -/
def readText (text : String) : Node × Option Fault :=
  match build [] (.value false) (tokens [] text.toList) with
  | (node, []) => (node, none)
  | (node, _ :: _) => (node, some .malformed)

/-- The value that a text holds. -/
def parse (text : String) : Except Fault Json :=
  let (node, behind) := readText text
  match node.toJson maxNesting, behind with
  | .ok v, none => .ok v
  | .ok _, some fault => .error fault
  | .error fault, _ => .error fault

end Json

end AgentFlow
