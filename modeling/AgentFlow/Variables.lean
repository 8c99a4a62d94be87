import AgentFlow.Json.Basic
import AgentFlow.Numeric.Numeral
import AgentFlow.Text.Blank

/-!
# Variables

The variables of one execution: a map from names to JSON values. A dotted path leads into it: the
first segment names a variable, further ones name entries of objects or positions in arrays.
-/

namespace AgentFlow

/-- The variables of one execution. -/
abbrev Variables := Fields Json

/-- The part of a value that a path segment names. -/
def Json.part? (segment : String) : Json → Option Json
  | .array items => (Numeral.position? segment).bind fun i => items[i]?
  | value => value.field? segment

namespace Variables

/-- The entries of an object; anything else holds no variables. -/
def ofJson (value : Json) : Variables :=
  value.entries?.getD []

/-- The text of a variable that is one. -/
def text? (vars : Variables) (name : String) : Option String :=
  (vars.get? name).bind Json.text?

/-- Follows path segments into a value. -/
def follow? : Json → List String → Option Json
  | value, [] => some value
  | value, segment :: rest => (value.part? segment).bind fun part => follow? part rest

/-- The segments of a dotted path, of which there is at least one. -/
def segments (path : String) : List String :=
  (Text.pieces '.' path.toList).map String.ofList

/-- The value at a dotted path. -/
def path? (vars : Variables) (path : String) : Option Json :=
  match segments path with
  | [] => none
  | root :: rest => (vars.get? root).bind fun value => follow? value rest

end Variables

end AgentFlow
