import AgentFlow.Json.Node
import AgentFlow.Json.Printer
import AgentFlow.Text.Quoted
import AgentFlow.Time.Timestamp

/-!
# Why data does not fit a type

Typed data is read from documents (`Node`). A `DecodeError` is the cause for which a document does
not hold data of the wanted type, with the text shown for it; the document's own faults are one of
the causes.
-/

namespace AgentFlow

/-- What stands in a document where something else is expected. -/
inductive Found where
  | null
  | bool (value : Bool)
  | number (value : Json.Number)
  | string (text : String)
  | sequence
  | map

namespace Found

/-- A word of the document, marked as such. -/
def marked (text : String) : String :=
  "\x60" ++ text ++ "\x60"

/-- How a value is referred to. -/
def describe : Found → String
  | null => "null"
  | bool b => "boolean " ++ marked (if b then "true" else "false")
  | number (.int n) => "integer " ++ marked (Json.Number.render (.int n))
  | number (.float x) => "floating point " ++ marked (Json.Number.render (.float x))
  | string s => "string " ++ Text.quoted s
  | sequence => "sequence"
  | map => "map"

/-- What a value is. -/
def ofJson : Json → Found
  | .null => null
  | .bool b => bool b
  | .number n => number n
  | .string s => string s
  | .array _ => sequence
  | .object _ => map

end Found

/-- The cause for which data does not fit a type. -/
inductive DecodeError where
  /-- A value of another type. -/
  | wrongType (found : Found) (expected : String)
  /-- A value of the right type that is not allowed. -/
  | wrongValue (found : Found) (expected : String)
  /-- An array with too few or too many items. -/
  | wrongLength (length : Nat) (expected : String)
  /-- A name that is none of the allowed ones. -/
  | unknownVariant (name : String) (variants : List String)
  | missingField (field : String)
  | duplicateField (field : String)
  /-- A text that is no point in time. -/
  | badTimestamp (cause : TimestampError)
  /-- The document itself is faulty. -/
  | unreadable (fault : Fault)

namespace DecodeError

/-- The text shown for a cause. -/
def message : DecodeError → String
  | wrongType found expected => "invalid type: " ++ found.describe ++ ", expected " ++ expected
  | wrongValue found expected => "invalid value: " ++ found.describe ++ ", expected " ++ expected
  | wrongLength length expected => s!"invalid length {length}, expected {expected}"
  | unknownVariant name variants =>
    "unknown variant " ++ Found.marked name ++ ", expected one of " ++
      ", ".intercalate (variants.map Found.marked)
  | missingField field => "missing field " ++ Found.marked field
  | duplicateField field => "duplicate field " ++ Found.marked field
  | badTimestamp cause => cause.message
  | unreadable .malformed => "malformed text"
  | unreadable .endOfText => "unexpected end of text"

end DecodeError

/-- The cause for which a node is not what is expected. -/
def Node.mismatch (expected : String) : Node → DecodeError
  | value v => .wrongType (.ofJson v) expected
  | scalar text _ _ => .wrongType (.string text) expected
  | array _ _ => .wrongType .sequence expected
  | object _ _ => .wrongType .map expected
  | walkOnly (array _ _) => .wrongType .sequence expected
  | walkOnly _ => .wrongType .map expected
  | broken whenRead _ => .unreadable whenRead

end AgentFlow
