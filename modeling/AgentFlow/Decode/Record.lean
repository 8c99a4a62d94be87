import AgentFlow.Decode.Basic
import AgentFlow.Decode.Checked

/-!
# Reading records

A record is read from an object, whose members may come in any order, or from an array that lists
its fields in the order of declaration. Members that are no fields of the record are skipped.

Of all that is wrong with a record, what stands first in the document is reported: a member that
cannot be read, a field that is named twice, a value that does not fit. Fields that are missing are
reported only if all that is there is in order, and the one declared first goes first.
-/

namespace AgentFlow

/-- What a document holds of one field. -/
inductive Slot where
  | present (position : Nat) (conventions : Conventions) (node : Node)
  /-- No member has the field's name. -/
  | unnamed (position : Nat) (field : String)
  /-- The array ends in front of the field. -/
  | unlisted (position : Nat) (length : Nat) (expected : String)

namespace Slot

variable {α : Type}

/-- Reads a field that has to be there. -/
def required (read : Reader α) : Slot → Checked α
  | present position conventions node => .ofExcept position (read conventions node)
  | unnamed position field => .fault position (.missingField field)
  | unlisted position length expected => .fault position (.wrongLength length expected)

/-- Reads a field that has a default. -/
def withDefault (default : α) (read : Reader α) : Slot → Checked α
  | present position conventions node => .ofExcept position (read conventions node)
  | unnamed _ _ => .ok default
  | unlisted _ _ _ => .ok default

/-- Reads a field that may be absent or null. -/
def optional (read : Reader α) : Slot → Checked (Option α) :=
  withDefault none (Decode.optional read)

/-- Reads a field that may be null, and absent only among named members. -/
def nullable (read : Reader α) : Slot → Checked (Option α)
  | unnamed _ _ => .ok none
  | slot => slot.required (Decode.optional read)

end Slot

/-- The declaration of a record: its name, and the names of its fields. -/
structure RecordType where
  name : String
  fields : List String

namespace RecordType

variable {α : Type}

/-- What is expected where the record has to be. -/
def expected (type : RecordType) : String :=
  "struct " ++ type.name

/-- Checks members as far as it does not take the types of the fields: a name has to be readable,
a field is named once, and what is skipped has to be sound. -/
def checkMembers (type : RecordType) (conventions : Conventions) (position : Nat)
    (seen : List String) : List (Option String × Node) → Checked Unit
  | [] => .ok ()
  | (none, _) :: _ => .fault position (.unreadable .malformed)
  | (some name, node) :: rest =>
    if type.fields.contains name then
      if seen.contains name then .fault position (.duplicateField name)
      else checkMembers type conventions (position + 1) (name :: seen) rest
    else
      match if conventions.checksSkipped then node.skipFault? else none with
      | some fault => .fault position (.unreadable fault)
      | none => checkMembers type conventions (position + 1) seen rest

/-- Checks how a collection ends. -/
def checkEnding (position : Nat) : Ending → Checked Unit
  | .closed => .ok ()
  | .broken fault => .fault position (.unreadable fault)

/-- The field `name` among members. -/
def namedSlot (type : RecordType) (conventions : Conventions)
    (members : List (Option String × Node)) (name : String) : Slot :=
  match members.findIdx? (fun member => member.1 == some name) with
  | some i =>
    match members[i]? with
    | some (_, node) => .present i conventions node
    | none => .unnamed i name
  | none => .unnamed (members.length + 1 + type.fields.idxOf name) name

/-- The field `name` among listed items. -/
def listedSlot (type : RecordType) (conventions : Conventions) (items : List Node) (name : String) :
    Slot :=
  let i := type.fields.idxOf name
  match items[i]? with
  | some node => .present i conventions node
  | none =>
    .unlisted (items.length + 1 + i) i (type.expected ++ s!" with {type.fields.length} elements")

/-- Reads a record from members. -/
def readNamed (type : RecordType) (build : (String → Slot) → Checked α)
    (conventions : Conventions) (members : List (Option String × Node)) (ending : Ending) :
    Except DecodeError α :=
  let fields := build (type.namedSlot conventions.inner members)
  let checks := type.checkMembers conventions 0 [] members *> checkEnding members.length ending
  (fields <* checks).toExcept

/-- Reads a record from listed items; `surplus` is the cause if there are too many. -/
def readListed (type : RecordType) (build : (String → Slot) → Checked α)
    (conventions : Conventions) (items : List Node) (ending : Ending) (surplus : DecodeError) :
    Except DecodeError α :=
  let fields := build (type.listedSlot conventions.inner items)
  let check :=
    if type.fields.length < items.length then .fault type.fields.length surplus
    else checkEnding items.length ending
  (fields <* check).toExcept

/-- Reads a record, whose fields `build` takes from their slots. -/
def read (type : RecordType) (build : (String → Slot) → Checked α) : Reader α :=
  fun conventions node =>
    match node with
    | .value (.object fields) =>
      type.readNamed build conventions (fields.map fun (key, v) => (some key, .value v)) .closed
    | .value (.array items) =>
      type.readListed build conventions (items.map .value) .closed
        (.wrongLength items.length "fewer elements in array")
    | .object members ending => type.readNamed build conventions members ending
    | .walkOnly (.object members ending) => type.readNamed build conventions members ending
    | .array items ending =>
      if conventions.recordsAsArrays then
        type.readListed build conventions items ending (.unreadable .malformed)
      else .error (node.mismatch type.expected)
    | .scalar "" .plain _ => type.readNamed build conventions [] .closed
    | node => .error (node.mismatch type.expected)

end RecordType

end AgentFlow
