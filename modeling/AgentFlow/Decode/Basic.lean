import AgentFlow.Decode.Error
import AgentFlow.Json.Parse

/-!
# Reading typed data

A reader takes a node of a document and gives the data that it holds, or the cause for which it
holds none. Values that are already JSON are read by the same readers.

Documents come in two kinds that differ in `Conventions`. Scalars without a type (`Node.scalar`)
take the type that is asked for: any of them is a text, and a number where it looks like one; an
empty one also stands for an empty collection.
-/

namespace AgentFlow

/-- What a kind of document allows. -/
structure Conventions where
  /-- May the fields of a record be listed in an array, in the order of their declaration? -/
  recordsAsArrays : Bool
  /-- Does a fault in a value count that is skipped? -/
  checksSkipped : Bool
  /-- How deep the collections of a value that is kept may nest. -/
  room : Nat

namespace Conventions

/-- The conventions of JSON text, and of values. -/
def json : Conventions := ⟨true, true, Json.maxNesting⟩

/-- The conventions of YAML text. It is put together as a whole before anything is read, so that
values that are skipped have been checked. -/
def yaml : Conventions := ⟨false, false, 128⟩

/-- The conventions inside a collection. -/
def inner (conventions : Conventions) : Conventions :=
  { conventions with room := conventions.room - 1 }

end Conventions

/-- Reads a node of a document. -/
abbrev Reader (α : Type) := Conventions → Node → Except DecodeError α

namespace Decode

variable {α : Type}

/-- Reads a text. -/
def text : Reader String := fun _ node =>
  match node with
  | .value (.string s) => .ok s
  | .scalar s _ _ => .ok s
  | node => .error (node.mismatch "a string")

/-- Reads a truth value. -/
def bool : Reader Bool := fun _ node =>
  match node with
  | .value (.bool b) => .ok b
  | node => .error (node.mismatch "a boolean")

/-- Checks that an integer is a natural number of at most so many bits. -/
def inRange (bits : Nat) (name : String) (n : Int) : Except DecodeError Nat :=
  if 0 ≤ n && n < Int.pow 2 bits then .ok n.toNat
  else .error (.wrongValue (.number (.int n)) name)

/-- Reads a natural number of at most so many bits; `name` is what the type is called. -/
def natural (bits : Nat) (name : String) : Reader Nat := fun _ node =>
  match node with
  | .value (.number (.int n)) => inRange bits name n
  | .scalar s .plain tag =>
    match Scalar.natural? s.toList with
    | some n =>
      if n < Nat.pow 2 64 then inRange bits name n
      else .error (Node.mismatch name (.scalar s .plain tag))
    | none => .error (Node.mismatch name (.scalar s .plain tag))
  | node => .error (node.mismatch name)

/-- Reads a count of 32 bits. -/
def count32 : Reader UInt32 := fun conventions node =>
  (natural 32 "u32" conventions node).map Nat.toUInt32

/-- Reads a count of 64 bits. -/
def count64 : Reader UInt64 := fun conventions node =>
  (natural 64 "u64" conventions node).map Nat.toUInt64

/-- Reads a size. -/
def size : Reader Nat :=
  natural 64 "usize"

/-- Reads a number as a single. -/
def single : Reader Float32 := fun _ node =>
  match node with
  | .value (.number (.int n)) => .ok (singleOfInt n)
  | .value (.number (.float x)) => .ok (singleOf x)
  | .scalar s .plain tag =>
    match Scalar.float? s with
    | some x => .ok (singleOf x)
    | none => .error (Node.mismatch "f32" (.scalar s .plain tag))
  | node => .error (node.mismatch "f32")

/-- Reads a point in time. -/
def timestamp : Reader Timestamp := fun _ node =>
  match node with
  | .value (.string s) => (Timestamp.parse s).mapError .badTimestamp
  | .scalar s _ _ => (Timestamp.parse s).mapError .badTimestamp
  | node => .error (node.mismatch "an RFC 3339 formatted date and time string")

/-- Reads any value. -/
def json : Reader Json := fun conventions node =>
  match node with
  | .value v => .ok v
  | node => (node.toJson conventions.room).mapError .unreadable

/-- Reads a map of any values. -/
def map : Reader (Fields Json) := fun conventions node =>
  match node with
  | .value (.object fields) => .ok fields
  | .object members ending => ofMembers conventions members ending
  | .walkOnly (.object members ending) => ofMembers conventions members ending
  | .scalar "" .plain _ => .ok []
  | node => .error (node.mismatch "a map")
where
  /-- Keeps the members of a map. -/
  ofMembers (conventions : Conventions) (members : List (Option String × Node)) (ending : Ending) :
      Except DecodeError (Fields Json) := do
    let entries ← (Node.membersToJson conventions.inner.room members).mapError .unreadable
    match ending with
    | .closed => .ok (Fields.ofEntries entries)
    | .broken fault => .error (.unreadable fault)

/-- Reads a list. -/
def list (read : Reader α) : Reader (List α) := fun conventions node =>
  match node with
  | .value (.array items) => items.mapM fun item => read conventions.inner (.value item)
  | .array items ending => ofItems conventions items ending
  | .walkOnly (.array items ending) => ofItems conventions items ending
  | .scalar "" .plain _ => .ok []
  | node => .error (node.mismatch "a sequence")
where
  /-- Reads the items of a list. -/
  ofItems (conventions : Conventions) (items : List Node) (ending : Ending) :
      Except DecodeError (List α) := do
    let values ← items.mapM (read conventions.inner)
    match ending with
    | .closed => .ok values
    | .broken fault => .error (.unreadable fault)

/-- Is a plain scalar with this text and tag null? A tag of its own makes it a value; the tag of
null has to be right. -/
def isNullScalar (text : String) : Option String → Except DecodeError Bool
  | none => .ok (text.isEmpty || Scalar.isNull text)
  | some tag =>
    if tag ≠ Scalar.coreTag "null" then .ok false
    else if Scalar.isNull text then .ok true
    else .error (.wrongValue (.string text) "null")

/-- Reads something that may be null. -/
def optional (read : Reader α) : Reader (Option α) := fun conventions node =>
  match node with
  | .value .null => .ok none
  | .scalar s .plain tag => do
    if ← isNullScalar s tag then .ok none
    else (read conventions (.scalar s .plain tag)).map some
  | node => (read conventions node).map some

end Decode

end AgentFlow
