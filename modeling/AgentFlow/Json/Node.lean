import AgentFlow.Json.Basic

/-!
# Documents as they are read

Typed data is read straight out of a text, in the order of the text, and reading stops at the first
thing that is wrong: a value of the wrong type in front of a broken bracket is reported, and the
bracket is not. A `Node` is what a text holds in that order, faults included, so that reading it
in order meets the same fault first.

* A fault sits in the tree where the text breaks (`broken`), or where a bracket stays open
  (`Ending`).
* What only reading would refuse — a number beyond the doubles, a lone surrogate — is `broken` with
  no fault when skipped: data that nobody asks for passes.
* Keys are kept in order and with repetitions; one that cannot be read is `none`.
* A collection that can be taken apart field by field but has no value of its own is `walkOnly`.

A value that is already known to be sound stands in the tree as it is (`value`).
-/

namespace AgentFlow

/-- What is wrong with a text: it does not follow the grammar, or it ends too early. -/
inductive Fault where
  | malformed
  | endOfText
  deriving DecidableEq, Repr, Inhabited

/-- How a bracket ends. -/
inductive Ending where
  | closed
  | broken (fault : Fault)
  deriving DecidableEq, Repr, Inhabited

/-- The way a scalar without a fixed type is written. -/
inductive ScalarStyle where
  | plain
  | quoted
  | literal
  | folded
  deriving DecidableEq, Repr, Inhabited

/-- A text as it is read. -/
inductive Node where
  /-- A value known to be sound. -/
  | value (value : Json)
  /-- A scalar whose type depends on what is asked for. -/
  | scalar (text : String) (style : ScalarStyle) (tag : Option String)
  | array (items : List Node) (ending : Ending)
  | object (members : List (Option String × Node)) (ending : Ending)
  /-- A collection that can be taken apart but not kept: it has a tag of the document's own, or
  repeats parts of the document too often. -/
  | walkOnly (collection : Node)
  /-- A place where the text is wrong: the fault met by reading it, and by skipping it. -/
  | broken (whenRead : Fault) (whenSkipped : Option Fault)
  deriving Inhabited

namespace Ending

/-- The fault met at the end of a bracket. -/
def fault? : Ending → Option Fault
  | closed => none
  | broken fault => some fault

end Ending

namespace Node

mutual

/-- The fault that skipping a node meets. -/
def skipFault? : Node → Option Fault
  | value _ => none
  | scalar _ _ _ => none
  | array items ending => (skipItems? items).or ending.fault?
  | object members ending => (skipMembers? members).or ending.fault?
  | walkOnly collection => collection.skipFault?
  | broken _ whenSkipped => whenSkipped

/-- The first fault that skipping items meets. -/
def skipItems? : List Node → Option Fault
  | [] => none
  | item :: rest => item.skipFault?.or (skipItems? rest)

/-- The first fault that skipping members meets. -/
def skipMembers? : List (Option String × Node) → Option Fault
  | [] => none
  | (_, item) :: rest => item.skipFault?.or (skipMembers? rest)

end

end Node

end AgentFlow
