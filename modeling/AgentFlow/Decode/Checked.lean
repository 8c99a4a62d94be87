import AgentFlow.Decode.Error

/-!
# Checking independent parts

The parts of a record are checked independently of one another, and of all that is wrong with them
only what stands first in the document is reported. `Checked` is the outcome of such a check: a
value, or a fault with its position. Two checks combine to one whose fault is the one further in
front.
-/

namespace AgentFlow

/-- The outcome of a check. -/
inductive Checked (α : Type) where
  | ok (value : α)
  | fault (position : Nat) (cause : DecodeError)

namespace Checked

variable {α β : Type}

/-- Changes the value. -/
def map (f : α → β) : Checked α → Checked β
  | ok a => ok (f a)
  | fault position cause => fault position cause

/-- Applies a checked function to a checked value; of two faults the one in front stays. -/
def ap : Checked (α → β) → Checked α → Checked β
  | ok f, ok a => ok (f a)
  | ok _, fault position cause => fault position cause
  | fault position cause, ok _ => fault position cause
  | fault i first, fault j second => if j < i then fault j second else fault i first

instance : Applicative Checked where
  pure := ok
  map := map
  seq f a := ap f (a ())

/-- The value, or the cause of the fault. -/
def toExcept : Checked α → Except DecodeError α
  | ok a => .ok a
  | fault _ cause => .error cause

/-- What was found at a position. -/
def ofExcept (position : Nat) : Except DecodeError α → Checked α
  | .ok a => ok a
  | .error cause => fault position cause

@[simp] theorem map_ok (f : α → β) (a : α) : f <$> ok a = ok (f a) := rfl

@[simp] theorem ok_seq_ok (f : α → β) (a : α) : ok f <*> ok a = ok (f a) := rfl

end Checked

end AgentFlow
