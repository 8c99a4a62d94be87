import AgentFlow.Condition.Shorthand
import AgentFlow.Expr.Eval

/-!
# Conditions

A condition is a shorthand or an expression, taken as a truth value. Asking whether a condition
holds never fails: one that cannot be evaluated does not hold. Whether it can be evaluated depends
on its text only, and `check` finds out.

Both kinds keep to the deny-list: an expression when it is read, a shorthand when its path is
resolved.
-/

namespace AgentFlow

namespace Shorthand

/-- The value at the path of a shorthand; the root and every segment have to be allowed. -/
def resolve (path : String) (vars : Variables) : Except ExprError Value :=
  match Variables.segments path with
  | [] => .ok .undefined
  | root :: properties =>
    if isDenied root then .error (.blockedIdentifier root)
    else
      match properties.find? isDenied with
      | some property => .error (.blockedProperty property)
      | none => .ok (Expr.eval vars (.path root properties))

/-- Empty are missing values, blank texts, and structures without content. -/
def isEmpty : Value → Bool
  | .undefined => true
  | .null => true
  | .string s => Text.isBlankText s
  | .array items => items.isEmpty
  | .object fields => fields.isEmpty
  | .bool _ => false
  | .number _ => false

/-- Does a text occur in another one? -/
def occursIn (needle : List Char) : List Char → Bool
  | [] => needle.isEmpty
  | c :: rest => needle.isPrefixOf (c :: rest) || occursIn needle rest

/-- A text holds the texts that occur in it, an array those that are its items. -/
def holds (needle : String) : Value → Bool
  | .string s => occursIn needle.toList s.toList
  | .array items => items.any fun item => item.text? == some needle
  | _ => false

/-- The truth value of a shorthand. -/
def eval (vars : Variables) (shorthand : Shorthand) : Except ExprError Bool :=
  (resolve shorthand.path vars).map fun value =>
    match shorthand with
    | .present _ => !value.isNullish
    | .empty _ negated => isEmpty value != negated
    | .contains _ needle => holds needle value

end Shorthand

namespace Condition

/-- The truth value of a condition. -/
def eval (condition : String) (vars : Variables) : Except ExprError Bool :=
  match Shorthand.recognize? condition with
  | some shorthand => shorthand.eval vars
  | none => (evaluate condition vars).map Value.truthy

/-- Does a condition hold? -/
def holds (condition : String) (vars : Variables) : Bool :=
  match eval condition vars with
  | .ok b => b
  | .error _ => false

/-- What cannot be evaluated does not hold. -/
theorem holds_of_eval_eq_error {condition : String} {cause : ExprError} {vars : Variables}
    (h : eval condition vars = .error cause) : holds condition vars = false := by
  rw [holds, h]

theorem holds_of_eval_eq_ok {condition : String} {b : Bool} {vars : Variables}
    (h : eval condition vars = .ok b) : holds condition vars = b := by
  rw [holds, h]

/-- Can a condition be evaluated? -/
def check (condition : String) : Except ExprError Unit :=
  match Shorthand.recognize? condition with
  | some shorthand => (Shorthand.resolve shorthand.path []).map fun _ => ()
  | none => (Expr.parse condition).map fun _ => ()

end Condition

end AgentFlow
