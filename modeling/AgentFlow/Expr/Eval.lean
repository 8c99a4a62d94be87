import AgentFlow.Expr.Parser
import AgentFlow.Variables

/-!
# Evaluating expressions

Evaluation is total: every tree has a value in every environment. A path whose variable or property
is missing is `undefined`, and so is one that goes through a property on the deny-list, which a
tree built by hand may hold.
-/

namespace AgentFlow

namespace Expr

/-- The value of a property, found through neither a missing value nor a denied name. -/
def guardedProperty (value : Value) (name : String) : Value :=
  if isDenied name || value.isNullish then .undefined else value.property name

/-- The value of a path. -/
def resolvePath (vars : Variables) (root : String) (properties : List String) : Value :=
  let start := ((vars.get? root).map Value.ofJson).getD .undefined
  properties.foldl guardedProperty start

/-- Is a value joined to others as text? -/
def joinsAsText : Value → Bool
  | .string _ => true
  | value => value.isStructure

/-- Joins texts if one side is a text or a structure, and adds numbers otherwise. -/
def add (l r : Value) : Value :=
  if joinsAsText l || joinsAsText r then .string (l.toText ++ r.toText)
  else .number (l.toNumber + r.toNumber)

/-- Compares two texts by code points, anything else as numbers. -/
def compare (texts : String → String → Bool) (numbers : Float → Float → Bool) (l r : Value) :
    Value :=
  match l, r with
  | .string a, .string b => .bool (texts a b)
  | l, r => .bool (numbers l.toNumber r.toNumber)

/-- The value of an operator. -/
def apply (op : BinaryOp) (l r : Value) : Value :=
  match op with
  | .or => .bool (l.truthy || r.truthy)
  | .and => .bool (l.truthy && r.truthy)
  | .eq => .bool (l.looseEquals r)
  | .ne => .bool (!l.looseEquals r)
  | .strictEq => .bool (l.strictEquals r)
  | .strictNe => .bool (!l.strictEquals r)
  | .lt => compare (fun a b => a < b) (fun a b => a < b) l r
  | .gt => compare (fun a b => b < a) (fun a b => b < a) l r
  | .le => compare (fun a b => !decide (b < a)) (fun a b => a ≤ b) l r
  | .ge => compare (fun a b => !decide (a < b)) (fun a b => b ≤ a) l r
  | .add => add l r
  | .sub => .number (l.toNumber - r.toNumber)
  | .mul => .number (l.toNumber * r.toNumber)
  | .div => .number (l.toNumber / r.toNumber)
  | .mod => .number (remainder l.toNumber r.toNumber)

/-- The value of an expression. -/
def eval (vars : Variables) : Expr → Value
  | .literal value => value
  | .path root properties => resolvePath vars root properties
  | .unary .not operand => .bool (!(operand.eval vars).truthy)
  | .unary .neg operand => .number (-(operand.eval vars).toNumber)
  | .binary op left right => apply op (left.eval vars) (right.eval vars)

end Expr

/-- Reads and evaluates an expression. -/
def evaluate (source : String) (vars : Variables) : Except ExprError Value :=
  (Expr.parse source).map (Expr.eval vars)

end AgentFlow
