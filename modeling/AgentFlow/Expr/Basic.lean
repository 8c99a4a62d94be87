import AgentFlow.Expr.Value

/-!
# Expressions

The tree of an expression: literals, paths into the variables, prefix and infix operators.
-/

namespace AgentFlow

/-- The operators with one operand. -/
inductive UnaryOp where
  | not
  | neg
  deriving DecidableEq, Repr, Inhabited

/-- The operators with two operands. -/
inductive BinaryOp where
  | or
  | and
  | eq
  | ne
  | strictEq
  | strictNe
  | lt
  | gt
  | le
  | ge
  | add
  | sub
  | mul
  | div
  | mod
  deriving DecidableEq, Repr, Inhabited

/-- An expression. -/
inductive Expr where
  | literal (value : Value)
  /-- The variable `root`, and the properties followed from it. -/
  | path (root : String) (properties : List String)
  | unary (op : UnaryOp) (operand : Expr)
  | binary (op : BinaryOp) (left right : Expr)
  deriving Inhabited

namespace UnaryOp

/-- The symbol of an operator. -/
def symbol : UnaryOp → String
  | not => "!"
  | neg => "-"

end UnaryOp

namespace BinaryOp

/-- The symbol of an operator. -/
def symbol : BinaryOp → String
  | or => "||"
  | and => "&&"
  | eq => "=="
  | ne => "!="
  | strictEq => "==="
  | strictNe => "!=="
  | lt => "<"
  | gt => ">"
  | le => "<="
  | ge => ">="
  | add => "+"
  | sub => "-"
  | mul => "*"
  | div => "/"
  | mod => "%"

/-- All operators. -/
def all : List BinaryOp :=
  [or, and, eq, ne, strictEq, strictNe, lt, gt, le, ge, add, sub, mul, div, mod]

/-- The operator with a symbol. -/
def ofSymbol? (symbol : String) : Option BinaryOp :=
  all.find? fun op => op.symbol = symbol

/-- A symbol names its operator. -/
theorem ofSymbol?_symbol (op : BinaryOp) : ofSymbol? op.symbol = some op := by
  cases op <;> decide

end BinaryOp

end AgentFlow
