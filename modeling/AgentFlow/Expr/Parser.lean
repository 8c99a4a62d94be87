import AgentFlow.Expr.Token

/-!
# Reading expressions

The infix operators stand on six levels, each associating to the left; prefix operators bind
tighter, and primaries — literals, paths, parentheses — tightest.

Nesting is limited, and the limit is what makes reading end: every step down into an operand either
goes to a tighter level or spends one unit of a budget. Parentheses and prefix operators spend a
unit for what they enclose. In a chain of operators of one level every operator spends one more
than the one before, because it puts the chain so far one node deeper; the units come back at the
end of the chain. A path costs nothing.
-/

namespace AgentFlow.Expr

/-- The levels of infix operators, loosest first. -/
inductive Level where
  | disjunction
  | conjunction
  | equality
  | order
  | sum
  | product
  deriving DecidableEq, Repr, Inhabited

/-- The level of an operator. -/
def levelOf : BinaryOp → Level
  | .or => .disjunction
  | .and => .conjunction
  | .eq => .equality
  | .ne => .equality
  | .strictEq => .equality
  | .strictNe => .equality
  | .lt => .order
  | .gt => .order
  | .le => .order
  | .ge => .order
  | .add => .sum
  | .sub => .sum
  | .mul => .product
  | .div => .product
  | .mod => .product

namespace Level

/-- The level of the operands, which is the next tighter one; the operands of the tightest are on
none. -/
def operand? : Level → Option Level
  | disjunction => some conjunction
  | conjunction => some equality
  | equality => some order
  | order => some sum
  | sum => some product
  | product => none

/-- How many levels there are from one down to the tightest. -/
def rank : Option Level → Nat
  | none => 0
  | some product => 1
  | some sum => 2
  | some order => 3
  | some equality => 4
  | some conjunction => 5
  | some disjunction => 6

theorem rank_operand? (level : Level) : rank level.operand? + 1 = rank (some level) := by
  cases level <;> rfl

theorem rank_le (level : Option Level) : rank level ≤ 6 := by
  rcases level with - | level
  · decide
  · cases level <;> decide

end Level

/-- How deep parentheses, prefix operators and operators of a chain may nest. -/
def maxDepth : Nat := 128

/-- What is left to read. The list is never empty: its last token, the end of the text, stays. -/
abbrev Rest := List Token

/-- The next token. -/
def peek (ts : Rest) : Token :=
  ts.headD ⟨.endOfText, "", 0⟩

/-- The error of a token that does not fit. -/
def unexpected (token : Token) : ExprError :=
  .unexpectedToken (if token.isEnd then "end of input" else token.raw) token.position

/-- The operator in front, if it is one of a level. -/
def levelOp? (level : Level) (ts : Rest) : Option BinaryOp :=
  match (peek ts).symbol? with
  | some (.op op) => if levelOf op = level then some op else none
  | _ => none

/-- The prefix operator in front. -/
def prefixOp? (ts : Rest) : Option UnaryOp :=
  match (peek ts).symbol? with
  | some .bang => some .not
  | some (.op .sub) => some .neg
  | _ => none

/-- The name that a token is behind a dot: a word that is no operator. -/
def propertyName? (token : Token) : Option String :=
  match token.lexeme with
  | .identifier _ => some token.raw
  | .boolean _ => some token.raw
  | .null => some token.raw
  | .undefined => some token.raw
  | _ => none

/-- Reads the properties behind the root of a path. -/
def parseProperties : Rest → Except ExprError (List String × Rest)
  | dot :: name :: ts =>
    if dot.symbol? = some .dot then
      match propertyName? name with
      | none => .error (.expectedProperty dot.position)
      | some property =>
        if isDenied property then .error (.blockedProperty property)
        else (parseProperties ts).map fun (properties, ts) => (property :: properties, ts)
    else .ok ([], dot :: name :: ts)
  | ts => .ok ([], ts)

mutual

/-- Reads operands of a level joined by its operators; on no level, a single operand with its prefix
operators. -/
def parseLevel (budget : Nat) (level : Option Level) (ts : Rest) : Except ExprError (Expr × Rest) :=
  match level with
  | none => parseUnary budget ts
  | some level => do
    let (left, ts) ← parseLevel budget level.operand? ts
    parseChain budget level left ts
termination_by 9 * budget + Level.rank level + 2
decreasing_by
  · simp only [Level.rank]; omega
  · have := Level.rank_operand? level; omega
  · omega

/-- Goes on with a chain of operators behind its operand `left`. -/
def parseChain (budget : Nat) (level : Level) (left : Expr) (ts : Rest) :
    Except ExprError (Expr × Rest) :=
  match levelOp? level ts with
  | none => .ok (left, ts)
  | some op =>
    match budget with
    | 0 => .error (.tooDeep (peek ts).position)
    | budget + 1 => do
      let (right, ts) ← parseLevel budget level.operand? ts.tail
      parseChain budget level (.binary op left right) ts
termination_by 9 * budget
decreasing_by
  · have := Level.rank_le level.operand?; omega
  · omega

/-- Reads prefix operators and their operand. -/
def parseUnary (budget : Nat) (ts : Rest) : Except ExprError (Expr × Rest) :=
  match prefixOp? ts with
  | none => parsePrimary budget ts
  | some op =>
    match budget with
    | 0 => .error (.tooDeep (peek ts).position)
    | budget + 1 => do
      let (operand, ts) ← parseUnary budget ts.tail
      .ok (.unary op operand, ts)
termination_by 9 * budget + 1

/-- Reads a literal, a path, or an expression in parentheses. -/
def parsePrimary (budget : Nat) (ts : Rest) : Except ExprError (Expr × Rest) :=
  match (peek ts).lexeme with
  | .number x => .ok (.literal (.number x), ts.tail)
  | .string s => .ok (.literal (.string s), ts.tail)
  | .boolean b => .ok (.literal (.bool b), ts.tail)
  | .null => .ok (.literal .null, ts.tail)
  | .undefined => .ok (.literal .undefined, ts.tail)
  | .identifier root =>
    (parseProperties ts.tail).map fun (properties, ts) => (.path root properties, ts)
  | .leftParen =>
    match budget with
    | 0 => .error (.tooDeep (peek ts).position)
    | budget + 1 => do
      let (inner, ts) ← parseLevel budget (some .disjunction) ts.tail
      match (peek ts).lexeme with
      | .rightParen => .ok (inner, ts.tail)
      | _ => .error (.unmatchedParen (peek ts).position)
  | _ => .error (unexpected (peek ts))
termination_by 9 * budget
decreasing_by have := Level.rank_le (some .disjunction); omega

end

/-- Reads an expression from its tokens; nothing may be left. -/
def ofTokens (ts : Rest) : Except ExprError Expr := do
  let (e, ts) ← parseLevel maxDepth (some .disjunction) ts
  if (peek ts).isEnd then .ok e else .error (unexpected (peek ts))

/-- Reads an expression from its text. -/
def parse (source : String) : Except ExprError Expr := do
  ofTokens (← Token.tokenize source)

end AgentFlow.Expr
