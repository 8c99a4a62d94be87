/-!
# Why an expression is refused

Evaluation cannot fail: all that is wrong with an expression is found while it is read. Positions
are byte offsets into the text. Two of the causes come from the deny-list, the others from the
grammar.
-/

namespace AgentFlow

/-- The cause for which an expression is refused. -/
inductive ExprError where
  /-- A text in quotes is opened at `position` and never closed. -/
  | unterminatedString (position : Nat)
  /-- A character that starts no token. -/
  | unexpectedCharacter (char : Char) (position : Nat)
  /-- A token that does not fit where it stands. -/
  | unexpectedToken (found : String) (position : Nat)
  /-- A closing parenthesis is missing at `position`. -/
  | unmatchedParen (position : Nat)
  /-- The dot at `position` has no name behind it. -/
  | expectedProperty (position : Nat)
  /-- Parentheses, signs and chains of operators nest too deep. -/
  | tooDeep (position : Nat)
  /-- A word on the deny-list. -/
  | blockedIdentifier (name : String)
  /-- A property on the deny-list. -/
  | blockedProperty (name : String)
  deriving DecidableEq, Repr, Inhabited

namespace ExprError

/-- The text shown for a cause. -/
def message : ExprError → String
  | unterminatedString position => s!"Unterminated string starting at position {position}"
  | unexpectedCharacter char position =>
    "Unexpected character '" ++ char.toString ++ s!"' at position {position}"
  | unexpectedToken found position => s!"Unexpected token '{found}' at position {position}"
  | unmatchedParen position => s!"Expected ')' at position {position}"
  | expectedProperty position => s!"Expected property name after '.' at position {position}"
  | tooDeep position => s!"Expression nested too deeply at position {position}"
  | blockedIdentifier name => s!"Access to '{name}' is not allowed"
  | blockedProperty name => s!"Access to property '{name}' is not allowed"

/-- Does the cause come from the deny-list? -/
def isSecurityViolation : ExprError → Bool
  | blockedIdentifier _ => true
  | blockedProperty _ => true
  | _ => false

end ExprError

end AgentFlow
