import AgentFlow.Proofs.Expr.Reading
import Mathlib.Data.List.Chain

/-!
# Neighbours in expressions

Which tokens may stand side by side in an expression. Behind an operand comes what joins it to
another one or closes a parenthesis; behind anything else an operand starts, and behind a dot stands
the name of a property. That is not all there is to the grammar — parentheses have to match — but it
is what can be seen of it from two tokens, and it refuses most texts that are no expressions.

Parentheses around a whole text would change nothing, so the first token is treated as if a
parenthesis stood in front of it (`isChain_of_parse`).
-/

namespace AgentFlow

open AgentFlow.Expr (Word Literal Phrase signLexeme)

namespace Lexeme

/-- An operand can end with this token. -/
def Closes : Lexeme → Prop
  | number _ | string _ | identifier _ | boolean _ | null | undefined | rightParen => True
  | symbol _ | leftParen | endOfText => False

/-- An operand can start with this token. -/
def Opens : Lexeme → Prop
  | number _ | string _ | identifier _ | boolean _ | null | undefined | leftParen => True
  | symbol .bang => True
  | symbol (.op op) => op = .sub
  | symbol .dot | rightParen | endOfText => False

/-- The token can stand behind an operand. -/
def Joins : Lexeme → Prop
  | symbol (.op _) | symbol .dot | rightParen | endOfText => True
  | symbol .bang | number _ | string _ | identifier _ | boolean _ | null | undefined => False
  | leftParen => False

/-- An operand has to follow the token. -/
def Awaits (lexeme : Lexeme) : Prop :=
  ¬ lexeme.Closes ∧ lexeme ≠ .symbol .dot

/-- Two tokens can stand side by side. -/
structure Precedes (a b : Lexeme) : Prop where
  joins : a.Closes → b.Joins
  opens : a.Awaits → b.Opens
  names : a = .symbol .dot → ∃ word : Word, b = word.lexeme

/-- Behind a token that ends an operand. -/
theorem Closes.precedes {a b : Lexeme} (ha : a.Closes) (hb : b.Joins) : Precedes a b := by
  refine ⟨fun _ => hb, fun hawaits => absurd ha hawaits.1, ?_⟩
  rintro rfl
  exact ha.elim

/-- Behind a token that an operand has to follow. -/
theorem Awaits.precedes {a b : Lexeme} (ha : a.Awaits) (hb : b.Opens) : Precedes a b :=
  ⟨fun hcloses => absurd hcloses ha.1, fun _ => hb, fun hdot => absurd hdot ha.2⟩

/-- Behind a dot. -/
theorem precedes_dot (word : Word) : Precedes (.symbol .dot) word.lexeme :=
  ⟨fun h => h.elim, fun h => absurd rfl h.2, fun _ => ⟨word, rfl⟩⟩

theorem awaits_leftParen : leftParen.Awaits :=
  ⟨id, nofun⟩

theorem awaits_op (op : BinaryOp) : (symbol (.op op)).Awaits :=
  ⟨id, nofun⟩

theorem awaits_bang : (symbol .bang).Awaits :=
  ⟨id, nofun⟩

end Lexeme

namespace Expr

open Lexeme (Precedes)

/-- A word can end an operand. -/
theorem Word.closes (word : Word) : word.lexeme.Closes := by
  cases word <;> trivial

/-- No word is an operator between two operands. -/
theorem Word.not_joins (word : Word) : ¬ word.lexeme.Joins := by
  cases word <;> exact id

/-- A literal can end an operand. -/
theorem Literal.closes (literal : Literal) : literal.lexeme.Closes := by
  cases literal <;> trivial

/-- A literal can start an operand. -/
theorem Literal.opens (literal : Literal) : literal.lexeme.Opens := by
  cases literal <;> trivial

/-- A prefix operator can start an operand. -/
theorem signLexeme_opens (op : UnaryOp) : (signLexeme op).Opens := by
  cases op
  · trivial
  · rfl

/-- Behind a prefix operator an operand has to start. -/
theorem signLexeme_awaits (op : UnaryOp) : (signLexeme op).Awaits := by
  cases op
  · exact Lexeme.awaits_bang
  · exact Lexeme.awaits_op .sub

/-- The properties of a path, up to a token that can stand behind the path. -/
theorem isChain_properties {first behind : Lexeme} (properties : List Word)
    (hfirst : first.Closes) (hbehind : behind.Joins) :
    (first :: (properties.flatMap fun word => [.symbol .dot, word.lexeme]) ++ [behind]).IsChain
      Precedes := by
  induction properties generalizing first with
  | nil => exact List.isChain_pair.mpr (hfirst.precedes hbehind)
  | cons word properties ih =>
    rw [List.flatMap_cons]
    refine List.isChain_cons_cons.mpr ⟨hfirst.precedes trivial, ?_⟩
    exact List.isChain_cons_cons.mpr ⟨Lexeme.precedes_dot word, ih word.closes⟩

/-- A phrase stands where an operand is due, in front of a token that can follow one. -/
theorem Phrase.isChain_lexemes {level : Option Level} (phrase : Phrase level)
    {before behind : Lexeme} (hbefore : before.Awaits) (hbehind : behind.Joins) :
    (before :: phrase.lexemes ++ [behind]).IsChain Precedes := by
  induction phrase generalizing before behind with
  | literal literal =>
    refine List.isChain_cons_cons.mpr ⟨hbefore.precedes literal.opens, ?_⟩
    exact List.isChain_pair.mpr (literal.closes.precedes hbehind)
  | path root properties =>
    refine List.isChain_cons_cons.mpr ⟨hbefore.precedes trivial, ?_⟩
    exact isChain_properties properties trivial hbehind
  | parens inner ih =>
    have hinner := ih Lexeme.awaits_leftParen (show Lexeme.rightParen.Joins from trivial)
    have hclosed : [Lexeme.rightParen, behind].IsChain Precedes :=
      List.isChain_pair.mpr (Lexeme.Closes.precedes trivial hbehind)
    have hwhole := List.isChain_split.mpr ⟨hinner, hclosed⟩
    refine List.isChain_cons_cons.mpr ⟨hbefore.precedes trivial, ?_⟩
    simpa using hwhole
  | signed op operand ih =>
    refine List.isChain_cons_cons.mpr ⟨hbefore.precedes (signLexeme_opens op), ?_⟩
    exact ih (signLexeme_awaits op) hbehind
  | single first ih => exact ih hbefore hbehind
  | chain left op fits right ihLeft ihRight =>
    have hleft := ihLeft hbefore (show (Lexeme.symbol (.op op)).Joins from trivial)
    have hright := ihRight (Lexeme.awaits_op op) hbehind
    have hwhole := List.isChain_split.mpr ⟨hleft, hright⟩
    simpa [lexemes] using hwhole

/-- The tokens of an expression can stand side by side as they do. -/
theorem isChain_of_parse {source : String} {e : Expr} (h : parse source = .ok e) :
    ∃ tokens, Token.tokenize source = .ok tokens ∧
      (Lexeme.leftParen :: tokens.map Token.lexeme).IsChain Precedes := by
  obtain ⟨phrase, ⟨tokens, htokens, hlexemes, -⟩, -⟩ := exists_phrase_of_parse h
  refine ⟨tokens, htokens, ?_⟩
  rw [hlexemes]
  exact phrase.isChain_lexemes Lexeme.awaits_leftParen trivial

end Expr

end AgentFlow
