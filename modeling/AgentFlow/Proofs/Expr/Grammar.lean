import AgentFlow.Expr.Parser
import AgentFlow.Proofs.Expr.Lexicon

/-!
# The grammar of expressions

The grammar that the reader is meant to implement, written down without the reader: which operators
stand on which level (`Level.members`), which level is the next tighter one (`Level.tighter?`), and
derivations. These are data, and the level of a derivation is its type, so a phrase that mixes up
two levels cannot be built. The rule of a level is left-recursive — a chain is a shorter chain, an
operator and one more operand of the next tighter level — which is what associating to the left
means.

A phrase has a text (`lexemes`), a meaning (`tree`) and positions. Of a position two numbers matter:

* its **charge**, what the reader counts on its way there: parentheses and prefix operators around
  it, and of each chain around it the operators that are consumed before it;
* its **depth**, how many nodes of the tree stand above it: prefix operators again, but of each
  chain the operators that take it, or a chain that holds it, as an operand.

The two disagree on chains. The first operand of a chain is charged nothing and stands below the
whole of it.
-/

namespace AgentFlow.Expr

/-- A word that may name a property: any word that is no operator. -/
inductive Word where
  | identifier (name : String)
  | boolean (value : Bool)
  | null
  | undefined

namespace Word

/-- What a word means by itself. -/
def lexeme : Word → Lexeme
  | identifier name => .identifier name
  | boolean value => .boolean value
  | null => .null
  | undefined => .undefined

/-- The property that a word names behind a dot. -/
def text : Word → String
  | identifier name => name
  | boolean value => if value then "true" else "false"
  | null => "null"
  | undefined => "undefined"

end Word

/-- A literal. -/
inductive Literal where
  | number (value : Float)
  | string (text : String)
  | boolean (value : Bool)
  | null
  | undefined

namespace Literal

/-- How a literal is written. -/
def lexeme : Literal → Lexeme
  | number x => .number x
  | string s => .string s
  | boolean b => .boolean b
  | null => .null
  | undefined => .undefined

/-- The value of a literal. -/
def value : Literal → Value
  | number x => .number x
  | string s => .string s
  | boolean b => .bool b
  | null => .null
  | undefined => .undefined

end Literal

/-- How a prefix operator is written. -/
def signLexeme : UnaryOp → Lexeme
  | .not => .symbol .bang
  | .neg => .symbol (.op .sub)

/-! ## Levels -/

namespace Level

/-- The operators of a level. -/
def members : Level → List BinaryOp
  | disjunction => [.or]
  | conjunction => [.and]
  | equality => [.eq, .ne, .strictEq, .strictNe]
  | order => [.lt, .gt, .le, .ge]
  | sum => [.add, .sub]
  | product => [.mul, .div, .mod]

/-- The next tighter level, on which the operands of a level are. Those of the tightest are on none:
they are operands with their prefix operators. -/
def tighter? : Level → Option Level
  | disjunction => some conjunction
  | conjunction => some equality
  | equality => some order
  | order => some sum
  | sum => some product
  | product => none

/-- The reader has every operator on its level. -/
theorem mem_members_iff {op : BinaryOp} {level : Level} :
    op ∈ level.members ↔ levelOf op = level := by
  cases op <;> cases level <;> decide

/-- The reader goes on to the next tighter level. -/
theorem operand?_eq_tighter? (level : Level) : level.operand? = level.tighter? := by
  cases level <;> rfl

theorem rank_tighter? (level : Level) : rank level.tighter? + 1 = rank (some level) := by
  rw [← operand?_eq_tighter?, rank_operand?]

end Level

/-! ## Phrases -/

/-- A derivation at a level; on no level, an operand with its prefix operators. -/
inductive Phrase : Option Level → Type where
  | literal (literal : Literal) : Phrase none
  | path (root : String) (properties : List Word) : Phrase none
  | parens (inner : Phrase (some .disjunction)) : Phrase none
  | signed (op : UnaryOp) (operand : Phrase none) : Phrase none
  /-- One operand, which is a chain without operators. -/
  | single {level : Level} (first : Phrase level.tighter?) : Phrase (some level)
  /-- A chain, one of the level's operators, and one more operand. -/
  | chain {level : Level} (left : Phrase (some level)) (op : BinaryOp) (fits : op ∈ level.members)
      (right : Phrase level.tighter?) : Phrase (some level)

/-- Where a position of a phrase stands. -/
structure Position where
  /-- The parentheses around it. -/
  parens : Nat
  /-- The prefix operators in front of the operands that hold it. -/
  signs : Nat
  /-- The operators of the chains around it that are consumed before it. -/
  before : Nat
  /-- The operators of the chains around it that it is below in the tree. -/
  above : Nat

namespace Position

/-- The outermost position. -/
def here : Position := ⟨0, 0, 0, 0⟩

/-- The same position with parentheses around everything. -/
def enclose (q : Position) : Position := { q with parens := q.parens + 1 }

/-- The same position with a prefix operator in front of everything. -/
def sign (q : Position) : Position := { q with signs := q.signs + 1 }

/-- The same position with one more operand behind the chain that it is in. -/
def extend (q : Position) : Position := { q with above := q.above + 1 }

/-- The position in the operand behind `operators + 1` operators of a chain. -/
def behind (operators : Nat) (q : Position) : Position :=
  { q with before := q.before + operators + 1, above := q.above + 1 }

/-- What a position is charged. -/
def charge (q : Position) : Nat := q.parens + q.signs + q.before

/-- How many nodes of the tree stand above a position. -/
def depth (q : Position) : Nat := q.signs + q.above

@[simp] theorem charge_here : here.charge = 0 := rfl

@[simp] theorem charge_enclose (q : Position) : q.enclose.charge = q.charge + 1 := by
  simp only [charge, enclose]
  omega

@[simp] theorem charge_sign (q : Position) : q.sign.charge = q.charge + 1 := by
  simp only [charge, sign]
  omega

@[simp] theorem charge_extend (q : Position) : q.extend.charge = q.charge := rfl

@[simp] theorem charge_behind (operators : Nat) (q : Position) :
    (q.behind operators).charge = q.charge + (operators + 1) := by
  simp only [charge, behind]
  omega

@[simp] theorem depth_sign (q : Position) : q.sign.depth = q.depth + 1 := by
  simp only [depth, sign]
  omega

@[simp] theorem depth_extend (q : Position) : q.extend.depth = q.depth + 1 := rfl

@[simp] theorem depth_behind (operators : Nat) (q : Position) :
    (q.behind operators).depth = q.depth + 1 := rfl

end Position

namespace Phrase

variable {level : Option Level}

/-- The text of a phrase. -/
def lexemes : {level : Option Level} → Phrase level → List Lexeme
  | _, literal l => [l.lexeme]
  | _, path root properties =>
    .identifier root :: properties.flatMap fun word => [.symbol .dot, word.lexeme]
  | _, parens inner => .leftParen :: inner.lexemes ++ [.rightParen]
  | _, signed op operand => signLexeme op :: operand.lexemes
  | _, single first => first.lexemes
  | _, chain left op _ right => left.lexemes ++ .symbol (.op op) :: right.lexemes

/-- The tree that a phrase stands for. -/
def tree : {level : Option Level} → Phrase level → Expr
  | _, literal l => .literal l.value
  | _, path root properties => .path root (properties.map Word.text)
  | _, parens inner => inner.tree
  | _, signed op operand => .unary op operand.tree
  | _, single first => first.tree
  | _, chain left op _ right => .binary op left.tree right.tree

/-- How many operators of its own level a phrase joins. -/
def operators : {level : Option Level} → Phrase level → Nat
  | _, literal _ => 0
  | _, path _ _ => 0
  | _, parens _ => 0
  | _, signed _ _ => 0
  | _, single _ => 0
  | _, chain left _ _ _ => left.operators + 1

/-- The positions of the operands and primaries of a phrase. -/
def positions : {level : Option Level} → Phrase level → List Position
  | _, literal _ => [.here]
  | _, path _ _ => [.here]
  | _, parens inner => .here :: inner.positions.map Position.enclose
  | _, signed _ operand => .here :: operand.positions.map Position.sign
  | _, single first => first.positions
  | _, chain left _ _ right =>
    left.positions.map Position.extend ++ right.positions.map (Position.behind left.operators)

/-- No position of a phrase is charged more than a budget. -/
def Within (budget : Nat) (phrase : Phrase level) : Prop :=
  ∀ q ∈ phrase.positions, q.charge ≤ budget

/-- A source is written as a phrase: its tokens are those of the phrase, and the end of the text,
and each is written as its meaning says. -/
def Spells (phrase : Phrase level) (source : String) : Prop :=
  ∃ tokens, Token.tokenize source = .ok tokens ∧
    tokens.map Token.lexeme = phrase.lexemes ++ [.endOfText] ∧
    ∀ token ∈ tokens, token.lexeme.IsWritten token.raw

/-- Every phrase has a position. -/
theorem positions_ne_nil (phrase : Phrase level) : phrase.positions ≠ [] := by
  induction phrase with
  | literal => exact List.cons_ne_nil _ _
  | path => exact List.cons_ne_nil _ _
  | parens => exact List.cons_ne_nil _ _
  | signed => exact List.cons_ne_nil _ _
  | single _ ih => exact ih
  | chain _ _ _ _ ih _ =>
    simp only [positions, ne_eq, List.append_eq_nil_iff, List.map_eq_nil_iff, not_and]
    exact fun h => absurd h ih

/-- More budget does no harm. -/
theorem Within.mono {phrase : Phrase level} {budget more : Nat} (h : phrase.Within budget)
    (hle : budget ≤ more) : phrase.Within more :=
  fun q hq => Nat.le_trans (h q hq) hle

/-- Every phrase is within some budget: it has finitely many positions. -/
theorem exists_within (phrase : Phrase level) : ∃ budget, phrase.Within budget := by
  refine ⟨(phrase.positions.map Position.charge).max?.getD 0, fun q hq => ?_⟩
  exact List.le_max?_getD_of_mem (List.mem_map_of_mem hq)

/-- Positions that are all charged `cost` more need so much more budget. -/
theorem forall_charge_map_iff {phrase : Phrase level} {f : Position → Position} {cost : Nat}
    (hf : ∀ q, (f q).charge = q.charge + cost) (budget : Nat) :
    (∀ q ∈ phrase.positions.map f, q.charge ≤ budget) ↔
      ∃ rest, budget = cost + rest ∧ phrase.Within rest := by
  constructor
  · intro h
    obtain ⟨q₀, hq₀⟩ := List.exists_mem_of_ne_nil _ phrase.positions_ne_nil
    have hle : cost ≤ budget := by
      have := h _ (List.mem_map_of_mem (f := f) hq₀)
      rw [hf] at this
      omega
    refine ⟨budget - cost, by omega, fun q hq => ?_⟩
    have := h _ (List.mem_map_of_mem (f := f) hq)
    rw [hf] at this
    omega
  · rintro ⟨rest, rfl, h⟩ q hq
    obtain ⟨p, hp, rfl⟩ := List.mem_map.mp hq
    have := h p hp
    rw [hf]
    omega

/-- A literal costs nothing. -/
theorem within_literal (l : Literal) (budget : Nat) : (literal l).Within budget := by
  intro q hq
  rw [List.mem_singleton.mp hq]
  exact Nat.zero_le _

/-- A path costs nothing, however long it is. -/
theorem within_path (root : String) (properties : List Word) (budget : Nat) :
    (path root properties).Within budget := by
  intro q hq
  rw [List.mem_singleton.mp hq]
  exact Nat.zero_le _

/-- Parentheses cost one unit for what is in them. -/
theorem within_parens {inner : Phrase (some .disjunction)} {budget : Nat} :
    (parens inner).Within budget ↔ ∃ rest, budget = 1 + rest ∧ inner.Within rest := by
  rw [← forall_charge_map_iff Position.charge_enclose]
  simp [Within, positions]

/-- A prefix operator costs one unit for its operand. -/
theorem within_signed {op : UnaryOp} {operand : Phrase none} {budget : Nat} :
    (signed op operand).Within budget ↔ ∃ rest, budget = 1 + rest ∧ operand.Within rest := by
  rw [← forall_charge_map_iff Position.charge_sign]
  simp [Within, positions]

theorem within_single {level : Level} {first : Phrase level.tighter?} {budget : Nat} :
    (single first).Within budget ↔ first.Within budget :=
  Iff.rfl

/-- Of a chain, the operand behind an operator pays for this operator and for all in front of it. -/
theorem within_chain {level : Level} {left : Phrase (some level)} {op : BinaryOp}
    {fits : op ∈ level.members} {right : Phrase level.tighter?} {budget : Nat} :
    (chain left op fits right).Within budget ↔
      left.Within budget ∧ ∃ rest, budget = left.operators + 1 + rest ∧ right.Within rest := by
  rw [← forall_charge_map_iff (Position.charge_behind left.operators)]
  simp only [Within, positions, List.mem_append, or_imp, forall_and, List.forall_mem_map,
    Position.charge_extend]

/-! ## Phrases of looser levels -/

/-- A phrase around an operand, by one step on each level up to a given one. -/
def climb (step : (level : Level) → Phrase level.tighter? → Phrase (some level))
    (operand : Phrase none) : (level : Option Level) → Phrase level
  | none => operand
  | some level => step level (climb step operand level.tighter?)
termination_by level => Level.rank level
decreasing_by have := Level.rank_tighter? level; omega

/-- An operand as a phrase of a level: chains without operators, one on each level. -/
def lift (operand : Phrase none) (level : Option Level) : Phrase level :=
  climb (fun _ => single) operand level

/-- A phrase of a level as one of the loosest. -/
def whole : {level : Option Level} → Phrase level → Phrase (some .disjunction)
  | some .disjunction, phrase => phrase
  | some .conjunction, phrase => @single .disjunction phrase
  | some .equality, phrase => @single .disjunction (@single .conjunction phrase)
  | some .order, phrase => @single .disjunction (@single .conjunction (@single .equality phrase))
  | some .sum, phrase =>
    @single .disjunction (@single .conjunction (@single .equality (@single .order phrase)))
  | some .product, phrase =>
    @single .disjunction (@single .conjunction (@single .equality (@single .order
      (@single .sum phrase))))
  | none, phrase =>
    @single .disjunction (@single .conjunction (@single .equality (@single .order
      (@single .sum (@single .product phrase)))))

/-- A chain without operators is written like its operand. -/
theorem lexemes_lift (operand : Phrase none) (level : Option Level) :
    (operand.lift level).lexemes = operand.lexemes := by
  unfold lift
  fun_induction climb (fun _ => single) operand level with
  | case1 => rfl
  | case2 level ih => exact ih

/-- A chain without operators stands for the tree of its operand. -/
theorem tree_lift (operand : Phrase none) (level : Option Level) :
    (operand.lift level).tree = operand.tree := by
  unfold lift
  fun_induction climb (fun _ => single) operand level with
  | case1 => rfl
  | case2 level ih => exact ih

/-- Chains without operators cost nothing. -/
theorem within_lift {operand : Phrase none} {level : Option Level} {budget : Nat} :
    (operand.lift level).Within budget ↔ operand.Within budget := by
  unfold lift
  fun_induction climb (fun _ => single) operand level with
  | case1 => rfl
  | case2 level ih => exact within_single.trans ih

/-- On the loosest level, a phrase is written as before. -/
theorem lexemes_whole (phrase : Phrase level) : phrase.whole.lexemes = phrase.lexemes := by
  rcases level with - | level
  · rfl
  · cases level <;> rfl

/-- On the loosest level, a phrase stands for the same tree. -/
theorem tree_whole (phrase : Phrase level) : phrase.whole.tree = phrase.tree := by
  rcases level with - | level
  · rfl
  · cases level <;> rfl

/-- On the loosest level, a phrase costs no more. -/
theorem within_whole {phrase : Phrase level} {budget : Nat} :
    phrase.whole.Within budget ↔ phrase.Within budget := by
  rcases level with - | level
  · exact Iff.rfl
  · cases level <;> exact Iff.rfl

end Phrase

end AgentFlow.Expr
