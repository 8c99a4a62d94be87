import AgentFlow.Proofs.Expr.Height
import AgentFlow.Proofs.Expr.Spelling

/-!
# The tallest tree

The bound on the height of what is read cannot be lowered. The phrase that attains it spends the
budget anew on every level: an operand becomes the first one of a product that spends all of it, the
product the first operand of such a sum, and so on up to the loosest level; and parentheses around
all that leave one unit less to the same game inside.
-/

namespace AgentFlow.Expr

namespace Level

/-- An operator of a level. -/
def operator : Level → BinaryOp
  | disjunction => .or
  | conjunction => .and
  | equality => .eq
  | order => .lt
  | sum => .add
  | product => .mul

theorem operator_mem_members (level : Level) : level.operator ∈ level.members := by
  cases level <;> decide

end Level

namespace Phrase

/-! ## Construction -/

/-- A variable as an operand of any level. -/
def leaf (level : Option Level) : Phrase level :=
  climb (fun _ => single) (path "a" []) level

/-- A chain with a given first operand and so many operators, all other operands being leaves. -/
def comb : Nat → (level : Level) → Phrase level.tighter? → Phrase (some level)
  | 0, _, first => single first
  | n + 1, level, first =>
    chain (comb n level first) level.operator level.operator_mem_members (leaf level.tighter?)

/-- The highest operand on a budget. -/
def deepest : Nat → Phrase none
  | 0 => leaf none
  | 1 => signed .not (leaf none)
  | budget + 2 => parens (climb (comb (budget + 1)) (deepest (budget + 1)) (some .disjunction))

/-- The highest phrase on a budget. -/
def tallest (budget : Nat) : Phrase (some .disjunction) :=
  climb (comb budget) (deepest budget) (some .disjunction)

/-! ## Height -/

theorem height_leaf (level : Option Level) : (leaf level).tree.height = 0 := by
  have htree : (leaf level).tree = (path "a" []).tree := tree_lift _ level
  rw [htree]
  rfl

/-- Every operator of a comb puts its first operand one node deeper. -/
theorem height_comb (n : Nat) {level : Level} (first : Phrase level.tighter?) :
    (comb n level first).tree.height = n + first.tree.height := by
  induction n with
  | zero => exact (Nat.zero_add _).symm
  | succ n ih =>
    rw [comb, tree, height, ih, height_leaf, Nat.max_eq_left (Nat.zero_le _)]
    omega

/-- The combs of all levels stand on top of each other. -/
theorem height_climb_comb (n : Nat) (operand : Phrase none) (level : Option Level) :
    (climb (comb n) operand level).tree.height = Level.rank level * n + operand.tree.height := by
  fun_induction climb (comb n) operand level with
  | case1 => rw [Level.rank, Nat.zero_mul, Nat.zero_add]
  | case2 level ih =>
    rw [height_comb, ih, ← Level.rank_tighter? level, Nat.succ_mul]
    omega

/-- The deepest operand is as high as an operand can be. -/
theorem height_deepest (budget : Nat) : (deepest budget).tree.height = operandHeight budget := by
  fun_induction deepest budget with
  | case1 => exact height_leaf none
  | case2 => rw [tree, height, height_leaf, operandHeight]
  | case3 budget ih => rw [tree, height_climb_comb, ih, operandHeight, Level.rank]

/-- The tallest phrase is as high as the budgets of all levels together. -/
theorem height_tallest (budget : Nat) :
    (tallest budget).tree.height = 6 * budget + operandHeight budget := by
  rw [tallest, height_climb_comb, height_deepest, Level.rank]

/-! ## Budget -/

theorem within_leaf (level : Option Level) (budget : Nat) : (leaf level).Within budget :=
  within_lift.mpr (within_path "a" [] budget)

theorem operators_comb (n : Nat) {level : Level} (first : Phrase level.tighter?) :
    (comb n level first).operators = n := by
  induction n with
  | zero => rfl
  | succ n ih => rw [comb, operators, ih]

/-- A comb of as many operators as there are units is within the budget: its first operand is
charged nothing, and all others are leaves. -/
theorem within_comb {n budget : Nat} (hn : n ≤ budget) {level : Level}
    {first : Phrase level.tighter?} (h : first.Within budget) :
    (comb n level first).Within budget := by
  induction n with
  | zero => exact within_single.mpr h
  | succ n ih =>
    refine within_chain.mpr ⟨ih (Nat.le_of_succ_le hn), budget - (n + 1), ?_, within_leaf _ _⟩
    rw [operators_comb]
    omega

/-- The combs of all levels spend one budget, since each is the first operand of the next. -/
theorem within_climb_comb {budget : Nat} {operand : Phrase none} (h : operand.Within budget)
    (level : Option Level) : (climb (comb budget) operand level).Within budget := by
  fun_induction climb (comb budget) operand level with
  | case1 => exact h
  | case2 level ih => exact within_comb (Nat.le_refl budget) ih

/-- The deepest operand is within its budget. -/
theorem within_deepest (budget : Nat) : (deepest budget).Within budget := by
  fun_induction deepest budget with
  | case1 => exact within_leaf none 0
  | case2 => exact within_signed.mpr ⟨0, rfl, within_leaf none 0⟩
  | case3 budget ih =>
    exact within_parens.mpr ⟨budget + 1, Nat.add_comm (budget + 1) 1, within_climb_comb ih _⟩

/-- The tallest phrase is within its budget. -/
theorem within_tallest (budget : Nat) : (tallest budget).Within budget :=
  within_climb_comb (within_deepest budget) _

/-! ## Text -/

/-- Every token of a phrase can be written. -/
def Writable {level : Option Level} (phrase : Phrase level) : Prop :=
  ∀ lexeme ∈ phrase.lexemes, ∃ spelling, Token.IsSpelling spelling lexeme

theorem writable_leaf (level : Option Level) : (leaf level).Writable := by
  have hlexemes : (leaf level).lexemes = (path "a" []).lexemes := lexemes_lift _ level
  intro lexeme hlexeme
  rw [hlexemes] at hlexeme
  rw [List.mem_singleton.mp hlexeme]
  exact ⟨_, Token.isSpelling_a⟩

/-- A comb can be written if its first operand can. -/
theorem writable_comb (n : Nat) {level : Level} {first : Phrase level.tighter?}
    (h : first.Writable) : (comb n level first).Writable := by
  induction n with
  | zero => exact h
  | succ n ih =>
    intro lexeme hlexeme
    rcases List.mem_append.mp hlexeme with hlexeme | hlexeme
    · exact ih lexeme hlexeme
    · rcases List.mem_cons.mp hlexeme with rfl | hlexeme
      · exact ⟨_, Token.isSpelling_symbol _⟩
      · exact writable_leaf _ lexeme hlexeme

theorem writable_climb_comb (n : Nat) {operand : Phrase none} (h : operand.Writable)
    (level : Option Level) : (climb (comb n) operand level).Writable := by
  fun_induction climb (comb n) operand level with
  | case1 => exact h
  | case2 level ih => exact writable_comb n ih

theorem writable_deepest (budget : Nat) : (deepest budget).Writable := by
  fun_induction deepest budget with
  | case1 => exact writable_leaf none
  | case2 =>
    intro lexeme hlexeme
    rcases List.mem_cons.mp hlexeme with rfl | hlexeme
    · exact ⟨_, Token.isSpelling_symbol .bang⟩
    · exact writable_leaf none lexeme hlexeme
  | case3 budget ih =>
    intro lexeme hlexeme
    rcases List.mem_cons.mp hlexeme with rfl | hlexeme
    · exact ⟨_, Token.isSpelling_leftParen⟩
    · rcases List.mem_append.mp hlexeme with hlexeme | hlexeme
      · exact writable_climb_comb _ ih _ lexeme hlexeme
      · rw [List.mem_singleton.mp hlexeme]
        exact ⟨_, Token.isSpelling_rightParen⟩

/-- The tallest phrase can be written. -/
theorem writable_tallest (budget : Nat) : (tallest budget).Writable :=
  writable_climb_comb budget (writable_deepest budget) _

/-- A phrase whose tokens can be written is the reading of a text. -/
theorem exists_spells_of_writable {level : Option Level} {phrase : Phrase level}
    (h : phrase.Writable) : ∃ source, phrase.Spells source := by
  obtain ⟨source, tokens, htokens, htext⟩ := Token.exists_tokenize_of_forall_isSpelling h
  exact ⟨source, phrase.spells_of_tokenize htokens htext⟩

end Phrase

/-- The bound `height_le_of_parse` is attained: a tree of that height is read from some text. -/
theorem exists_height_eq :
    ∃ source e, parse source = .ok e ∧ e.height = 3 * maxDepth * (maxDepth + 1) + 1 := by
  obtain ⟨source, hspells⟩ := Phrase.exists_spells_of_writable (Phrase.writable_tallest maxDepth)
  refine ⟨source, _, Phrase.parse_of_spells hspells (Phrase.within_tallest maxDepth), ?_⟩
  rw [Phrase.height_tallest, six_mul_add_operandHeight (by decide)]

end AgentFlow.Expr
