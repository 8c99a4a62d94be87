import AgentFlow.Proofs.Expr.Reading

/-!
# The height of what is read

The budget of the reader is meant to bound the tree, over which evaluation recurses. It does bound
it, but not by `maxDepth`: the budget that a chain has spent comes back at its end, while the chain
stays in the tree, as the first operand of a looser chain. A sum of `maxDepth` operators may be
compared, its comparison be tested for equality, and so on up the levels; and parentheses around
all that cost one unit.

* `height_le_maxDepth_iff` says of which texts the bound holds: of those whose positions are no
  deeper than `maxDepth`, where the text decides how deep a position is.
* `height_le_of_parse` says what is bounded: no tree that is read is higher than
  `3 * maxDepth * (maxDepth + 1) + 1`.
-/

namespace AgentFlow.Expr

/-- The largest number of operators on a path from the root of a tree to a leaf. -/
def height : Expr → Nat
  | .literal _ => 0
  | .path _ _ => 0
  | .unary _ operand => operand.height + 1
  | .binary _ left right => max left.height right.height + 1

/-! ## Depth of positions -/

namespace Phrase

variable {level : Option Level}

/-- No position is deeper than the tree is high. -/
theorem depth_le_height (phrase : Phrase level) :
    ∀ q ∈ phrase.positions, q.depth ≤ phrase.tree.height := by
  induction phrase with
  | literal l =>
    intro q hq
    rw [List.mem_singleton.mp hq]
    exact Nat.zero_le _
  | path root properties =>
    intro q hq
    rw [List.mem_singleton.mp hq]
    exact Nat.zero_le _
  | parens inner ih =>
    intro q hq
    rcases List.mem_cons.mp hq with rfl | hq
    · exact Nat.zero_le _
    · obtain ⟨p, hp, rfl⟩ := List.mem_map.mp hq
      exact ih p hp
  | signed op operand ih =>
    intro q hq
    rcases List.mem_cons.mp hq with rfl | hq
    · exact Nat.zero_le _
    · obtain ⟨p, hp, rfl⟩ := List.mem_map.mp hq
      rw [Position.depth_sign]
      exact Nat.succ_le_succ (ih p hp)
  | single first ih => exact ih
  | chain left op fits right ihLeft ihRight =>
    intro q hq
    rcases List.mem_append.mp hq with hq | hq
    · obtain ⟨p, hp, rfl⟩ := List.mem_map.mp hq
      rw [Position.depth_extend]
      exact Nat.succ_le_succ (Nat.le_trans (ihLeft p hp) (Nat.le_max_left ..))
    · obtain ⟨p, hp, rfl⟩ := List.mem_map.mp hq
      rw [Position.depth_behind]
      exact Nat.succ_le_succ (Nat.le_trans (ihRight p hp) (Nat.le_max_right ..))

/-- Some position is as deep as the tree is high. -/
theorem exists_depth_eq_height (phrase : Phrase level) :
    ∃ q ∈ phrase.positions, q.depth = phrase.tree.height := by
  induction phrase with
  | literal l => exact ⟨.here, List.mem_singleton.mpr rfl, rfl⟩
  | path root properties => exact ⟨.here, List.mem_singleton.mpr rfl, rfl⟩
  | parens inner ih =>
    obtain ⟨q, hq, hdepth⟩ := ih
    exact ⟨q.enclose, List.mem_cons_of_mem _ (List.mem_map_of_mem hq), hdepth⟩
  | signed op operand ih =>
    obtain ⟨q, hq, hdepth⟩ := ih
    refine ⟨q.sign, List.mem_cons_of_mem _ (List.mem_map_of_mem hq), ?_⟩
    rw [Position.depth_sign, hdepth]
    rfl
  | single first ih => exact ih
  | chain left op fits right ihLeft ihRight =>
    obtain ⟨p, hp, hleft⟩ := ihLeft
    obtain ⟨q, hq, hright⟩ := ihRight
    -- The deeper of the two operands has the position that is looked for.
    rcases Nat.le_total left.tree.height right.tree.height with hle | hle
    · refine ⟨q.behind _, List.mem_append_right _ (List.mem_map_of_mem hq), ?_⟩
      rw [Position.depth_behind, hright, tree, height, Nat.max_eq_right hle]
    · refine ⟨p.extend, List.mem_append_left _ (List.mem_map_of_mem hp), ?_⟩
      rw [Position.depth_extend, hleft, tree, height, Nat.max_eq_left hle]

/-- The height of a tree is the depth of the deepest position of its phrase. -/
theorem height_le_iff (phrase : Phrase level) (n : Nat) :
    phrase.tree.height ≤ n ↔ ∀ q ∈ phrase.positions, q.depth ≤ n := by
  constructor
  · intro h q hq
    exact Nat.le_trans (phrase.depth_le_height q hq) h
  · intro h
    obtain ⟨q, hq, hdepth⟩ := phrase.exists_depth_eq_height
    exact hdepth ▸ h q hq

end Phrase

/-! ## The bound -/

/-- The height of the highest operand on a budget: below parentheses all six levels come again, each
with a chain that spends the whole budget. -/
def operandHeight : Nat → Nat
  | 0 => 0
  | 1 => 1
  | budget + 2 => 6 * (budget + 1) + operandHeight (budget + 1)

/-- With more budget an operand can be higher. -/
theorem operandHeight_lt_succ (budget : Nat) :
    operandHeight budget < operandHeight (budget + 1) := by
  cases budget with
  | zero => decide
  | succ budget =>
    rw [operandHeight.eq_3]
    omega

theorem operandHeight_mono {budget more : Nat} (h : budget ≤ more) :
    operandHeight budget ≤ operandHeight more := by
  induction h with
  | refl => exact Nat.le_refl _
  | step _ ih => exact Nat.le_trans ih (Nat.le_of_lt (operandHeight_lt_succ _))

/-- Parentheses take one unit and give the six levels what is left. -/
theorem mul_add_operandHeight_le_succ (budget : Nat) :
    6 * budget + operandHeight budget ≤ operandHeight (budget + 1) := by
  cases budget with
  | zero => decide
  | succ budget => exact Nat.le_refl _

/-- What all levels together come to, in closed form. -/
theorem six_mul_add_operandHeight {budget : Nat} (h : 0 < budget) :
    6 * budget + operandHeight budget = 3 * budget * (budget + 1) + 1 := by
  induction budget with
  | zero => exact absurd h (Nat.lt_irrefl 0)
  | succ budget ih =>
    cases budget with
    | zero => rfl
    | succ budget =>
      rw [operandHeight, ih (Nat.succ_pos budget)]
      simp only [Nat.add_mul, Nat.mul_add]
      omega

namespace Phrase

variable {level : Option Level}

/-- The operators that a chain joins itself are within its budget. -/
theorem Within.operators_le {phrase : Phrase level} {budget : Nat} (h : phrase.Within budget) :
    phrase.operators ≤ budget := by
  cases phrase with
  | chain left op fits right =>
    obtain ⟨_, rest, rfl, _⟩ := within_chain.mp h
    exact Nat.le_add_right _ _
  | _ => exact Nat.zero_le _

/-- The budget of one chain on each level covers the operators that a phrase joins itself. -/
theorem Within.operators_add_le {phrase : Phrase level} {budget : Nat} (h : phrase.Within budget) :
    phrase.operators + (Level.rank level - 1) * budget ≤ Level.rank level * budget := by
  cases level with
  | none =>
    have hnone : phrase.operators = 0 := by cases phrase <;> rfl
    rw [hnone, Nat.zero_add]
    exact Nat.le_of_eq rfl
  | some level =>
    have hoperators := h.operators_le
    rw [← Level.rank_tighter? level, Nat.add_sub_cancel, Nat.succ_mul]
    omega

/-- The height of a phrase on a budget: each level below its own may join a chain that spends the
whole budget, and its own joins `operators`. -/
theorem height_le_of_within (phrase : Phrase level) : ∀ {budget : Nat}, phrase.Within budget →
    phrase.tree.height ≤
      phrase.operators + (Level.rank level - 1) * budget + operandHeight budget := by
  induction phrase with
  | literal l => exact fun _ => Nat.zero_le _
  | path root properties => exact fun _ => Nat.zero_le _
  | parens inner ih =>
    intro budget h
    obtain ⟨budget, rfl, hinner⟩ := within_parens.mp h
    have hheight := ih hinner
    have hlevels := hinner.operators_add_le
    have hbound := mul_add_operandHeight_le_succ budget
    simp only [Level.rank, tree, operators, Nat.add_comm 1 budget] at hheight hlevels ⊢
    omega
  | signed op operand ih =>
    intro budget h
    obtain ⟨budget, rfl, hoperand⟩ := within_signed.mp h
    have hheight := ih hoperand
    have hlevels := hoperand.operators_add_le
    have hbound := operandHeight_lt_succ budget
    simp only [Level.rank, tree, operators, height, Nat.add_comm 1 budget] at hheight hlevels ⊢
    omega
  | @single level first ih =>
    intro budget h
    have hheight := ih h
    have hlevels := Within.operators_add_le (within_single.mp h)
    rw [← Level.rank_tighter? level, Nat.add_sub_cancel, tree, operators]
    omega
  | @chain level left op fits right ihLeft ihRight =>
    intro budget h
    obtain ⟨hleft, rest, hbudget, hright⟩ := within_chain.mp h
    have hle : rest ≤ budget := by omega
    have hheightLeft := ihLeft hleft
    have hheightRight := ihRight hright
    have hlevels := hright.operators_add_le
    have hmono := operandHeight_mono hle
    -- The right operand has less budget, and a chain on every level below to spend it on.
    have hmul := Nat.mul_le_mul_left (Level.rank level.tighter?) hle
    rw [← Level.rank_tighter? level, Nat.add_sub_cancel] at hheightLeft ⊢
    have hmax : max left.tree.height right.tree.height ≤
        left.operators + Level.rank level.tighter? * budget + operandHeight budget :=
      Nat.max_le.mpr ⟨hheightLeft, by omega⟩
    simp only [tree, height, operators]
    omega

end Phrase

/-- No tree that is read is higher than all budgets of all levels together. -/
theorem height_le_of_parse {source : String} {e : Expr} (h : parse source = .ok e) :
    e.height ≤ 3 * maxDepth * (maxDepth + 1) + 1 := by
  obtain ⟨phrase, -, rfl, hwithin⟩ := exists_phrase_of_parse h
  have hheight := phrase.height_le_of_within hwithin
  have hlevels := hwithin.operators_add_le
  have hbound : 6 * maxDepth + operandHeight maxDepth = 3 * maxDepth * (maxDepth + 1) + 1 :=
    six_mul_add_operandHeight (by decide)
  simp only [Level.rank] at hheight hlevels
  omega

/-- **When the budget bounds the tree.** However a text that is read is written as a phrase, its
tree is no higher than `maxDepth` exactly if no position of the phrase is deeper: if at every
position the prefix operators in front of it, together with the operators of chains that it is
below, are at most `maxDepth`. Of a chain these are all its operators for the first operand, and for
a later one those from its own on; the reader counts those that are consumed before it. Whatever the
text, the tree is no higher than `3 * maxDepth * (maxDepth + 1) + 1`. -/
theorem height_le_maxDepth_iff {source : String} {e : Expr} (h : parse source = .ok e)
    {phrase : Phrase (some .disjunction)} (hspells : phrase.Spells source) :
    (e.height ≤ maxDepth ↔ ∀ q ∈ phrase.positions, q.signs + q.above ≤ maxDepth) ∧
      e.height ≤ 3 * maxDepth * (maxDepth + 1) + 1 := by
  refine ⟨?_, height_le_of_parse h⟩
  obtain ⟨other, hother, rfl, -⟩ := exists_phrase_of_parse h
  rw [Phrase.tree_eq_of_spells hother hspells]
  exact phrase.height_le_iff maxDepth

/-- In `!a + b` no position is deeper than two. -/
theorem height_le_maxDepth_of_negation_in_sum :
    let e : Expr := .binary .add (.unary .not (.path "a" [])) (.path "b" [])
    let phrase : Phrase (some .disjunction) :=
      .single (.single (.single (.single (.chain
        (.single (.single (.signed .not (.path "a" [])))) .add (by decide)
        (.single (.path "b" []))))))
    parse "!a + b" = .ok e ∧ phrase.Spells "!a + b" ∧
      (e.height ≤ maxDepth ↔ ∀ q ∈ phrase.positions, q.signs + q.above ≤ maxDepth) ∧
      e.height ≤ 3 * maxDepth * (maxDepth + 1) + 1 := by
  intro e phrase
  have hspells : phrase.Spells "!a + b" :=
    phrase.spells_of_tokenize (by with_unfolding_all rfl) (by with_unfolding_all rfl)
  have hwithin : phrase.Within maxDepth := by
    unfold Phrase.Within
    decide
  have hparse : parse "!a + b" = .ok e := Phrase.parse_of_spells hspells hwithin
  exact ⟨hparse, hspells, height_le_maxDepth_iff hparse hspells⟩

/-- A sum of `maxDepth` operators, tested for equality, is read with one node too many: at the
equality sign the budget that the sum has spent is back. -/
theorem height_of_compared_sum :
    ∃ e, parse ("a" ++ String.join (List.replicate maxDepth "+a") ++ "==a") = .ok e ∧
      e.height = maxDepth + 1 := by
  have htext : ("a" ++ String.join (List.replicate maxDepth "+a") ++ "==a").toList =
      'a' :: (List.replicate maxDepth ['+', 'a']).flatten ++ ['=', '=', 'a'] := by
    simp [String.toList_append, String.toList_join, List.flatMap_replicate]
  have hheight : (Token.scan 0 ('a' :: (List.replicate maxDepth ['+', 'a']).flatten ++
      ['=', '=', 'a']) >>= ofTokens).toOption.map height = some (maxDepth + 1) := by
    decide +kernel
  rw [← htext] at hheight
  obtain ⟨e, he, hheight⟩ := Option.map_eq_some_iff.mp hheight
  exact ⟨e, toOption_eq_some.mp he, hheight⟩

end AgentFlow.Expr
