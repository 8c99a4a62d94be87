import AgentFlow.Proofs.Expr.Promise

/-!
# What calls do to the cursor

All calls of a reading share one index and one counter. If the tokens end with the only end of the
text, then every call comes back with the counter that it found, and with at least one token
consumed; on the way the index stays in the text, and the counter between what it was at the entry
and the limit (`keeps_cursor`). For that reason the reading ends, and it comes to what the reader
without a cursor says.

There is one lemma for each way that a call can go on, which takes the promises of the calls inside
of it for granted. The recursion of the reader without a cursor puts them together (`tracks_read`).
-/

namespace AgentFlow

namespace Expr

namespace Reading

open Scope

variable {tokens : List Token} {α : Type} {start : Point} {s : Cursor} {budget : Nat}
  {opened : List Token} {ts : Rest}

/-! ## Paths -/

/-- The end of the text names no property. -/
theorem isEnd_of_propertyName? {token : Token} {name : String}
    (h : propertyName? token = some name) : token.isEnd = false := by
  refine Token.isEnd_eq_false fun hend => ?_
  rw [propertyName?, hend] at h
  cases h

/-- Behind a dot and the token that follows it. -/
theorem exists_meets_name (hends : Token.EndsOnce tokens) {dot name : Token}
    (h : Ready tokens start budget opened (dot :: name :: ts) s) (hdot : dot.symbol? = some .dot) :
    ∃ mid, mid.Sound tokens start ∧ mid.here.depth = s.here.depth ∧
      s.here.index ≤ mid.here.index ∧
      (name.isEnd = false → Ready tokens start budget opened ts mid) ∧
      ∀ post, Meets (propertyOf dot name >>= fun property => do
        return property :: (← readProperties ⟨tokens, opened⟩)) mid post →
        Meets (readProperties ⟨tokens, opened⟩) s post := by
  have hpeek : peekAt tokens s.here.index = dot := h.peekAt_eq
  have hend : dot.isEnd = false := Token.isEnd_of_symbol? hdot
  obtain ⟨mid, hsound, hdepth, hle, hmid, hadvance⟩ :=
    exists_meets_advance hends (h.skip hends hend)
  refine ⟨mid, hsound, hdepth, Nat.le_of_succ_le hle, hmid, fun post hname => ?_⟩
  rw [readProperties, meets_next_bind, hpeek, if_pos hdot, meets_advance_bind (by rw [hpeek, hend])]
  exact hadvance _ post hname

/-- Reading properties comes to what the reader without a cursor says, with the counter as it was. A
path costs nothing, so no depth is counted on the way. -/
theorem meets_readProperties (hends : Token.EndsOnce tokens)
    (h : Ready tokens start budget opened ts s) :
    Meets (readProperties ⟨tokens, opened⟩) s
      (Promise tokens start s.here.depth s.here.index (parseProperties ts)) := by
  fun_induction parseProperties ts generalizing s with
  | case1 dot name ts hdot hname =>
    obtain ⟨mid, hsound, -, -, -, hread⟩ := exists_meets_name hends h hdot
    refine hread _ ?_
    rw [propertyOf, hname]
    exact meets_throw.mpr (.of_error hsound)
  | case2 dot name ts hdot property hproperty hdenied =>
    obtain ⟨mid, hsound, -, -, -, hread⟩ := exists_meets_name hends h hdot
    refine hread _ ?_
    rw [propertyOf, hproperty]
    dsimp only
    rw [if_pos hdenied]
    exact meets_throw.mpr (.of_error hsound)
  | case3 dot name ts hdot property hproperty hallowed ih =>
    obtain ⟨mid, -, hdepth, hle, hmid, hread⟩ := exists_meets_name hends h hdot
    refine hread _ ?_
    rw [propertyOf, hproperty]
    dsimp only
    rw [if_neg hallowed, ← hdepth]
    exact meets_map_promise ((ih (hmid (isEnd_of_propertyName? hproperty))).mono
      fun _ _ hpromise => hpromise.mono hle)
  | case4 dot name ts hdot =>
    have hpeek : peekAt tokens s.here.index = dot := h.peekAt_eq
    rw [readProperties, meets_next_bind, hpeek, if_neg hdot, meets_pure]
    exact .of_ok h.sound rfl (Nat.le_refl _) h.rest
  | case5 ts hts =>
    -- The reader matched on two tokens, so there is one at most, and that is the end of the text.
    have hlength : ts.length ≤ 1 := by
      rcases ts with - | ⟨first, - | ⟨second, ts⟩⟩
      · exact Nat.zero_le 1
      · exact Nat.le_refl 1
      · exact absurd rfl (hts first second ts)
    have hdot : ¬(peek ts).symbol? = some .dot := by
      intro hdot
      have hend : (peek ts).isEnd = false := Token.isEnd_of_symbol? hdot
      rw [h.isEnd_of_length_le_one hends hlength] at hend
      cases hend
    rw [readProperties, h.meets_next_bind, if_neg hdot, meets_pure]
    exact .of_ok h.sound rfl (Nat.le_refl _) h.rest

/-! ## Calls inside of calls -/

/-- Wherever the cursor is ready, a call promises a result, the counter as it was, and at least one
token consumed. -/
def Tracks (tokens : List Token) (start : Point) (budget : Nat) (ts : Rest)
    (call : Scope → Reading α) (result : Except ExprError (α × Rest)) : Prop :=
  ∀ opened s, Ready tokens start budget opened ts s →
    Meets (call ⟨tokens, opened⟩) s (Promise tokens start s.here.depth (s.here.index + 1) result)

/-- The same of the loop of a chain, which puts the counter back to what it was around the chain. -/
def TracksChain (tokens : List Token) (start : Point) (budget : Nat) (level : Level) (left : Expr)
    (ts : Rest) : Prop :=
  ∀ around base opened s, Ready tokens start budget opened ts s →
    start.depth ≤ base → base ≤ s.here.depth →
    around.length + start.depth = base + start.opened.length →
    Meets (readChain ⟨tokens, opened⟩ around base level left) s
      (Promise tokens start base s.here.index (parseChain budget level left ts))

section Chains

variable {level : Level} {left : Expr} {op : BinaryOp}

/-- A level tracks if its first operand and the loop behind it do. -/
theorem tracks_readLevel
    (hoperand : Tracks tokens start budget ts (readLevel · level.operand?)
      (parseLevel budget level.operand? ts))
    (hchain : ∀ left rest, TracksChain tokens start budget level left rest) :
    Tracks tokens start budget ts (readLevel · (some level))
      (parseLevel budget (some level) ts) := by
  intro opened s h
  dsimp only
  rw [readLevel, parseLevel, meets_get_bind]
  refine meets_bind_promise (hoperand opened s h) fun left mid hsound hdepth hreach => ?_
  refine (hchain left _ opened s.here.depth opened mid (h.again hsound hdepth)
    h.sound.here.start_le (Nat.le_of_eq hdepth.symm) h.counted).mono ?_
  exact fun _ _ hpromise => hpromise.mono hreach

theorem levelOp?_peek (level : Level) (ts : Rest) : levelOp? level [peek ts] = levelOp? level ts :=
  rfl

/-- The end of the text is no operator. -/
theorem isEnd_of_levelOp? (hop : levelOp? level ts = some op) : (peek ts).isEnd = false :=
  Token.isEnd_eq_false (by rw [(levelOp?_eq_some hop).1]; nofun)

/-- A chain ends where no operator of its level follows, and the counter goes back. -/
theorem tracksChain_of_none (hop : levelOp? level ts = none) :
    TracksChain tokens start budget level left ts := by
  intro around base opened s h hstart hbase haround
  rw [readChain, parseChain, h.meets_next_bind, levelOp?_peek, hop]
  dsimp only
  rw [meets_setDepth_bind, meets_pure]
  exact .of_ok (h.sound.moveTo_counted ⟨s.here.index, base, around⟩ h.sound.here.index_lt hstart
    (Nat.le_trans hbase h.sound.depth_le) haround) rfl (Nat.le_refl _) h.rest

/-- An operator beyond the limit is refused. -/
theorem tracksChain_zero (hends : Token.EndsOnce tokens) (hop : levelOp? level ts = some op) :
    TracksChain tokens start 0 level left ts := by
  intro around base opened s h _ _ _
  rw [readChain, parseChain, h.meets_next_bind, levelOp?_peek, hop]
  dsimp only
  rw [meets_skip_bind]
  exact meets_descend_zero (h.skip hends (isEnd_of_levelOp? hop))

/-- An operator within the limit tracks if its operand and the longer chain do. -/
theorem tracksChain_succ (hends : Token.EndsOnce tokens) (hop : levelOp? level ts = some op)
    (hoperand : Tracks tokens start budget ts.tail (readLevel · level.operand?)
      (parseLevel budget level.operand? ts.tail))
    (hchain : ∀ right rest, TracksChain tokens start budget level (.binary op left right) rest) :
    TracksChain tokens start (budget + 1) level left ts := by
  intro around base opened s h hstart hbase haround
  have hskip := h.skip hends (isEnd_of_levelOp? hop)
  have hdescend := hskip.descend (peek ts)
  rw [readChain, parseChain, h.meets_next_bind, levelOp?_peek, hop]
  dsimp only
  rw [meets_skip_bind, meets_descend_succ hskip]
  refine meets_bind_promise (hoperand _ _ hdescend) fun right mid hsound hdepth hreach => ?_
  refine (hchain right _ around base _ mid (hdescend.again hsound hdepth) hstart ?_ haround).mono
    fun _ _ hpromise => hpromise.mono ?_
  · rw [hdepth]
    exact Nat.le_succ_of_le hbase
  · exact Nat.le_trans (Nat.le_add_right _ 2) hreach

end Chains

/-! ## Prefix operators -/

section Signs

variable {op : UnaryOp}

theorem prefixOp?_peek (ts : Rest) : prefixOp? [peek ts] = prefixOp? ts :=
  rfl

/-- The end of the text is no prefix operator. -/
theorem isEnd_of_prefixOp? (hop : prefixOp? ts = some op) : (peek ts).isEnd = false :=
  Token.isEnd_eq_false (by rw [prefixOp?_eq_some hop]; cases op <;> nofun)

/-- Without a prefix operator, an operand is a primary. -/
theorem tracks_readUnary_of_none (hop : prefixOp? ts = none)
    (hprimary : Tracks tokens start budget ts readPrimary (parsePrimary budget ts)) :
    Tracks tokens start budget ts readUnary (parseUnary budget ts) := by
  intro opened s h
  rw [readUnary, parseUnary, h.meets_next_bind, prefixOp?_peek, hop]
  exact hprimary opened s h

/-- A prefix operator beyond the limit is refused. -/
theorem tracks_readUnary_zero (hends : Token.EndsOnce tokens) (hop : prefixOp? ts = some op) :
    Tracks tokens start 0 ts readUnary (parseUnary 0 ts) := by
  intro opened s h
  have hend := isEnd_of_prefixOp? hop
  rw [readUnary, parseUnary, h.meets_next_bind, prefixOp?_peek, hop]
  dsimp only
  rw [h.meets_advance_bind hend]
  exact meets_descend_zero (h.skip hends hend)

/-- A prefix operator within the limit tracks if its operand does. -/
theorem tracks_readUnary_succ (hends : Token.EndsOnce tokens) (hop : prefixOp? ts = some op)
    (hoperand : Tracks tokens start budget ts.tail readUnary (parseUnary budget ts.tail)) :
    Tracks tokens start (budget + 1) ts readUnary (parseUnary (budget + 1) ts) := by
  intro opened s h
  have hend := isEnd_of_prefixOp? hop
  have hskip := h.skip hends hend
  rw [readUnary, parseUnary, h.meets_next_bind, prefixOp?_peek, hop]
  dsimp only
  rw [h.meets_advance_bind hend, meets_descend_succ hskip]
  refine meets_bind_promise (hoperand _ _ (hskip.descend (peek ts))) ?_
  intro operand mid hsound hdepth hreach
  have hback : mid.here.depth - 1 = s.here.depth := by rw [hdepth]; rfl
  rw [meets_get_bind, meets_setDepth_bind, meets_pure, hback]
  exact .of_ok (hsound.moveTo_counted ⟨mid.here.index, s.here.depth, opened⟩ hsound.here.index_lt
    h.sound.here.start_le h.sound.depth_le h.counted) rfl (Nat.le_of_succ_le hreach) rfl

end Signs

/-! ## Primaries -/

/-- A literal is one token. -/
theorem tracks_readPrimary_literal (hends : Token.EndsOnce tokens) (l : Literal)
    (hl : (peek ts).lexeme = l.lexeme) :
    Tracks tokens start budget ts readPrimary (parsePrimary budget ts) := by
  intro opened s h
  have hend : (peek ts).isEnd = false := Token.isEnd_eq_false (by rw [hl]; cases l <;> nofun)
  have hskip := h.skip hends hend
  rw [readPrimary, parsePrimary_literal budget l hl, h.meets_advance_bind hend, hl]
  cases l <;> exact meets_pure.mpr (.of_ok hskip.sound rfl (Nat.le_refl _) hskip.rest)

/-- A path is its root, and properties that track by themselves. -/
theorem tracks_readPrimary_identifier (hends : Token.EndsOnce tokens) {root : String}
    (hroot : (peek ts).lexeme = .identifier root) :
    Tracks tokens start budget ts readPrimary (parsePrimary budget ts) := by
  intro opened s h
  have hend : (peek ts).isEnd = false := Token.isEnd_eq_false (by rw [hroot]; nofun)
  rw [readPrimary, parsePrimary_identifier budget hroot, h.meets_advance_bind hend, hroot]
  exact meets_map_promise (meets_readProperties hends (h.skip hends hend))

/-- Parentheses beyond the limit are refused. -/
theorem tracks_readPrimary_leftParen_zero (hends : Token.EndsOnce tokens)
    (hparen : (peek ts).lexeme = .leftParen) :
    Tracks tokens start 0 ts readPrimary (parsePrimary 0 ts) := by
  intro opened s h
  have hend : (peek ts).isEnd = false := Token.isEnd_eq_false (by rw [hparen]; nofun)
  rw [readPrimary, parsePrimary_leftParen_zero hparen, h.meets_advance_bind hend, hparen]
  exact meets_descend_zero (h.skip hends hend)

/-- Parentheses are left with the counter at what it was in front of them. Between that and the
closing parenthesis one more is open than is counted, and as the counter was one higher before, that
is within the limit too. -/
theorem meets_leaveParens (hends : Token.EndsOnce tokens)
    (h : Ready tokens start (budget + 1) opened ts s) {mid : Cursor}
    (hsound : mid.Sound tokens start)
    (hdepth : mid.here.depth = s.here.depth + 1) (hreach : s.here.index + 1 ≤ mid.here.index)
    (paren : Token) (inner : Expr) :
    Meets (leaveParens tokens opened paren inner) mid
      (Promise tokens start s.here.depth (s.here.index + 1)
        (match (peek (tokens.drop mid.here.index)).lexeme with
        | .rightParen => .ok (inner, (tokens.drop mid.here.index).tail)
        | _ => .error (.unmatchedParen (peek (tokens.drop mid.here.index)).position))) := by
  have hleft := h.left
  have hcounted := h.counted
  have hclosing :
      (mid.moveTo ⟨mid.here.index, s.here.depth, paren :: opened⟩).Sound tokens start := by
    refine hsound.moveTo ⟨hsound.here.index_lt, h.sound.here.start_le, ?_, ?_⟩
      ⟨h.sound.depth_le, ?_⟩
    all_goals
      simp only [List.length_cons]
      omega
  have hpeek :
      peekAt tokens (mid.moveTo ⟨mid.here.index, s.here.depth, paren :: opened⟩).here.index =
        peek (tokens.drop mid.here.index) := peekAt_eq_peek hsound.here.index_lt
  rw [leaveParens, meets_get_bind, hdepth, Nat.add_sub_cancel, meets_setDepth_bind,
    meets_next_bind, hpeek]
  cases hlexeme : (peek (tokens.drop mid.here.index)).lexeme with
  | rightParen =>
    have hend : (peek (tokens.drop mid.here.index)).isEnd = false :=
      Token.isEnd_eq_false (by rw [hlexeme]; nofun)
    rw [meets_skip_bind, meets_pure]
    exact .of_ok (hclosing.moveTo_counted ⟨mid.here.index + 1, s.here.depth, opened⟩
      (hends.succ_lt_length hsound.here.index_lt hend) h.sound.here.start_le h.sound.depth_le
      h.counted) rfl (Nat.le_succ_of_le hreach) List.tail_drop.symm
  | _ => exact meets_throw.mpr (.of_error hclosing)

/-- Parentheses within the limit track if what is in them does. Whether they are closed or not, the
counter is put back before. -/
theorem tracks_readPrimary_leftParen_succ (hends : Token.EndsOnce tokens)
    (hparen : (peek ts).lexeme = .leftParen)
    (hinner : Tracks tokens start budget ts.tail (readLevel · (some .disjunction))
      (parseLevel budget (some .disjunction) ts.tail)) :
    Tracks tokens start (budget + 1) ts readPrimary (parsePrimary (budget + 1) ts) := by
  intro opened s h
  have hend : (peek ts).isEnd = false := Token.isEnd_eq_false (by rw [hparen]; nofun)
  have hskip := h.skip hends hend
  rw [readPrimary, parsePrimary_leftParen budget hparen, h.meets_advance_bind hend, hparen]
  dsimp only
  rw [meets_descend_succ hskip]
  refine meets_bind_promise (hinner _ _ (hskip.descend (peek ts))) ?_
  intro inner mid hsound hdepth hreach
  exact meets_leaveParens hends h hsound hdepth (Nat.le_of_succ_le hreach) (peek ts) inner

/-- A token that starts no operand. It may be the end of the text. -/
theorem tracks_readPrimary_of_unexpected (hends : Token.EndsOnce tokens)
    (hliteral : ∀ l : Literal, (peek ts).lexeme ≠ l.lexeme)
    (hroot : ∀ root, (peek ts).lexeme ≠ .identifier root)
    (hparen : (peek ts).lexeme ≠ .leftParen) :
    Tracks tokens start budget ts readPrimary (parsePrimary budget ts) := by
  intro opened s h
  obtain ⟨mid, hsound, -, -, -, hadvance⟩ := exists_meets_advance hends h
  have hrefused : Meets (throw (unexpected (peek ts))) mid (Promise tokens start s.here.depth
      (s.here.index + 1) (.error (unexpected (peek ts)) : Except ExprError (Expr × Rest))) :=
    meets_throw.mpr (.of_error hsound)
  rw [readPrimary, parsePrimary.eq_def]
  refine hadvance _ _ ?_
  cases hlexeme : (peek ts).lexeme with
  | number x => exact absurd hlexeme (hliteral (.number x))
  | string t => exact absurd hlexeme (hliteral (.string t))
  | boolean b => exact absurd hlexeme (hliteral (.boolean b))
  | null => exact absurd hlexeme (hliteral .null)
  | undefined => exact absurd hlexeme (hliteral .undefined)
  | identifier root => exact absurd hlexeme (hroot root)
  | leftParen => exact absurd hlexeme hparen
  | symbol _ => exact hrefused
  | rightParen => exact hrefused
  | endOfText => exact hrefused

/-! ## All calls -/

/-- Every call with a cursor does what the same call does with a rest of the tokens and of the
budget. -/
theorem tracks_read (hends : Token.EndsOnce tokens) (start : Point) :
    (∀ budget level ts, Tracks tokens start budget ts (readLevel · level)
      (parseLevel budget level ts)) ∧
    (∀ budget level left ts, TracksChain tokens start budget level left ts) ∧
    (∀ budget ts, Tracks tokens start budget ts readUnary (parseUnary budget ts)) ∧
    (∀ budget ts, Tracks tokens start budget ts readPrimary (parsePrimary budget ts)) := by
  -- The calls with a cursor are no recursion of their own; they follow that of the other reader.
  apply parseLevel.mutual_induct
  case case1 =>
    intro budget ts ih opened s h
    dsimp only
    rw [readLevel, parseLevel]
    exact ih opened s h
  case case2 => exact fun budget ts level => tracks_readLevel
  case case3 => exact fun budget level left ts hop => tracksChain_of_none hop
  case case4 => exact fun level left ts op hop => tracksChain_zero hends hop
  case case5 => exact fun level left ts op hop budget => tracksChain_succ hends hop
  case case6 => exact fun budget ts hop => tracks_readUnary_of_none hop
  case case7 => exact fun ts op hop => tracks_readUnary_zero hends hop
  case case8 => exact fun ts op hop budget => tracks_readUnary_succ hends hop
  case case9 => exact fun budget ts x => tracks_readPrimary_literal hends (.number x)
  case case10 => exact fun budget ts t => tracks_readPrimary_literal hends (.string t)
  case case11 => exact fun budget ts b => tracks_readPrimary_literal hends (.boolean b)
  case case12 => exact fun budget ts => tracks_readPrimary_literal hends .null
  case case13 => exact fun budget ts => tracks_readPrimary_literal hends .undefined
  case case14 => exact fun budget ts root => tracks_readPrimary_identifier hends
  case case15 => exact fun ts => tracks_readPrimary_leftParen_zero hends
  case case16 => exact fun ts hparen budget => tracks_readPrimary_leftParen_succ hends hparen
  case case17 =>
    intro budget ts hnumber hstring hboolean hnull hundefined hroot hparen
    refine tracks_readPrimary_of_unexpected hends (fun l => ?_) hroot hparen
    cases l with
    | number x => exact hnumber x
    | string t => exact hstring t
    | boolean b => exact hboolean b
    | null => exact hnull
    | undefined => exact hundefined

end Reading

/-! ## The cursor of a reading -/

/-- The calls that read an expression. -/
inductive Call where
  | level (level : Level)
  | unary
  | primary

namespace Call

/-- A call with a cursor. -/
def read (scope : Scope) : Call → Reading Expr
  | level l => scope.readLevel (some l)
  | unary => scope.readUnary
  | primary => scope.readPrimary

/-- The same call with a rest of the budget and a rest of the tokens. -/
def parse (budget : Nat) (ts : Rest) : Call → Except ExprError (Expr × Rest)
  | level l => parseLevel budget (some l) ts
  | unary => parseUnary budget ts
  | primary => parsePrimary budget ts

/-- A call from any point in the text promises what the reader without a cursor says of the tokens
from there, on the budget that is left of the limit. -/
theorem meets_promise (hends : Token.EndsOnce tokens) (call : Call) (start : Point)
    (hindex : start.index < tokens.length) :
    (call.read ⟨tokens, start.opened⟩).Meets (.start start)
      (Reading.Promise tokens start start.depth (start.index + 1)
        (call.parse (maxDepth - start.depth) (tokens.drop start.index))) := by
  have h : Reading.Ready tokens start (maxDepth - start.depth) start.opened
      (tokens.drop start.index) (.start start) :=
    ⟨.of_start hindex, rfl, rfl, Nat.add_comm ..⟩
  obtain ⟨hlevel, -, hunary, hprimary⟩ := Reading.tracks_read hends start
  cases call with
  | level l => exact hlevel _ (some l) _ _ _ h
  | unary => exact hunary _ _ _ _ h
  | primary => exact hprimary _ _ _ _ h

end Call

/-- What a reading keeps that starts at a point and comes to an outcome. -/
structure KeepsCursor (tokens : List Token) (start : Point) (outcome : Except ExprError Expr)
    (finish : Cursor) : Prop where
  /-- The index is that of a token, at most that of the end of the text. -/
  inText : ∀ p ∈ finish.points, p.index < tokens.length
  /-- The next token is the one at the index, never the last one in place of none. -/
  next : ∀ p ∈ finish.points, tokens[p.index]? = some (peekAt tokens p.index)
  /-- The end of the text is not consumed. -/
  endLeft : ∀ p ∈ finish.points, ∀ token ∈ tokens.take p.index, token.lexeme ≠ .endOfText
  /-- The counter is never below what it was at the entry. -/
  floor : ∀ p ∈ finish.points, start.depth ≤ p.depth
  /-- If the counter says at the entry how much is open, then it says so at every point, or one less
  while parentheses are about to be closed. -/
  counted : start.opened.length = start.depth →
    ∀ p ∈ finish.points, p.depth ≤ p.opened.length ∧ p.opened.length ≤ p.depth + 1
  /-- If the reading is entered within the limit, it stays within it, the counter as well as what is
  open, unless it is refused for that. -/
  ceiling : start.opened.length ≤ start.depth → start.depth ≤ maxDepth →
    (∀ position, outcome ≠ .error (.tooDeep position)) →
    ∀ p ∈ finish.points, p.depth ≤ maxDepth ∧ p.opened.length ≤ maxDepth
  /-- If an expression is read, the counter is put back and something is consumed. -/
  restored : ∀ e, outcome = .ok e →
    finish.here.depth = start.depth ∧ start.index < finish.here.index

/-- What a call promises is all that is to be said of the cursor. -/
theorem Reading.Promise.keepsCursor (hends : Token.EndsOnce tokens) {start : Point}
    {result : Except ExprError (Expr × Rest)} {outcome : Except ExprError Expr} {finish : Cursor}
    (h : Promise tokens start start.depth (start.index + 1) result outcome finish) :
    KeepsCursor tokens start outcome finish where
  inText p hp := (h.sound p hp).index_lt
  next p hp := getElem?_eq_peekAt (h.sound p hp).index_lt
  endLeft p hp := hends.lexeme_ne_of_mem_take (h.sound p hp).index_lt
  floor p hp := (h.sound p hp).start_le
  counted hstart p hp := by
    have hle := (h.sound p hp).depth_le
    have hge := (h.sound p hp).opened_le
    omega
  ceiling hstart hlimit hdeep p hp := by
    rcases h.shallow with ⟨position, hposition⟩ | hshallow
    · exact absurd hposition (hdeep position)
    · have hdepth := (hshallow p hp).depth_le
      have hopened := (hshallow p hp).opened_le
      rw [Nat.max_eq_left hlimit] at hdepth hopened
      omega
  restored := h.restored

/-- The reading of a whole text comes to what the reader without a cursor says. -/
theorem meets_readAll (hends : Token.EndsOnce tokens) :
    (Reading.readAll tokens).Meets (.start ⟨0, 0, []⟩) fun outcome finish =>
      outcome = ofTokens tokens ∧ KeepsCursor tokens ⟨0, 0, []⟩ outcome finish := by
  have hcall := Call.meets_promise hends (.level .disjunction) ⟨0, 0, []⟩ hends.length_pos
  refine Reading.meets_bind (hcall.mono fun outcome finish h => ?_)
  cases outcome with
  | error e =>
    have hread : parseLevel maxDepth (some .disjunction) tokens = .error e := h.agrees
    refine ⟨?_, h.keepsCursor hends⟩
    rw [ofTokens, hread]
    rfl
  | ok e =>
    have hread : parseLevel maxDepth (some .disjunction) tokens =
      .ok (e, tokens.drop finish.here.index) := h.agrees
    have hwhole : ofTokens tokens = if (peek (tokens.drop finish.here.index)).isEnd then .ok e
        else .error (unexpected (peek (tokens.drop finish.here.index))) := by
      rw [ofTokens, hread]
      rfl
    have hsound := h.sound_of_ok
    dsimp only
    rw [Reading.meets_next_bind, peekAt_eq_peek hsound.here.index_lt, hwhole]
    cases hend : (peek (tokens.drop finish.here.index)).isEnd with
    | true => exact Reading.meets_pure.mpr ⟨rfl, h.keepsCursor hends⟩
    | false =>
      refine Reading.meets_throw.mpr ⟨rfl, ?_⟩
      have hrefused : Reading.Promise tokens ⟨0, 0, []⟩ 0 1 (.error _ : Except _ (Expr × Rest))
        (.error (unexpected (peek (tokens.drop finish.here.index)))) finish := .of_error hsound
      exact hrefused.keepsCursor hends

/-- **The cursor is kept.** For tokens that end with their only end of the text, every call that
reads an expression and is entered in the text comes to an end. Its outcome is that of the reader
with a rest of the budget and of the tokens, for the budget that the counter leaves and the tokens
from the index on. At no point on the way is the index behind the end of the text, so the next token
is always there and the end is never consumed. The counter is never below what it was at the entry,
and unless the call is refused for its depth, it never passes the limit, nor does the number of
parentheses, prefix operators and operators of chains that are open. If the call succeeds, the
counter is what it was, and at least one token is consumed. The same holds of the reading of all
tokens from the first one on, whose outcome is that of `ofTokens`. -/
theorem keeps_cursor (hends : Token.EndsOnce tokens) :
    (∀ (call : Call) (start : Point), start.index < tokens.length →
      (call.read ⟨tokens, start.opened⟩).Meets (.start start) fun outcome finish =>
        call.parse (maxDepth - start.depth) (tokens.drop start.index) =
            outcome.map (fun e => (e, tokens.drop finish.here.index)) ∧
          KeepsCursor tokens start outcome finish) ∧
    (Reading.readAll tokens).Meets (.start ⟨0, 0, []⟩) fun outcome finish =>
      outcome = ofTokens tokens ∧ KeepsCursor tokens ⟨0, 0, []⟩ outcome finish := by
  refine ⟨fun call start hindex => ?_, meets_readAll hends⟩
  exact (call.meets_promise hends start hindex).mono
    fun _ _ hpromise => ⟨hpromise.agrees, hpromise.keepsCursor hends⟩

/-- In `!(a && b)`, the conjunction is read behind the parenthesis with the counter at two. -/
theorem keeps_cursor_in_parens :
    let paren : Token := ⟨.leftParen, "(", 1⟩
    let bang : Token := ⟨.symbol .bang, "!", 0⟩
    let tokens : List Token := [bang, paren, ⟨.identifier "a", "a", 2⟩,
      ⟨.symbol (.op .and), "&&", 4⟩, ⟨.identifier "b", "b", 7⟩, ⟨.rightParen, ")", 8⟩,
      ⟨.endOfText, "", 9⟩]
    let start : Point := ⟨2, 2, [paren, bang]⟩
    Token.EndsOnce tokens ∧ start.index < tokens.length ∧
      ((Call.level .conjunction).read ⟨tokens, start.opened⟩).Meets (.start start)
        fun outcome finish => outcome = .ok (.binary .and (.path "a" []) (.path "b" [])) ∧
          finish.here.index = 5 ∧ finish.here.depth = 2 ∧
            KeepsCursor tokens start outcome finish := by
  intro paren bang tokens start
  have htokens : Token.tokenize "!(a && b)" = .ok tokens := by with_unfolding_all rfl
  have hends : Token.EndsOnce tokens := Token.endsOnce_of_tokenize htokens
  have hindex : start.index < tokens.length := by decide
  have hparse : (Call.level .conjunction).parse (maxDepth - start.depth) (tokens.drop start.index) =
      .ok (.binary .and (.path "a" []) (.path "b" []), tokens.drop 5) := by with_unfolding_all rfl
  refine ⟨hends, hindex, ((keeps_cursor hends).1 (.level .conjunction) start hindex).mono ?_⟩
  rintro outcome finish ⟨hagrees, hkeeps⟩
  rw [hparse] at hagrees
  cases outcome with
  | error e => cases hagrees
  | ok e =>
    obtain ⟨rfl, hrest⟩ := Prod.mk.inj (Except.ok.inj hagrees)
    have hlength := congrArg List.length hrest
    have hlt : finish.here.index < 7 := hkeeps.inText _ List.mem_cons_self
    rw [List.length_drop, List.length_drop] at hlength
    have hindex : finish.here.index = 5 := by
      simp only [tokens, List.length_cons, List.length_nil] at hlength
      omega
    exact ⟨rfl, hindex, (hkeeps.restored _ rfl).1, hkeeps⟩

end Expr

end AgentFlow
