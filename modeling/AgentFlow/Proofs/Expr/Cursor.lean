import AgentFlow.Expr.Parser

/-!
# Reading with a cursor

The reader of expressions passes what is left of the tokens and of the budget on by value, and a
call gives back what it does not use. Here is the same reading with one cursor that all calls share:
an index into the tokens, and a counter of the nesting, which every call finds as the call around it
has left it and has to put back. Nothing in these definitions sees to that, nor to the end of the
reading: a reading may be refused, and as far as its definition goes it may run on forever.

A reading leaves a trail. The cursor is moved by `moveTo` only, which keeps the point that it
leaves, so a property of all points of the trail is one of the cursor at any moment. A point also
notes which parentheses, prefix operators and operators of chains are open there; that comes from
the calls in progress (`Scope`) and does not go through the cursor.

Proofs take a reading apart by what its run comes to (`Meets`), one lemma for each thing that
readings do.
-/

namespace AgentFlow.Expr

/-- A moment of a reading. -/
structure Point where
  /-- How many tokens are consumed; the next one is at this index. -/
  index : Nat
  /-- The counter of the nesting. -/
  depth : Nat
  /-- The tokens that opened what is open: parentheses, prefix operators and operators of chains,
  innermost first. -/
  opened : List Token

/-- Where a reading stands, and the points it has passed, latest first. -/
structure Cursor where
  here : Point
  passed : List Point

namespace Cursor

/-- The cursor of a reading that starts at a point. -/
def start (point : Point) : Cursor :=
  ⟨point, []⟩

/-- All points of a reading so far. -/
def points (s : Cursor) : List Point :=
  s.here :: s.passed

/-- The cursor behind a move. -/
def moveTo (s : Cursor) (point : Point) : Cursor :=
  ⟨point, s.points⟩

end Cursor

/-- What a call is given: the tokens, and those of them that opened what is open around it. -/
structure Scope where
  tokens : List Token
  opened : List Token

/-- The scope of what a token opens. -/
def Scope.enter (scope : Scope) (token : Token) : Scope :=
  ⟨scope.tokens, token :: scope.opened⟩

/-- A computation on the cursor that may be refused, and that may have no end. -/
abbrev Reading (α : Type) := ExceptT ExprError (StateT Cursor Option) α

/-- The token at an index, and the last one behind all of them. -/
def peekAt (tokens : List Token) (index : Nat) : Token :=
  tokens.getD (min index (tokens.length - 1)) ⟨.endOfText, "", 0⟩

namespace Reading

variable (tokens : List Token)

/-- Moves the cursor. -/
def moveTo (point : Point) : Reading Unit :=
  modify fun s => s.moveTo point

/-- The next token. -/
def next : Reading Token := do
  return peekAt tokens (← get).here.index

/-- Consumes a token. -/
def skip (opened : List Token) : Reading Unit := do
  let here := (← get).here
  moveTo ⟨here.index + 1, here.depth, opened⟩

/-- Consumes the next token, unless it is the end of the text. -/
def advance (opened : List Token) : Reading Token := do
  let token ← next tokens
  unless token.isEnd do skip opened
  return token

/-- Counts what has been opened last. -/
def descend (opened : List Token) (position : Nat) : Reading Unit := do
  let here := (← get).here
  moveTo ⟨here.index, here.depth + 1, opened⟩
  if maxDepth < here.depth + 1 then throw (.tooDeep position)

/-- Sets the counter. -/
def setDepth (opened : List Token) (depth : Nat) : Reading Unit := do
  moveTo ⟨(← get).here.index, depth, opened⟩

/-- The property that a token names behind a dot. -/
def propertyOf (dot name : Token) : Reading String :=
  match propertyName? name with
  | none => throw (.expectedProperty dot.position)
  | some property =>
    if isDenied property then throw (.blockedProperty property) else return property

/-- Leaves parentheses behind what is in them. -/
def leaveParens (opened : List Token) (paren : Token) (inner : Expr) : Reading Expr := do
  setDepth (paren :: opened) ((← get).here.depth - 1)
  let close ← next tokens
  match close.lexeme with
  | .rightParen =>
    skip opened
    return inner
  | _ => throw (.unmatchedParen close.position)

end Reading

namespace Scope

open Reading

/-- Reads the properties behind the root of a path. -/
def readProperties (scope : Scope) : Reading (List String) := do
  let dot ← next scope.tokens
  if dot.symbol? = some .dot then
    let _ ← advance scope.tokens scope.opened
    let name ← advance scope.tokens scope.opened
    let property ← propertyOf dot name
    return property :: (← scope |>.readProperties)
  else return []
partial_fixpoint

mutual

/-- Reads operands of a level joined by its operators; on no level, a single operand with its prefix
operators. -/
def readLevel (scope : Scope) (level : Option Level) : Reading Expr :=
  match level with
  | none => scope |>.readUnary
  | some level => do
    let base := (← get).here.depth
    let left ← scope |>.readLevel level.operand?
    scope |>.readChain scope.opened base level left
partial_fixpoint

/-- Goes on with a chain of operators behind its operand `left`. `around` is open around the chain
and `base` is the counter there; in the scope, the operators of the chain so far are open too. -/
def readChain (scope : Scope) (around : List Token) (base : Nat) (level : Level) (left : Expr) :
    Reading Expr := do
  let token ← next scope.tokens
  match levelOp? level [token] with
  | none =>
    setDepth around base
    return left
  | some op =>
    skip scope.opened
    descend (token :: scope.opened) token.position
    let right ← scope.enter token |>.readLevel level.operand?
    scope.enter token |>.readChain around base level (.binary op left right)
partial_fixpoint

/-- Reads prefix operators and their operand. -/
def readUnary (scope : Scope) : Reading Expr := do
  let token ← next scope.tokens
  match prefixOp? [token] with
  | none => scope |>.readPrimary
  | some op =>
    let token ← advance scope.tokens scope.opened
    descend (token :: scope.opened) token.position
    let operand ← scope.enter token |>.readUnary
    setDepth scope.opened ((← get).here.depth - 1)
    return .unary op operand
partial_fixpoint

/-- Reads a literal, a path, or an expression in parentheses. -/
def readPrimary (scope : Scope) : Reading Expr := do
  let token ← advance scope.tokens scope.opened
  match token.lexeme with
  | .number x => return .literal (.number x)
  | .string s => return .literal (.string s)
  | .boolean b => return .literal (.bool b)
  | .null => return .literal .null
  | .undefined => return .literal .undefined
  | .identifier root => return .path root (← scope |>.readProperties)
  | .leftParen =>
    descend (token :: scope.opened) token.position
    let inner ← scope.enter token |>.readLevel (some .disjunction)
    leaveParens scope.tokens scope.opened token inner
  | _ => throw (unexpected token)
partial_fixpoint

end

end Scope

namespace Reading

/-- Reads an expression; nothing may be left. -/
def readAll (tokens : List Token) : Reading Expr := do
  let e ← Scope.readLevel ⟨tokens, []⟩ (some .disjunction)
  let rest ← next tokens
  if rest.isEnd then return e else throw (unexpected rest)

/-! ## What a run comes to -/

variable {tokens : List Token} {α β : Type}

/-- The run of a reading from a cursor ends, with an outcome and a cursor as promised. -/
def Meets (x : Reading α) (s : Cursor) (post : Except ExprError α → Cursor → Prop) : Prop :=
  ∃ outcome finish, x.run.run s = some (outcome, finish) ∧ post outcome finish

variable {s : Cursor} {post : Except ExprError α → Cursor → Prop} {opened : List Token}

/-- Ending with a value leaves the cursor where it is. -/
theorem meets_pure {a : α} : Meets (pure a) s post ↔ post (.ok a) s := by
  constructor
  · rintro ⟨_, _, ⟨⟩, h⟩
    exact h
  · intro h
    exact ⟨_, _, rfl, h⟩

/-- Ending with an error leaves the cursor where it is. -/
theorem meets_throw {e : ExprError} : Meets (throw e : Reading α) s post ↔ post (.error e) s := by
  constructor
  · rintro ⟨_, _, ⟨⟩, h⟩
    exact h
  · intro h
    exact ⟨_, _, rfl, h⟩

/-- The rule for sequences: what goes on starts where the first part has ended, unless that has
failed. -/
theorem meets_bind {x : Reading α} {f : α → Reading β} {post : Except ExprError β → Cursor → Prop}
    (h : Meets x s fun outcome finish => match outcome with
      | .ok a => Meets (f a) finish post
      | .error e => post (.error e) finish) : Meets (x >>= f) s post := by
  obtain ⟨outcome, finish, hx, h⟩ := h
  have hrun : (x >>= f).run.run s = (x.run.run s).bind fun (outcome, finish) =>
      match outcome with
      | .ok a => (f a).run.run finish
      | .error e => some (.error e, finish) := by
    change (x.run.run s).bind _ = _
    congr 1
    funext ⟨outcome, finish⟩
    cases outcome <;> rfl
  cases outcome with
  | error e => exact ⟨_, _, by rw [hrun, hx]; rfl, h⟩
  | ok a =>
    obtain ⟨outcome, finish', hf, hpost⟩ := h
    exact ⟨_, _, by rw [hrun, hx]; exact hf, hpost⟩

/-- The rule of consequence. -/
theorem Meets.mono {x : Reading α} {post' : Except ExprError α → Cursor → Prop}
    (h : Meets x s post) (himp : ∀ outcome finish, post outcome finish → post' outcome finish) :
    Meets x s post' := by
  obtain ⟨outcome, finish, hrun, hpost⟩ := h
  exact ⟨outcome, finish, hrun, himp outcome finish hpost⟩

theorem meets_get_bind {f : Cursor → Reading α} :
    Meets (get >>= f) s post ↔ Meets (f s) s post :=
  Iff.rfl

/-- Looking at the next token moves nothing. -/
theorem meets_next_bind {f : Token → Reading α} :
    Meets (next tokens >>= f) s post ↔ Meets (f (peekAt tokens s.here.index)) s post :=
  Iff.rfl

/-- Skipping a token moves one on, and keeps the depth. -/
theorem meets_skip_bind {f : Unit → Reading α} :
    Meets (skip opened >>= f) s post ↔
      Meets (f ()) (s.moveTo ⟨s.here.index + 1, s.here.depth, opened⟩) post :=
  Iff.rfl

/-- Setting the depth keeps the place. -/
theorem meets_setDepth_bind {depth : Nat} {f : Unit → Reading α} :
    Meets (setDepth opened depth >>= f) s post ↔
      Meets (f ()) (s.moveTo ⟨s.here.index, depth, opened⟩) post :=
  Iff.rfl

/-- Taking a token moves one on. -/
theorem meets_advance_bind {f : Token → Reading α}
    (h : (peekAt tokens s.here.index).isEnd = false) :
    Meets (advance tokens opened >>= f) s post ↔
      Meets (f (peekAt tokens s.here.index))
        (s.moveTo ⟨s.here.index + 1, s.here.depth, opened⟩) post := by
  unfold advance
  rw [bind_assoc, meets_next_bind, h]
  rfl

/-- The end of the text is taken without moving on, since nothing is behind it. -/
theorem meets_advance_bind_of_isEnd {f : Token → Reading α}
    (h : (peekAt tokens s.here.index).isEnd = true) :
    Meets (advance tokens opened >>= f) s post ↔ Meets (f (peekAt tokens s.here.index)) s post := by
  unfold advance
  rw [bind_assoc, meets_next_bind, h]
  rfl

/-- Below the limit, going down counts one level more. -/
theorem meets_descend_bind {position : Nat} {f : Unit → Reading α} (h : s.here.depth < maxDepth) :
    Meets (descend opened position >>= f) s post ↔
      Meets (f ()) (s.moveTo ⟨s.here.index, s.here.depth + 1, opened⟩) post := by
  unfold descend
  rw [bind_assoc, meets_get_bind]
  dsimp only
  rw [if_neg (Nat.not_lt.mpr h)]
  rfl

/-- At the limit, going down fails, with the level counted all the same. -/
theorem meets_descend_bind_of_le {position : Nat} {f : Unit → Reading α}
    (h : maxDepth ≤ s.here.depth) :
    Meets (descend opened position >>= f) s post ↔
      post (.error (.tooDeep position))
        (s.moveTo ⟨s.here.index, s.here.depth + 1, opened⟩) := by
  unfold descend
  rw [bind_assoc, meets_get_bind]
  dsimp only
  rw [if_pos (Nat.lt_succ_of_le h)]
  exact meets_throw (s := s.moveTo _)

end Reading

end AgentFlow.Expr
