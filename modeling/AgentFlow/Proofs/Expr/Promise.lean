import AgentFlow.Proofs.Expr.Cursor
import AgentFlow.Proofs.Expr.Reading

/-!
# What calls promise of the cursor

A call with a cursor is compared with the same call of the reader that passes the rest of the tokens
and of the budget on. `Ready` says which cursor stands for which rest and budget, and `Promise` what
the call makes of it: the same result, the counter back where it was, and on the way no point
outside of the text or beyond the limit.

Points are measured by the start of one outer call, which stays the same in all calls inside of it.
So what an inner call promises of its points is what the outer one has to promise of them, and
promises are put together as they are (`meets_bind_promise`). One lemma says of each thing that
calls do with the cursor that it stays ready.
-/

namespace AgentFlow

namespace Token

/-- The end of the text is the last token and no other. -/
def EndsOnce (tokens : List Token) : Prop :=
  ∃ body finish, tokens = body ++ [finish] ∧ finish.lexeme = .endOfText ∧
    ∀ token ∈ body, token.lexeme ≠ .endOfText

/-- The tokens of a text end with its end. -/
theorem endsOnce_of_tokenize {source : String} {tokens : List Token}
    (h : tokenize source = .ok tokens) : EndsOnce tokens :=
  eq_append_end_of_tokenize h

theorem isEnd_eq_false {token : Token} (h : token.lexeme ≠ .endOfText) : token.isEnd = false :=
  Bool.eq_false_iff.mpr fun hend => h (Expr.isEnd_iff.mp hend)

theorem isEnd_of_symbol? {token : Token} {symbol : Symbol} (h : token.symbol? = some symbol) :
    token.isEnd = false :=
  isEnd_eq_false (by rw [Expr.lexeme_of_symbol? h]; nofun)

namespace EndsOnce

variable {tokens : List Token} {index : Nat}

/-- The end of the text is always there. -/
theorem length_pos (h : EndsOnce tokens) : 0 < tokens.length := by
  obtain ⟨body, finish, rfl, -, -⟩ := h
  rw [List.length_append]
  exact Nat.succ_pos _

/-- In front of a point in the text there is no end of it. -/
theorem lexeme_ne_of_mem_take (h : EndsOnce tokens) (hlt : index < tokens.length) :
    ∀ token ∈ tokens.take index, token.lexeme ≠ .endOfText := by
  obtain ⟨body, finish, rfl, -, hbody⟩ := h
  rw [List.length_append, List.length_singleton] at hlt
  rw [List.take_append_of_le_length (Nat.le_of_lt_succ hlt)]
  exact fun token htoken => hbody token (List.mem_of_mem_take htoken)

/-- Behind a token that is not the end of the text there is one more. -/
theorem succ_lt_length (h : EndsOnce tokens) (hlt : index < tokens.length)
    (hne : (Expr.peek (tokens.drop index)).isEnd = false) : index + 1 < tokens.length := by
  obtain ⟨body, finish, rfl, hfinish, -⟩ := h
  rw [List.length_append, List.length_singleton] at hlt ⊢
  rcases Nat.lt_succ_iff_lt_or_eq.mp hlt with hlt | rfl
  · exact Nat.succ_lt_succ hlt
  · rw [List.drop_left, Expr.peek, List.headD_cons, Expr.isEnd_iff.mpr hfinish] at hne
    cases hne

end EndsOnce

end Token

namespace Expr

variable {tokens : List Token}

/-- In the text, the token at a point is the one with its index. -/
theorem getElem?_eq_peekAt {index : Nat} (h : index < tokens.length) :
    tokens[index]? = some (peekAt tokens index) := by
  rw [peekAt, Nat.min_eq_left (Nat.le_sub_one_of_lt h), List.getD_eq_getElem?_getD,
    List.getElem?_eq_getElem h, Option.getD_some]

/-- In the text, the token at a point is the first of those from there on. -/
theorem peekAt_eq_peek {index : Nat} (h : index < tokens.length) :
    peekAt tokens index = peek (tokens.drop index) := by
  have hpeek : some (peekAt tokens index) = some tokens[index] := by
    rw [← getElem?_eq_peekAt h, List.getElem?_eq_getElem h]
  rw [Option.some.inj hpeek, peek, List.drop_eq_getElem_cons h, List.headD_cons]

/-! ## Points of a call -/

/-- A point of a call that was entered at `start`: it is in the text, and the counter is no lower
than at the entry and counts what has been opened since. While parentheses are about to be closed it
counts one less. -/
structure Point.Sound (tokens : List Token) (p start : Point) : Prop where
  index_lt : p.index < tokens.length
  start_le : start.depth ≤ p.depth
  depth_le : p.depth + start.opened.length ≤ p.opened.length + start.depth
  opened_le : p.opened.length + start.depth ≤ p.depth + start.opened.length + 1

/-- A point of a call that was entered at `start`: neither the counter nor what has been opened
since is beyond the limit. -/
structure Point.Shallow (p start : Point) : Prop where
  depth_le : p.depth ≤ max maxDepth start.depth
  opened_le : p.opened.length + start.depth ≤ start.opened.length + max maxDepth start.depth

/-- All points so far are sound and shallow. -/
def Cursor.Sound (tokens : List Token) (start : Point) (s : Cursor) : Prop :=
  ∀ p ∈ s.points, p.Sound tokens start ∧ p.Shallow start

namespace Cursor.Sound

variable {start : Point} {s : Cursor}

/-- The cursor stands at a sound point. -/
theorem here (h : s.Sound tokens start) : s.here.Sound tokens start :=
  (h s.here List.mem_cons_self).1

/-- Where the cursor stands, the counter is within the limit. -/
theorem depth_le (h : s.Sound tokens start) : s.here.depth ≤ max maxDepth start.depth :=
  (h s.here List.mem_cons_self).2.depth_le

/-- A move to a sound and shallow point. -/
theorem moveTo (h : s.Sound tokens start) {p : Point} (hp : p.Sound tokens start)
    (hshallow : p.Shallow start) : (s.moveTo p).Sound tokens start :=
  List.forall_mem_cons.mpr ⟨⟨hp, hshallow⟩, h⟩

/-- A move to a point where the counter counts all that has been opened. -/
theorem moveTo_counted (h : s.Sound tokens start) (p : Point) (hindex : p.index < tokens.length)
    (hstart : start.depth ≤ p.depth) (hdepth : p.depth ≤ max maxDepth start.depth)
    (hcounted : p.opened.length + start.depth = p.depth + start.opened.length) :
    (s.moveTo p).Sound tokens start :=
  h.moveTo ⟨hindex, hstart, by omega, by omega⟩ ⟨hdepth, by omega⟩

/-- The point of the entry is sound. -/
theorem of_start (hindex : start.index < tokens.length) :
    (Cursor.start start).Sound tokens start := by
  refine List.forall_mem_cons.mpr ⟨⟨⟨hindex, Nat.le_refl _, ?_, ?_⟩, ?_, ?_⟩, nofun⟩
  · exact Nat.le_of_eq (Nat.add_comm ..)
  · exact Nat.le_succ_of_le (Nat.le_of_eq (Nat.add_comm ..))
  · exact Nat.le_max_right ..
  · exact Nat.add_le_add_left (Nat.le_max_right ..) _

end Cursor.Sound

namespace Reading

variable {α β : Type} {start : Point} {stop reach : Nat} {s finish : Cursor}

/-! ## What calls promise -/

/-- What a call promises that was entered at `start`: it comes to the given result, and if that is
no refusal, the counter is `stop` and the index at least `reach`. All points are sound, and shallow
unless the call is refused for its depth. -/
structure Promise (tokens : List Token) (start : Point) (stop reach : Nat)
    (result : Except ExprError (α × Rest)) (outcome : Except ExprError α) (finish : Cursor) :
    Prop where
  agrees : result = outcome.map fun a => (a, tokens.drop finish.here.index)
  sound : ∀ p ∈ finish.points, p.Sound tokens start
  shallow : (∃ position, outcome = .error (.tooDeep position)) ∨
    ∀ p ∈ finish.points, p.Shallow start
  restored : ∀ a, outcome = .ok a → finish.here.depth = stop ∧ reach ≤ finish.here.index

namespace Promise

/-- A call that comes to a value. -/
theorem of_ok {a : α} {rest : Rest} (hsound : finish.Sound tokens start)
    (hstop : finish.here.depth = stop) (hreach : reach ≤ finish.here.index)
    (hrest : tokens.drop finish.here.index = rest) :
    Promise tokens start stop reach (.ok (a, rest)) (.ok a) finish where
  agrees := by rw [← hrest]; rfl
  sound p hp := (hsound p hp).1
  shallow := .inr fun p hp => (hsound p hp).2
  restored _ _ := ⟨hstop, hreach⟩

/-- A call that is refused promises nothing but to have stayed sound. -/
theorem of_error {e : ExprError} (hsound : finish.Sound tokens start) :
    Promise tokens start stop reach (.error e : Except ExprError (α × Rest)) (.error e) finish where
  agrees := rfl
  sound p hp := (hsound p hp).1
  shallow := .inr fun p hp => (hsound p hp).2
  restored := nofun

/-- After a call that came to a value, the cursor is sound. -/
theorem sound_of_ok {result : Except ExprError (α × Rest)} {a : α}
    (h : Promise tokens start stop reach result (.ok a) finish) : finish.Sound tokens start := by
  rcases h.shallow with ⟨_, ⟨⟩⟩ | hshallow
  exact fun p hp => ⟨h.sound p hp, hshallow p hp⟩

/-- Less is promised of the index. -/
theorem mono {result : Except ExprError (α × Rest)} {outcome : Except ExprError α}
    (h : Promise tokens start stop reach result outcome finish) {less : Nat} (hle : less ≤ reach) :
    Promise tokens start stop less result outcome finish where
  agrees := h.agrees
  sound := h.sound
  shallow := h.shallow
  restored a ha := ⟨(h.restored a ha).1, Nat.le_trans hle (h.restored a ha).2⟩

end Promise

/-- A call followed by another computation, beside the same two of the reader without a cursor. -/
theorem meets_bind_promise {x : Reading α} {f : α → Reading β}
    {result : Except ExprError (α × Rest)} {g : α × Rest → Except ExprError (β × Rest)}
    {stop' reach' : Nat} (hx : Meets x s (Promise tokens start stop' reach' result))
    (hf : ∀ a mid, mid.Sound tokens start → mid.here.depth = stop' → reach' ≤ mid.here.index →
      Meets (f a) mid (Promise tokens start stop reach (g (a, tokens.drop mid.here.index)))) :
    Meets (x >>= f) s (Promise tokens start stop reach (result >>= g)) := by
  refine meets_bind (hx.mono fun outcome mid h => ?_)
  cases outcome with
  | error e =>
    obtain rfl : result = .error e := h.agrees
    refine ⟨rfl, h.sound, ?_, nofun⟩
    rcases h.shallow with ⟨position, ⟨⟩⟩ | hshallow
    · exact .inl ⟨position, rfl⟩
    · exact .inr hshallow
  | ok a =>
    obtain rfl : result = .ok (a, tokens.drop mid.here.index) := h.agrees
    obtain ⟨hstop, hreach⟩ := h.restored a rfl
    exact hf a mid h.sound_of_ok hstop hreach

/-- What is made of the value of a call changes nothing of its promise. -/
theorem meets_map_promise {x : Reading α} {f : α → β} {result : Except ExprError (α × Rest)}
    (hx : Meets x s (Promise tokens start stop reach result)) :
    Meets (x >>= fun a => pure (f a)) s
      (Promise tokens start stop reach (result.map fun (a, rest) => (f a, rest))) := by
  have hmap : (result.map fun (a, rest) => (f a, rest)) =
      result >>= fun (a, rest) => .ok (f a, rest) := by
    cases result <;> rfl
  rw [hmap]
  exact meets_bind_promise hx fun a mid hsound hdepth hreach =>
    meets_pure.mpr (.of_ok hsound hdepth hreach rfl)

/-! ## Cursors at which calls are entered -/

/-- The cursor stands for a rest of the tokens and a rest of the budget, and the counter counts what
has been opened, as it does wherever a call is entered. -/
structure Ready (tokens : List Token) (start : Point) (budget : Nat) (opened : List Token)
    (ts : Rest) (s : Cursor) : Prop where
  sound : s.Sound tokens start
  rest : tokens.drop s.here.index = ts
  left : maxDepth - s.here.depth = budget
  counted : opened.length + start.depth = s.here.depth + start.opened.length

variable {budget : Nat} {opened : List Token} {ts : Rest}

namespace Ready

/-- Where the cursor is ready, the next token is the first of what is left. -/
theorem peekAt_eq (h : Ready tokens start budget opened ts s) :
    peekAt tokens s.here.index = peek ts := by
  rw [peekAt_eq_peek h.sound.here.index_lt, h.rest]

/-- Looking at the next token. -/
theorem meets_next_bind (h : Ready tokens start budget opened ts s) {f : Token → Reading α}
    {post : Except ExprError α → Cursor → Prop} :
    Meets (next tokens >>= f) s post ↔ Meets (f (peek ts)) s post := by
  rw [Reading.meets_next_bind, h.peekAt_eq]

/-- Taking the next token, if it is not the end of the text. -/
theorem meets_advance_bind (h : Ready tokens start budget opened ts s)
    (hend : (peek ts).isEnd = false) {f : Token → Reading α}
    {post : Except ExprError α → Cursor → Prop} :
    Meets (advance tokens opened >>= f) s post ↔
      Meets (f (peek ts)) (s.moveTo ⟨s.here.index + 1, s.here.depth, opened⟩) post := by
  rw [Reading.meets_advance_bind (by rw [h.peekAt_eq, hend]), h.peekAt_eq]

/-- If no more than one token is left, it is the end of the text. -/
theorem isEnd_of_length_le_one (hends : Token.EndsOnce tokens)
    (h : Ready tokens start budget opened ts s) (hlength : ts.length ≤ 1) :
    (peek ts).isEnd = true := by
  cases hend : (peek ts).isEnd with
  | true => rfl
  | false =>
    have hlt := hends.succ_lt_length h.sound.here.index_lt (by rw [h.rest, hend])
    rw [← h.rest, List.length_drop] at hlength
    omega

/-- A token is consumed. -/
theorem skip (hends : Token.EndsOnce tokens) (h : Ready tokens start budget opened ts s)
    (hend : (peek ts).isEnd = false) : Ready tokens start budget opened ts.tail
      (s.moveTo ⟨s.here.index + 1, s.here.depth, opened⟩) where
  sound := h.sound.moveTo_counted _
    (hends.succ_lt_length h.sound.here.index_lt (by rw [h.rest, hend])) h.sound.here.start_le
    h.sound.depth_le h.counted
  rest := by
    rw [← h.rest, List.tail_drop]
    rfl
  left := h.left
  counted := h.counted

/-- The point behind the count of one more, even if that is beyond the limit. -/
theorem sound_descend (h : Ready tokens start budget opened ts s) (token : Token) :
    Point.Sound tokens ⟨s.here.index, s.here.depth + 1, token :: opened⟩ start := by
  have hhere := h.sound.here
  have hcounted := h.counted
  refine ⟨hhere.index_lt, Nat.le_succ_of_le hhere.start_le, ?_, ?_⟩
  · simp only [List.length_cons]
    omega
  · simp only [List.length_cons]
    omega

/-- One more is open and counted. -/
theorem descend (h : Ready tokens start (budget + 1) opened ts s) (token : Token) :
    Ready tokens start budget (token :: opened) ts
      (s.moveTo ⟨s.here.index, s.here.depth + 1, token :: opened⟩) := by
  have hleft := h.left
  have hcounted := h.counted
  refine ⟨h.sound.moveTo (h.sound_descend token) ⟨?_, ?_⟩, h.rest, ?_, ?_⟩
  · have hroom : s.here.depth + 1 ≤ maxDepth := by omega
    exact Nat.le_trans hroom (Nat.le_max_left _ _)
  · simp only [List.length_cons]
    omega
  · show maxDepth - (s.here.depth + 1) = budget
    omega
  · show (token :: opened).length + start.depth = s.here.depth + 1 + start.opened.length
    simp only [List.length_cons]
    omega

/-- Behind a call, which has put the counter back. -/
theorem again (h : Ready tokens start budget opened ts s) (hsound : finish.Sound tokens start)
    (hdepth : finish.here.depth = s.here.depth) :
    Ready tokens start budget opened (tokens.drop finish.here.index) finish where
  sound := hsound
  rest := rfl
  left := by rw [hdepth, h.left]
  counted := by rw [hdepth, h.counted]

end Ready

/-- Going down without budget is refused, and the call promises that. -/
theorem meets_descend_zero (h : Ready tokens start 0 opened ts s) {token : Token} {position : Nat}
    {f : Unit → Reading α} :
    Meets (descend (token :: opened) position >>= f) s
      (Promise tokens start stop reach (.error (.tooDeep position))) := by
  have hleft := h.left
  refine (meets_descend_bind_of_le (by omega)).mpr ⟨rfl, ?_, .inl ⟨position, rfl⟩, nofun⟩
  exact List.forall_mem_cons.mpr ⟨h.sound_descend token, fun p hp => (h.sound p hp).1⟩

/-- Going down with budget left. -/
theorem meets_descend_succ (h : Ready tokens start (budget + 1) opened ts s) {token : Token}
    {position : Nat} {f : Unit → Reading α} {post : Except ExprError α → Cursor → Prop} :
    Meets (descend (token :: opened) position >>= f) s post ↔
      Meets (f ()) (s.moveTo ⟨s.here.index, s.here.depth + 1, token :: opened⟩) post := by
  have hleft := h.left
  exact meets_descend_bind (by omega)

/-- Behind the token in front, whatever it is; it is consumed unless it is the end of the text. -/
theorem exists_meets_advance (hends : Token.EndsOnce tokens)
    (h : Ready tokens start budget opened ts s) :
    ∃ mid, mid.Sound tokens start ∧ mid.here.depth = s.here.depth ∧
      s.here.index ≤ mid.here.index ∧
      ((peek ts).isEnd = false → Ready tokens start budget opened ts.tail mid) ∧
      ∀ (f : Token → Reading α) post, Meets (f (peek ts)) mid post →
        Meets (advance tokens opened >>= f) s post := by
  cases hend : (peek ts).isEnd with
  | true =>
    refine ⟨s, h.sound, rfl, Nat.le_refl _, nofun, fun f post hf => ?_⟩
    rw [meets_advance_bind_of_isEnd (by rw [h.peekAt_eq, hend]), h.peekAt_eq]
    exact hf
  | false =>
    have hskip := h.skip hends hend
    refine ⟨_, hskip.sound, rfl, Nat.le_succ _, fun _ => hskip, fun f post hf => ?_⟩
    exact (h.meets_advance_bind hend).mpr hf

end Reading

end Expr

end AgentFlow
