import AgentFlow.Proofs.Expr.Tokens

/-!
# Reading is deriving

The reader of expressions accepts the texts of the grammar, and of each it builds the tree that the
grammar gives it. **Soundness**: what is read is a phrase, and no position of it is charged more
than the budget. **Completeness**: a phrase whose positions are charged no more than the budget is
read, whatever follows it, as long as what follows does not go on with it.

Both directions meet the loop of a chain at the same place. Soundness carries the phrase that has
been read so far, so that the operators of it and the budget that is left add up to the budget of
the chain. Completeness says of a phrase that reading it comes to the loop with its tree on the
left and the budget of its operators spent (`resume`); only then is it asked what follows.
-/

namespace AgentFlow.Expr

/-! ## What is consumed -/

/-- The tokens of `ts` in front of `rest` have these lexemes. -/
def Consumes (ts rest : Rest) (lexemes : List Lexeme) : Prop :=
  ∃ used, ts = used ++ rest ∧ used.map Token.lexeme = lexemes

theorem Consumes.nil (ts : Rest) : Consumes ts ts [] :=
  ⟨[], rfl, rfl⟩

theorem Consumes.append {ts mid rest : Rest} {front back : List Lexeme}
    (h : Consumes ts mid front) (h' : Consumes mid rest back) :
    Consumes ts rest (front ++ back) := by
  obtain ⟨used, rfl, rfl⟩ := h
  obtain ⟨used', rfl, rfl⟩ := h'
  exact ⟨used ++ used', (List.append_assoc ..).symm, List.map_append⟩

/-- The token in front is one that can be consumed, unless it is the end of the text. -/
theorem Consumes.tail {ts : Rest} {lexeme : Lexeme} (h : (peek ts).lexeme = lexeme)
    (hne : lexeme ≠ .endOfText) : Consumes ts ts.tail [lexeme] := by
  cases ts with
  | nil => exact absurd h.symm hne
  | cons t ts => exact ⟨[t], rfl, congrArg (fun l => [l]) h⟩

/-- What is left of spelled tokens is spelled. -/
theorem Consumes.spelled {ts rest : Rest} {lexemes : List Lexeme} (h : Consumes ts rest lexemes)
    (hts : ∀ t ∈ ts, t.Spelled) : ∀ t ∈ rest, t.Spelled := by
  obtain ⟨used, rfl, _⟩ := h
  exact fun t ht => hts t (List.mem_append_right _ ht)

theorem Consumes.eq_of_nil {ts rest : Rest} (h : Consumes ts rest []) : ts = rest := by
  obtain ⟨used, rfl, hused⟩ := h
  rw [List.map_eq_nil_iff.mp hused, List.nil_append]

/-- What is consumed first stands in front. -/
theorem Consumes.of_cons {ts rest : Rest} {lexeme : Lexeme} {lexemes : List Lexeme}
    (h : Consumes ts rest (lexeme :: lexemes)) :
    ∃ t more, ts = t :: more ∧ (peek (t :: more)).lexeme = lexeme ∧ Consumes more rest lexemes := by
  obtain ⟨used, rfl, hused⟩ := h
  obtain ⟨t, used, rfl, ht, hused⟩ := List.map_eq_cons_iff.mp hused
  exact ⟨t, used ++ rest, rfl, ht, used, rfl, hused⟩

/-- What is consumed in two parts. -/
theorem Consumes.of_append {ts rest : Rest} {front back : List Lexeme}
    (h : Consumes ts rest (front ++ back)) :
    ∃ mid, Consumes ts mid front ∧ Consumes mid rest back := by
  obtain ⟨used, rfl, hused⟩ := h
  obtain ⟨first, second, rfl, hfirst, hsecond⟩ := List.map_eq_append_iff.mp hused
  exact ⟨second ++ rest, ⟨first, List.append_assoc .., hfirst⟩, second, rfl, hsecond⟩

/-! ## Tokens in front, as the reader sees them -/

theorem lexeme_of_symbol? {token : Token} {symbol : Symbol} (h : token.symbol? = some symbol) :
    token.lexeme = .symbol symbol := by
  unfold Token.symbol? at h
  split at h
  next s hs => rw [hs, Option.some.inj h]
  next => cases h

/-- An operator that is found on a level stands on it. -/
theorem levelOp?_eq_some {level : Level} {ts : Rest} {op : BinaryOp}
    (h : levelOp? level ts = some op) :
    (peek ts).lexeme = .symbol (.op op) ∧ levelOf op = level := by
  unfold levelOp? at h
  split at h
  next op' hop =>
    split at h
    next hlevel =>
      cases h
      exact ⟨lexeme_of_symbol? hop, hlevel⟩
    next => cases h
  next => cases h

/-- A prefix operator that is found is written as its sign. -/
theorem prefixOp?_eq_some {ts : Rest} {op : UnaryOp} (h : prefixOp? ts = some op) :
    (peek ts).lexeme = signLexeme op := by
  unfold prefixOp? at h
  split at h
  next hop =>
    cases h
    exact lexeme_of_symbol? hop
  next hop =>
    cases h
    exact lexeme_of_symbol? hop
  next => cases h

theorem levelOp?_eq_none {level : Level} {ts : Rest}
    (h : ∀ op, (peek ts).lexeme = .symbol (.op op) → levelOf op ≠ level) :
    levelOp? level ts = none := by
  cases hop : levelOp? level ts with
  | none => rfl
  | some op =>
    obtain ⟨hlexeme, hlevel⟩ := levelOp?_eq_some hop
    exact absurd hlevel (h op hlexeme)

/-- An operator is found on its level. -/
theorem levelOp?_of_lexeme {ts : Rest} {op : BinaryOp} (h : (peek ts).lexeme = .symbol (.op op)) :
    levelOp? (levelOf op) ts = some op := by
  simp only [levelOp?, Token.symbol?, h, if_true]

/-- A prefix operator is found by its sign. -/
theorem prefixOp?_of_lexeme {ts : Rest} {op : UnaryOp} (h : (peek ts).lexeme = signLexeme op) :
    prefixOp? ts = some op := by
  cases op <;> simp only [prefixOp?, Token.symbol?, h, signLexeme]

theorem prefixOp?_eq_none {ts : Rest} (h : ∀ op, (peek ts).lexeme ≠ signLexeme op) :
    prefixOp? ts = none := by
  cases hop : prefixOp? ts with
  | none => rfl
  | some op => exact absurd (prefixOp?_eq_some hop) (h op)

/-- A word names a property by its text. -/
theorem propertyName?_of_lexeme {token : Token} (hspelled : token.Spelled) {word : Word}
    (h : token.lexeme = word.lexeme) : propertyName? token = some word.text := by
  rw [← (hspelled word h).1]
  cases word <;> simp only [propertyName?, h, Word.lexeme]

/-- Only words name properties. -/
theorem propertyName?_eq_some {token : Token} {name : String} (hspelled : token.Spelled)
    (h : propertyName? token = some name) :
    ∃ word : Word, token.lexeme = word.lexeme ∧ name = word.text := by
  unfold propertyName? at h
  split at h
  next s hs =>
    cases h
    exact ⟨.identifier s, hs, (hspelled (.identifier s) hs).1⟩
  next b hb =>
    cases h
    exact ⟨.boolean b, hb, (hspelled (.boolean b) hb).1⟩
  next hnull =>
    cases h
    exact ⟨.null, hnull, (hspelled .null hnull).1⟩
  next hundefined =>
    cases h
    exact ⟨.undefined, hundefined, (hspelled .undefined hundefined).1⟩
  next => cases h

/-! ## Primaries, by the token in front -/

/-- A literal is its value. -/
theorem parsePrimary_literal (budget : Nat) {ts : Rest} (l : Literal)
    (h : (peek ts).lexeme = l.lexeme) :
    parsePrimary budget ts = .ok (.literal l.value, ts.tail) := by
  rw [parsePrimary.eq_def, h]
  cases l <;> rfl

/-- Behind an identifier, properties are read. -/
theorem parsePrimary_identifier (budget : Nat) {ts : Rest} {root : String}
    (h : (peek ts).lexeme = .identifier root) :
    parsePrimary budget ts =
      (parseProperties ts.tail).map fun (properties, ts) => (.path root properties, ts) := by
  rw [parsePrimary.eq_def, h]

/-- Parentheses without budget are refused. -/
theorem parsePrimary_leftParen_zero {ts : Rest} (h : (peek ts).lexeme = .leftParen) :
    parsePrimary 0 ts = .error (.tooDeep (peek ts).position) := by
  rw [parsePrimary.eq_def, h]

theorem parsePrimary_leftParen (budget : Nat) {ts : Rest} (h : (peek ts).lexeme = .leftParen) :
    parsePrimary (budget + 1) ts =
      parseLevel budget (some .disjunction) ts.tail >>= fun (inner, ts) =>
        match (peek ts).lexeme with
        | .rightParen => .ok (inner, ts.tail)
        | _ => .error (.unmatchedParen (peek ts).position) := by
  have hdef := parsePrimary.eq_def (budget + 1) ts
  rw [h] at hdef
  exact hdef

/-- Parentheses that are closed are what is in them. -/
theorem parsePrimary_parens (budget : Nat) {ts mid : Rest} {inner : Expr}
    (hopen : (peek ts).lexeme = .leftParen)
    (hinner : parseLevel budget (some .disjunction) ts.tail = .ok (inner, mid))
    (hclose : (peek mid).lexeme = .rightParen) :
    parsePrimary (budget + 1) ts = .ok (inner, mid.tail) := by
  rw [parsePrimary_leftParen budget hopen, hinner]
  simp only [bind, Except.bind, hclose]

/-! ## Soundness -/

/-- What stands in `ts` in front of `rest` is a phrase of a level for a tree, within a budget. -/
def Derives (budget : Nat) (level : Option Level) (ts rest : Rest) (e : Expr) : Prop :=
  ∃ phrase : Phrase level, Consumes ts rest phrase.lexemes ∧ phrase.tree = e ∧ phrase.Within budget

/-- Properties that are read are words with dots in front. -/
theorem consumes_of_parseProperties {ts rest : Rest} {names : List String}
    (hts : ∀ t ∈ ts, t.Spelled) (h : parseProperties ts = .ok (names, rest)) :
    ∃ words : List Word, names = words.map Word.text ∧
      Consumes ts rest (words.flatMap fun word => [.symbol .dot, word.lexeme]) := by
  fun_induction parseProperties ts generalizing names with
  | case1 => cases h
  | case2 => cases h
  | case3 dot name ts hdot property hproperty hallowed ih =>
    obtain ⟨⟨names', rest'⟩, hrest, heq⟩ := map_eq_ok.mp h
    cases heq
    have hts' : ∀ t ∈ ts, t.Spelled := fun t ht => hts t (by simp [ht])
    obtain ⟨words, rfl, hwords⟩ := ih hts' hrest
    obtain ⟨word, hword, rfl⟩ := propertyName?_eq_some (hts name (by simp)) hproperty
    have hdot' : dot.lexeme = .symbol .dot := lexeme_of_symbol? hdot
    have hfront : Consumes (dot :: name :: ts) ts [.symbol .dot, word.lexeme] :=
      ⟨[dot, name], rfl, by simp only [List.map_cons, List.map_nil, hdot', hword]⟩
    exact ⟨word :: words, rfl, hfront.append hwords⟩
  | case4 dot name ts hdot =>
    cases h
    exact ⟨[], rfl, .nil _⟩
  | case5 ts hts' =>
    cases h
    exact ⟨[], rfl, .nil _⟩

/-- A literal that is read is a phrase. -/
theorem derives_literal {budget : Nat} {ts rest : Rest} {e : Expr} (l : Literal)
    (hl : (peek ts).lexeme = l.lexeme) (h : parsePrimary budget ts = .ok (e, rest)) :
    Derives budget none ts rest e := by
  rw [parsePrimary_literal budget l hl] at h
  cases h
  exact ⟨.literal l, .tail hl (by cases l <;> exact nofun), rfl, Phrase.within_literal l budget⟩

/-- The same of the loop of a chain. If what has been read so far is a chain, the result is a chain
that goes on with it, and the operators of the former and the budget that is left add up to the
budget of the latter. -/
def DerivesChain (budget : Nat) (level : Level) (left : Expr) (ts rest : Rest) (e : Expr) : Prop :=
  ∀ done : Phrase (some level), done.tree = left → done.Within (done.operators + budget) →
    ∃ (phrase : Phrase (some level)) (more : List Lexeme), Consumes ts rest more ∧
      phrase.lexemes = done.lexemes ++ more ∧ phrase.tree = e ∧
      phrase.Within (done.operators + budget)

section

variable {budget : Nat} {level : Level} {op : BinaryOp} {left right inner e : Expr}
  {ts mid rest : Rest}

/-- An operand and the chain behind it. -/
theorem derives_level (hfirst : Derives budget level.tighter? ts mid left)
    (hchain : DerivesChain budget level left mid rest e) :
    Derives budget (some level) ts rest e := by
  obtain ⟨first, hfirst, htree, hwithin⟩ := hfirst
  have hsingle : (Phrase.single first).Within ((Phrase.single first).operators + budget) := by
    simpa only [Phrase.operators, Nat.zero_add, Phrase.within_single] using hwithin
  obtain ⟨phrase, more, hmore, htext, htree', hwithin'⟩ := hchain (.single first) htree hsingle
  refine ⟨phrase, ?_, htree', ?_⟩
  · rw [htext]
    exact hfirst.append hmore
  · simpa only [Phrase.operators, Nat.zero_add] using hwithin'

/-- A chain that does not go on is the one that has been read. -/
theorem derivesChain_nil (budget : Nat) (level : Level) (left : Expr) (ts : Rest) :
    DerivesChain budget level left ts ts left :=
  fun done htree hwithin => ⟨done, [], .nil ts, (List.append_nil _).symm, htree, hwithin⟩

/-- One operator more, which takes one unit of the budget over to the chain that has been read. -/
theorem derivesChain_cons (hop : levelOp? level ts = some op)
    (hright : Derives budget level.tighter? ts.tail mid right)
    (hchain : DerivesChain budget level (.binary op left right) mid rest e) :
    DerivesChain (budget + 1) level left ts rest e := by
  intro done htree hwithin
  obtain ⟨hlexeme, hlevel⟩ := levelOp?_eq_some hop
  obtain ⟨operand, hoperand, htree', hwithin'⟩ := hright
  have hfits : op ∈ level.members := Level.mem_members_iff.mpr hlevel
  have hhead : Consumes ts ts.tail [.symbol (.op op)] := .tail hlexeme (by simp)
  have hlonger : (Phrase.chain done op hfits operand).Within (done.operators + (budget + 1)) :=
    Phrase.within_chain.mpr ⟨hwithin, budget, by omega, hwithin'⟩
  have hbudget : done.operators + (budget + 1) = done.operators + 1 + budget := by omega
  obtain ⟨phrase, more, hmore, htext, htree'', hwithin''⟩ :=
    hchain (.chain done op hfits operand) (by rw [Phrase.tree, htree, htree'])
      (by rwa [Phrase.operators, ← hbudget])
  refine ⟨phrase, [.symbol (.op op)] ++ operand.lexemes ++ more,
    (hhead.append hoperand).append hmore, ?_, htree'', ?_⟩
  · rw [htext, Phrase.lexemes]
    simp only [List.append_assoc, List.cons_append, List.nil_append]
  · rwa [Phrase.operators, ← hbudget] at hwithin''

/-- A prefix operator and its operand. -/
theorem derives_signed {op : UnaryOp} (hop : prefixOp? ts = some op)
    (hoperand : Derives budget none ts.tail rest e) :
    Derives (budget + 1) none ts rest (.unary op e) := by
  obtain ⟨phrase, hphrase, rfl, hwithin⟩ := hoperand
  have hhead : Consumes ts ts.tail [signLexeme op] :=
    .tail (prefixOp?_eq_some hop) (by cases op <;> simp [signLexeme])
  exact ⟨.signed op phrase, hhead.append hphrase, rfl,
    Phrase.within_signed.mpr ⟨budget, Nat.succ_eq_one_add budget, hwithin⟩⟩

/-- A root and the properties behind it. -/
theorem derives_path {root : String} {names : List String} (hts : ∀ t ∈ ts, t.Spelled)
    (hroot : (peek ts).lexeme = .identifier root)
    (h : parseProperties ts.tail = .ok (names, rest)) :
    Derives budget none ts rest (.path root names) := by
  have hhead : Consumes ts ts.tail [.identifier root] := .tail hroot (by simp)
  obtain ⟨words, rfl, hwords⟩ := consumes_of_parseProperties (hhead.spelled hts) h
  exact ⟨.path root words, hhead.append hwords, rfl, Phrase.within_path root words budget⟩

/-- A phrase in parentheses. -/
theorem derives_parens (hopen : (peek ts).lexeme = .leftParen)
    (hinner : Derives budget (some .disjunction) ts.tail mid inner)
    (hclose : (peek mid).lexeme = .rightParen) :
    Derives (budget + 1) none ts mid.tail inner := by
  obtain ⟨phrase, hphrase, rfl, hwithin⟩ := hinner
  have hhead : Consumes ts ts.tail [.leftParen] := .tail hopen (by simp)
  exact ⟨.parens phrase, (hhead.append hphrase).append (.tail hclose (by simp)), rfl,
    Phrase.within_parens.mpr ⟨budget, Nat.succ_eq_one_add budget, hwithin⟩⟩

theorem Derives.spelled {level : Option Level} (h : Derives budget level ts rest e)
    (hts : ∀ t ∈ ts, t.Spelled) : ∀ t ∈ rest, t.Spelled := by
  obtain ⟨_, hphrase, -⟩ := h
  exact hphrase.spelled hts

end

/-- What is read is a phrase within the budget, by the recursion of the reader. -/
theorem derives_of_parse :
    (∀ budget level ts, ∀ e rest, (∀ t ∈ ts, t.Spelled) →
      parseLevel budget level ts = .ok (e, rest) → Derives budget level ts rest e) ∧
    (∀ budget level left ts, ∀ e rest, (∀ t ∈ ts, t.Spelled) →
      parseChain budget level left ts = .ok (e, rest) →
      DerivesChain budget level left ts rest e) ∧
    (∀ budget ts, ∀ e rest, (∀ t ∈ ts, t.Spelled) →
      parseUnary budget ts = .ok (e, rest) → Derives budget none ts rest e) ∧
    (∀ budget ts, ∀ e rest, (∀ t ∈ ts, t.Spelled) →
      parsePrimary budget ts = .ok (e, rest) → Derives budget none ts rest e) := by
  apply parseLevel.mutual_induct
  -- a level: its operand, and the loop behind it
  case case1 =>
    intro budget ts ih e rest hts h
    rw [parseLevel] at h
    exact ih e rest hts h
  case case2 =>
    intro budget ts level ihOperand ihChain e rest hts h
    rw [parseLevel] at h
    obtain ⟨⟨left, mid⟩, hleft, hchain⟩ := bind_eq_ok.mp h
    have hfirst := ihOperand left mid hts hleft
    rw [Level.operand?_eq_tighter?] at hfirst
    exact derives_level hfirst (ihChain left mid e rest (hfirst.spelled hts) hchain)
  -- the loop of a chain: no operator follows, the budget is spent, or it goes on
  case case3 =>
    intro budget level left ts hop e rest hts h
    rw [parseChain, hop] at h
    cases h
    exact derivesChain_nil budget level left ts
  case case4 =>
    intro level left ts op hop e rest hts h
    rw [parseChain, hop] at h
    cases h
  case case5 =>
    intro level left ts op hop budget ihOperand ihChain e rest hts h
    rw [parseChain, hop] at h
    obtain ⟨⟨right, mid⟩, hright, hchain⟩ := bind_eq_ok.mp h
    have htail : ∀ t ∈ ts.tail, t.Spelled := fun t ht => hts t (List.mem_of_mem_tail ht)
    have hoperand := ihOperand right mid htail hright
    rw [Level.operand?_eq_tighter?] at hoperand
    exact derivesChain_cons hop hoperand
      (ihChain right mid e rest (hoperand.spelled htail) hchain)
  -- prefix operators
  case case6 =>
    intro budget ts hop ih e rest hts h
    rw [parseUnary, hop] at h
    exact ih e rest hts h
  case case7 =>
    intro ts op hop e rest hts h
    rw [parseUnary, hop] at h
    cases h
  case case8 =>
    intro ts op hop budget ih e rest hts h
    rw [parseUnary, hop] at h
    obtain ⟨⟨operand, mid⟩, hoperand, heq⟩ := bind_eq_ok.mp h
    cases heq
    exact derives_signed hop
      (ih operand _ (fun t ht => hts t (List.mem_of_mem_tail ht)) hoperand)
  -- primaries, by the token in front
  case case9 => exact fun budget ts x hx e rest _ h => derives_literal (.number x) hx h
  case case10 => exact fun budget ts s hs e rest _ h => derives_literal (.string s) hs h
  case case11 => exact fun budget ts b hb e rest _ h => derives_literal (.boolean b) hb h
  case case12 => exact fun budget ts hnull e rest _ h => derives_literal .null hnull h
  case case13 =>
    exact fun budget ts hundefined e rest _ h => derives_literal .undefined hundefined h
  case case14 =>
    intro budget ts root hroot e rest hts h
    rw [parsePrimary_identifier budget hroot] at h
    obtain ⟨⟨names, rest'⟩, hnames, heq⟩ := map_eq_ok.mp h
    cases heq
    exact derives_path hts hroot hnames
  case case15 =>
    intro ts hparen e rest hts h
    rw [parsePrimary_leftParen_zero hparen] at h
    cases h
  case case16 =>
    intro ts hparen budget ih e rest hts h
    rw [parsePrimary_leftParen budget hparen] at h
    obtain ⟨⟨inner, mid⟩, hinner, hclose⟩ := bind_eq_ok.mp h
    have hphrase := ih inner mid (fun t ht => hts t (List.mem_of_mem_tail ht)) hinner
    dsimp only at hclose
    split at hclose
    next hright =>
      cases hclose
      exact derives_parens hparen hphrase hright
    next => cases hclose
  case case17 =>
    intro budget ts h₁ h₂ h₃ h₄ h₅ h₆ h₇ e rest hts h
    rw [parsePrimary.eq_def] at h
    split at h
    next x hx => exact absurd hx (h₁ x)
    next s hs => exact absurd hs (h₂ s)
    next b hb => exact absurd hb (h₃ b)
    next hnull => exact absurd hnull h₄
    next hundefined => exact absurd hundefined h₅
    next root hroot => exact absurd hroot (h₆ root)
    next hparen => exact absurd hparen h₇
    next => cases h

/-! ## Completeness -/

/-- What follows a phrase of a level does not go on with its last operand: it starts with no dot and
with no operator of a tighter level. -/
def Stops (level : Option Level) (rest : Rest) : Prop :=
  (peek rest).lexeme ≠ .symbol .dot ∧
    ∀ op, (peek rest).lexeme = .symbol (.op op) → Level.rank level ≤ Level.rank (some (levelOf op))

/-- A token that is no operator stops every phrase. -/
theorem stops_of_not_symbol {level : Option Level} {rest : Rest}
    (h : ∀ symbol, (peek rest).lexeme ≠ .symbol symbol) : Stops level rest :=
  ⟨h .dot, fun op hop => absurd hop (h (.op op))⟩

/-- What stops a chain stops its last operand. -/
theorem Stops.operand {level : Level} {rest : Rest} (h : Stops (some level) rest) :
    Stops level.tighter? rest := by
  refine ⟨h.1, fun op hop => ?_⟩
  have := Level.rank_tighter? level
  have := h.2 op hop
  omega

/-- What reading comes to behind a phrase: the loop of its chain, with the budget of its operators
spent. -/
def Phrase.resume (budget : Nat) :
    {level : Option Level} → Phrase level → Rest → Except ExprError (Expr × Rest)
  | none, phrase, rest => .ok (phrase.tree, rest)
  | some level, phrase, rest => parseChain (budget - phrase.operators) level phrase.tree rest

/-- The loop of a chain ends where no operator of its level follows. -/
theorem Phrase.resume_eq_ok (budget : Nat) {level : Option Level} (phrase : Phrase level)
    {rest : Rest} (h : ∀ op, (peek rest).lexeme = .symbol (.op op) → some (levelOf op) ≠ level) :
    phrase.resume budget rest = .ok (phrase.tree, rest) := by
  cases level with
  | none => rfl
  | some level =>
    have hop : levelOp? level rest = none :=
      levelOp?_eq_none fun op hop heq => h op hop (congrArg some heq)
    rw [Phrase.resume, parseChain, hop]

/-- An operand of a chain is read to its end: what follows the chain, and what follows the operand
in it, is of no tighter level. -/
theorem Phrase.resume_operand (budget : Nat) {level : Level} (phrase : Phrase level.tighter?)
    {rest : Rest} (h : Stops (some level) rest) :
    phrase.resume budget rest = .ok (phrase.tree, rest) := by
  refine phrase.resume_eq_ok budget fun op hop heq => ?_
  have := Level.rank_tighter? level
  have := h.2 op hop
  rw [heq] at this
  omega

/-- Without a prefix operator, an operand is a primary. -/
theorem parseUnary_eq_parsePrimary {budget : Nat} {ts : Rest}
    (h : ∀ op, (peek ts).lexeme ≠ signLexeme op) :
    parseUnary budget ts = parsePrimary budget ts := by
  rw [parseUnary, prefixOp?_eq_none h]

/-- Where no dot follows, there are no properties. -/
theorem parseProperties_of_not_dot {ts : Rest} (h : (peek ts).lexeme ≠ .symbol .dot) :
    parseProperties ts = .ok ([], ts) := by
  rw [parseProperties.eq_def]
  split
  next dot name ts =>
    have hdot : ¬dot.symbol? = some .dot := fun hdot => h (lexeme_of_symbol? hdot)
    rw [if_neg hdot]
  next => rfl

/-- Words with dots in front are read as properties, up to what is no dot. -/
theorem parseProperties_of_consumes {ts rest : Rest} (words : List Word)
    (hts : ∀ t ∈ ts, t.Spelled)
    (h : Consumes ts rest (words.flatMap fun word => [.symbol .dot, word.lexeme]))
    (hrest : (peek rest).lexeme ≠ .symbol .dot) :
    parseProperties ts = .ok (words.map Word.text, rest) := by
  induction words generalizing ts with
  | nil =>
    rw [h.eq_of_nil]
    exact parseProperties_of_not_dot hrest
  | cons word words ih =>
    obtain ⟨dot, ts, rfl, hdot, h⟩ := h.of_cons
    obtain ⟨name, ts, rfl, hname, h⟩ := h.of_cons
    have hspelled : name.Spelled := hts name (by simp)
    have hlexeme : dot.lexeme = .symbol .dot := hdot
    have hdot' : dot.symbol? = some .dot := by simp only [Token.symbol?, hlexeme]
    have hrec := ih (fun t ht => hts t (by simp [ht])) h
    rw [parseProperties, if_pos hdot', propertyName?_of_lexeme hspelled hname]
    simp only [(hspelled word hname).2, Bool.false_eq_true, if_false, hrec, Except.map,
      List.map_cons]

theorem signLexeme_ne_of_not_symbol {lexeme : Lexeme} (h : ∀ symbol, lexeme ≠ .symbol symbol)
    (op : UnaryOp) : lexeme ≠ signLexeme op := by
  cases op <;> exact h _

/-- A phrase within the budget is read, up to the loop of its chain. -/
theorem Phrase.parseLevel_eq_resume {level : Option Level} (phrase : Phrase level) :
    ∀ {budget : Nat} {ts rest : Rest}, phrase.Within budget → (∀ t ∈ ts, t.Spelled) →
      Consumes ts rest phrase.lexemes → Stops level rest →
      parseLevel budget level ts = phrase.resume budget rest := by
  induction phrase with
  | literal l =>
    intro budget ts rest _ _ h _
    obtain ⟨t, ts, rfl, ht, h⟩ := h.of_cons
    have hsign : ∀ op, (peek (t :: ts)).lexeme ≠ signLexeme op := by
      refine signLexeme_ne_of_not_symbol fun symbol heq => ?_
      cases l <;> cases ht.symm.trans heq
    rw [parseLevel, parseUnary_eq_parsePrimary hsign, parsePrimary_literal budget l ht, h.eq_of_nil]
    rfl
  | path root properties =>
    intro budget ts rest _ hts h hstops
    obtain ⟨t, ts, rfl, ht, h⟩ := h.of_cons
    have hsign : ∀ op, (peek (t :: ts)).lexeme ≠ signLexeme op :=
      signLexeme_ne_of_not_symbol fun symbol heq => by cases ht.symm.trans heq
    have hproperties : parseProperties ts = .ok (properties.map Word.text, rest) :=
      parseProperties_of_consumes properties (fun t ht => hts t (by simp [ht])) h hstops.1
    rw [parseLevel, parseUnary_eq_parsePrimary hsign, parsePrimary_identifier budget ht,
      List.tail_cons, hproperties]
    rfl
  | parens inner ih =>
    intro budget ts rest hwithin hts h _
    obtain ⟨budget, rfl, hinner⟩ := Phrase.within_parens.mp hwithin
    obtain ⟨t, ts, rfl, ht, h⟩ := h.of_cons
    obtain ⟨mid, hmid, hclose⟩ := h.of_append
    obtain ⟨close, more, rfl, hright, hrest⟩ := hclose.of_cons
    have hsign : ∀ op, (peek (t :: ts)).lexeme ≠ signLexeme op :=
      signLexeme_ne_of_not_symbol fun symbol heq => by cases ht.symm.trans heq
    have hnot : ∀ symbol, (peek (close :: more)).lexeme ≠ .symbol symbol :=
      fun symbol heq => by cases hright.symm.trans heq
    have hread : parseLevel budget (some .disjunction) ts = .ok (inner.tree, close :: more) := by
      rw [ih hinner (fun t ht => hts t (by simp [ht])) hmid (stops_of_not_symbol hnot)]
      exact inner.resume_eq_ok budget fun op hop => absurd hop (hnot _)
    rw [parseLevel, parseUnary_eq_parsePrimary hsign, Nat.add_comm 1 budget,
      parsePrimary_parens budget ht hread hright, ← hrest.eq_of_nil]
    rfl
  | signed op operand ih =>
    intro budget ts rest hwithin hts h hstops
    obtain ⟨budget, rfl, hoperand⟩ := Phrase.within_signed.mp hwithin
    obtain ⟨t, ts, rfl, ht, h⟩ := h.of_cons
    have hread := ih hoperand (fun t ht => hts t (by simp [ht])) h hstops
    rw [parseLevel] at hread
    rw [parseLevel, Nat.add_comm 1 budget, parseUnary, prefixOp?_of_lexeme ht]
    simp only [List.tail_cons, hread]
    rfl
  | single first ih =>
    intro budget ts rest hwithin hts h hstops
    rw [parseLevel, Level.operand?_eq_tighter?, ih hwithin hts h hstops.operand,
      first.resume_operand budget hstops]
    rfl
  | @chain level left op fits right ihLeft ihRight =>
    intro budget ts rest hwithin hts h hstops
    obtain ⟨hleft, budget', rfl, hright⟩ := Phrase.within_chain.mp hwithin
    obtain ⟨mid, hmid, h⟩ := h.of_append
    have hspelled := hmid.spelled hts
    obtain ⟨t, more, rfl, ht, hmore⟩ := h.of_cons
    have hlevel : levelOf op = level := Level.mem_members_iff.mp fits
    have hstops' : Stops (some level) (t :: more) := by
      refine ⟨fun heq => (by cases ht.symm.trans heq), fun op' hop => ?_⟩
      cases ht.symm.trans hop
      exact Nat.le_of_eq (by rw [hlevel])
    have hread : parseLevel budget' level.operand? more = .ok (right.tree, rest) := by
      rw [Level.operand?_eq_tighter?,
        ihRight hright (fun t ht => hspelled t (by simp [ht])) hmore hstops.operand]
      exact right.resume_operand budget' hstops
    have hop : levelOp? level (t :: more) = some op := hlevel ▸ levelOp?_of_lexeme ht
    -- The chain to the left comes to its loop with one unit more than the right operand needs.
    have hbudget : left.operators + 1 + budget' - left.operators = budget' + 1 := by omega
    have hbudget' : left.operators + 1 + budget' - (left.operators + 1) = budget' := by omega
    rw [ihLeft hleft hts hmid hstops', Phrase.resume, hbudget, parseChain, hop]
    simp only [List.tail_cons, hread, Phrase.resume, Phrase.operators, hbudget']
    rfl

/-! ## Whole texts -/

/-- The reader knows the end of the text by what it means. -/
theorem isEnd_iff {token : Token} : token.isEnd = true ↔ token.lexeme = .endOfText := by
  unfold Token.isEnd
  split
  next h => exact ⟨fun _ => h, fun _ => rfl⟩
  next h => exact ⟨nofun, fun heq => absurd heq h⟩

/-- The end of the text is in no phrase. -/
theorem endOfText_not_mem_lexemes {level : Option Level} (phrase : Phrase level) :
    Lexeme.endOfText ∉ phrase.lexemes := by
  induction phrase with
  | literal l => cases l <;> simp [Phrase.lexemes, Literal.lexeme]
  | path root properties =>
    simp only [Phrase.lexemes, List.mem_cons, List.mem_flatMap, reduceCtorEq, List.not_mem_nil,
      or_false, false_or, not_exists, not_and]
    intro word _
    cases word <;> simp [Word.lexeme]
  | parens inner ih => simpa [Phrase.lexemes] using ih
  | signed op operand ih => cases op <;> simpa [Phrase.lexemes, signLexeme] using ih
  | single first ih => exact ih
  | chain left op fits right ihLeft ihRight => simp [Phrase.lexemes, ihLeft, ihRight]

/-- A phrase that is written as a whole text is read up to the end of the text, on any budget that
its positions are within. -/
theorem Phrase.parseLevel_whole {phrase : Phrase (some .disjunction)} {budget : Nat}
    {tokens : List Token} (hspelled : ∀ t ∈ tokens, t.Spelled)
    (htext : tokens.map Token.lexeme = phrase.lexemes ++ [.endOfText])
    (hwithin : phrase.Within budget) :
    ∃ finish, finish.lexeme = .endOfText ∧
      parseLevel budget (some .disjunction) tokens = .ok (phrase.tree, [finish]) := by
  obtain ⟨used, rest, rfl, hused, hrest⟩ := List.map_eq_append_iff.mp htext
  obtain ⟨finish, rfl, hfinish⟩ := List.map_eq_singleton_iff.mp hrest
  have hnot : ∀ symbol, (peek [finish]).lexeme ≠ .symbol symbol :=
    fun symbol heq => by cases hfinish.symm.trans heq
  refine ⟨finish, hfinish, ?_⟩
  rw [phrase.parseLevel_eq_resume hwithin hspelled ⟨used, rfl, hused⟩ (stops_of_not_symbol hnot)]
  exact phrase.resume_eq_ok budget fun op hop => absurd hop (hnot _)

/-- What is left at the end of a text is its end alone. -/
theorem eq_of_consumes_of_isEnd {body rest : List Token} {finish : Token}
    {level : Option Level} {phrase : Phrase level} (hfinish : finish.lexeme = .endOfText)
    (hbody : ∀ t ∈ body, t.lexeme ≠ .endOfText)
    (h : Consumes (body ++ [finish]) rest phrase.lexemes) (hend : (peek rest).isEnd = true) :
    rest = [finish] := by
  obtain ⟨used, hsplit, hused⟩ := h
  rcases List.eq_nil_or_concat rest with rfl | ⟨front, last, rfl⟩
  · refine absurd ?_ (endOfText_not_mem_lexemes phrase)
    rw [← hused, ← hfinish]
    exact List.mem_map_of_mem (by rw [List.append_nil] at hsplit; simp [← hsplit])
  · rw [List.concat_eq_append] at hend ⊢
    rw [List.concat_eq_append, ← List.append_assoc] at hsplit
    obtain ⟨rfl, hlast⟩ := List.append_inj' hsplit rfl
    cases front with
    | nil => exact hlast.symm
    | cons t front => exact absurd (isEnd_iff.mp hend) (hbody t (by simp))

/-- Tokens of a text are written as they mean, so that their meanings alone make a phrase of it. -/
theorem Phrase.spells_of_tokenize {source : String} {tokens : List Token} {level : Option Level}
    (phrase : Phrase level) (h : Token.tokenize source = .ok tokens)
    (htext : tokens.map Token.lexeme = phrase.lexemes ++ [.endOfText]) : phrase.Spells source :=
  ⟨tokens, h, htext, Token.forall_isWritten_of_tokenize h⟩

/-- The tokens of a text are read as a tree exactly if they make a phrase within the budget that
stands for it. -/
theorem ofTokens_eq_ok_iff {source : String} {tokens : List Token}
    (h : Token.tokenize source = .ok tokens) (e : Expr) :
    ofTokens tokens = .ok e ↔ ∃ phrase : Phrase (some .disjunction),
      tokens.map Token.lexeme = phrase.lexemes ++ [.endOfText] ∧ phrase.tree = e ∧
        phrase.Within maxDepth := by
  have hspelled := Token.forall_spelled_of_tokenize h
  constructor
  · intro hread
    obtain ⟨⟨e', rest⟩, hlevel, hend⟩ := bind_eq_ok.mp hread
    dsimp only at hend
    split at hend
    next hisEnd =>
      cases hend
      obtain ⟨phrase, hphrase, htree, hwithin⟩ :=
        derives_of_parse.1 maxDepth _ tokens e rest hspelled hlevel
      obtain ⟨body, finish, rfl, hfinish, hbody⟩ := Token.eq_append_end_of_tokenize h
      have hrest := eq_of_consumes_of_isEnd hfinish hbody hphrase hisEnd
      obtain ⟨used, hsplit, hused⟩ := hphrase
      refine ⟨phrase, ?_, htree, hwithin⟩
      rw [hsplit, List.map_append, hused, hrest, List.map_singleton, hfinish]
    next => cases hend
  · rintro ⟨phrase, htext, rfl, hwithin⟩
    obtain ⟨finish, hfinish, hlevel⟩ := phrase.parseLevel_whole hspelled htext hwithin
    rw [ofTokens, hlevel]
    exact if_pos (isEnd_iff.mpr hfinish)

/-- What is read is a phrase within the budget of the reader. -/
theorem exists_phrase_of_parse {source : String} {e : Expr} (h : parse source = .ok e) :
    ∃ phrase : Phrase (some .disjunction),
      phrase.Spells source ∧ phrase.tree = e ∧ phrase.Within maxDepth := by
  obtain ⟨tokens, htokens, hread⟩ := bind_eq_ok.mp h
  obtain ⟨phrase, htext, htree, hwithin⟩ := (ofTokens_eq_ok_iff htokens e).mp hread
  exact ⟨phrase, phrase.spells_of_tokenize htokens htext, htree, hwithin⟩

/-- A phrase within the budget of the reader is read. -/
theorem Phrase.parse_of_spells {source : String} {phrase : Phrase (some .disjunction)}
    (hspells : phrase.Spells source) (hwithin : phrase.Within maxDepth) :
    parse source = .ok phrase.tree := by
  obtain ⟨tokens, htokens, htext, -⟩ := hspells
  rw [parse, htokens]
  exact (ofTokens_eq_ok_iff htokens _).mpr ⟨phrase, htext, rfl, hwithin⟩

/-- **Reading is deriving.** A text is read as a tree exactly when it is written as a phrase of the
grammar that stands for this tree, and no position of the phrase is charged more than 128. -/
theorem parse_eq_ok_iff (source : String) (e : Expr) :
    parse source = .ok e ↔ ∃ phrase : Phrase (some .disjunction),
      phrase.Spells source ∧ phrase.tree = e ∧ ∀ q ∈ phrase.positions, q.charge ≤ 128 := by
  constructor
  · intro h
    exact exists_phrase_of_parse h
  · rintro ⟨phrase, hspells, rfl, hwithin⟩
    exact Phrase.parse_of_spells hspells hwithin

/-- **The grammar is unambiguous.** A text that is written as two phrases has one tree: on a budget
that both are within, the reader would build both. -/
theorem Phrase.tree_eq_of_spells {source : String} {phrase other : Phrase (some .disjunction)}
    (h : phrase.Spells source) (h' : other.Spells source) : phrase.tree = other.tree := by
  obtain ⟨tokens, htokens, htext, -⟩ := h
  obtain ⟨tokens', htokens', htext', -⟩ := h'
  obtain rfl : tokens = tokens' := Except.ok.inj (htokens.symm.trans htokens')
  obtain ⟨budget, hwithin⟩ := phrase.exists_within
  obtain ⟨budget', hwithin'⟩ := other.exists_within
  have hspelled := Token.forall_spelled_of_tokenize htokens
  obtain ⟨finish, _, hread⟩ := phrase.parseLevel_whole hspelled htext
    (hwithin.mono (Nat.le_max_left budget budget'))
  obtain ⟨finish', _, hread'⟩ := other.parseLevel_whole hspelled htext'
    (hwithin'.mono (Nat.le_max_right budget budget'))
  exact congrArg Prod.fst (Except.ok.inj (hread.symm.trans hread'))

end AgentFlow.Expr
