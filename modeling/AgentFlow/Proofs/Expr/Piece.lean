import AgentFlow.Proofs.Expr.Spelling

/-!
# The token in front of a text

What a token is, said without a scanner. A number, a word, an operator or a parenthesis is a piece
of the text, and a token is the longest piece that the text starts with (`IsMunch`). A text in
quotes goes up to the first quote that is not escaped (`Quoted`).

`lexemeAt` cuts off this token, and where it fails there is none, for the reason that it gives
(`inFront_of_lexemeAt`, `refused_of_lexemeAt`).
-/

namespace AgentFlow

namespace Token

/-! ## Pieces -/

/-- What is cut off as far as it goes. -/
inductive IsPiece : List Char → Prop where
  | numeral {piece : List Char} (h : IsNumeral piece) : IsPiece piece
  | word {c : Char} {tail : List Char} (hc : IsWordStart c) (htail : ∀ d ∈ tail, IsWordPart d) :
    IsPiece (c :: tail)
  | operator {piece : List Char} {symbol : Symbol} (h : piece = symbol.sign.toList) : IsPiece piece
  | leftParen : IsPiece ['(']
  | rightParen : IsPiece [')']

/-- What a piece means. -/
inductive Means : List Char → Lexeme → Prop where
  | numeral {piece : List Char} {x : Float} (h : IsNumeral piece)
    (hx : Numeral.decimal? piece = some x) : Means piece (.number x)
  | word {c : Char} {tail : List Char} {lexeme : Lexeme} (hc : IsWordStart c)
    (htail : ∀ d ∈ tail, IsWordPart d) (hword : WordMeans (String.ofList (c :: tail)) lexeme) :
    Means (c :: tail) lexeme
  | operator {piece : List Char} {symbol : Symbol} (h : piece = symbol.sign.toList) :
    Means piece (.symbol symbol)
  | leftParen : Means ['('] .leftParen
  | rightParen : Means [')'] .rightParen

/-- The longest piece in front of a text. -/
structure IsMunch (cs piece : List Char) : Prop where
  isPrefix : piece <+: cs
  isPiece : IsPiece piece
  longest : ∀ other, other <+: cs → IsPiece other → other.length ≤ piece.length

/-- What stands behind an opening quote, closing quote included, and the text that it means. The
closing quote is the first one that is not escaped. -/
inductive Quoted (quote : Char) : List Char → List Char → Prop where
  | close : Quoted quote [quote] []
  | plain {c : Char} {raw text : List Char} (hquote : c ≠ quote) (hescape : c ≠ '\\')
    (h : Quoted quote raw text) : Quoted quote (c :: raw) (c :: text)
  | escaped {c d : Char} {raw text : List Char} (hescaped : Escaped c d)
    (h : Quoted quote raw text) : Quoted quote ('\\' :: c :: raw) (d :: text)

/-- May a text in quotes start with this character? -/
def IsQuote (c : Char) : Prop :=
  c = '"' ∨ c = '\''

/-- How the token in front of a text is written, and what it means. -/
inductive InFront (cs : List Char) : List Char → Lexeme → Prop where
  | piece {piece : List Char} {lexeme : Lexeme} (hmunch : IsMunch cs piece)
    (hmeans : Means piece lexeme) : InFront cs piece lexeme
  | quoted {quote : Char} {raw text : List Char} (hquote : IsQuote quote)
    (hstart : quote :: raw <+: cs) (h : Quoted quote raw text) :
    InFront cs (quote :: raw) (.string (String.ofList text))

/-- The reasons for which there is no token in front of a text that starts at a byte position, and
the error that names each of them. -/
inductive Refused (position : Nat) : List Char → ExprError → Prop where
  | character {c : Char} {rest : List Char} (hblank : ¬ IsWhiteSpace c)
    (hquote : ¬ IsQuote c) (h : ∀ piece, piece <+: c :: rest → ¬ IsPiece piece) :
    Refused position (c :: rest) (.unexpectedCharacter c position)
  | unterminated {quote : Char} {rest : List Char} (hquote : IsQuote quote)
    (h : ∀ raw text, raw <+: rest → ¬ Quoted quote raw text) :
    Refused position (quote :: rest) (.unterminatedString position)
  | denied {cs : List Char} {name : String} (hmunch : IsMunch cs name.toList)
    (h : name ∈ denyList) : Refused position cs (.blockedIdentifier name)

/-! ## What pieces start with -/

/-- No operator starts like another piece. -/
theorem head_of_sign {c : Char} {tail : List Char} {symbol : Symbol}
    (h : c :: tail = symbol.sign.toList) :
    c.isDigit = false ∧ startsWord c = false ∧ c ≠ '(' ∧ c ≠ ')' ∧ c ≠ '"' ∧ c ≠ '\'' := by
  have hall : ∀ entry ∈ Symbol.spellings, entry.1.head?.all fun c =>
      !c.isDigit && !startsWord c && c ≠ '(' && c ≠ ')' && c ≠ '"' && c ≠ '\'' := by decide
  have hhead := hall _ (Symbol.mem_spellings_iff.mpr h)
  simpa [and_assoc] using hhead

theorem IsPiece.ne_nil {piece : List Char} (h : IsPiece piece) : piece ≠ [] := by
  cases h with
  | numeral h =>
    obtain ⟨d, tail, rfl, -⟩ := h.exists_cons
    exact List.cons_ne_nil d tail
  | word => exact List.cons_ne_nil _ _
  | @operator _ symbol h => exact h ▸ symbol.sign_toList_ne_nil
  | leftParen => exact List.cons_ne_nil _ _
  | rightParen => exact List.cons_ne_nil _ _

theorem IsNumeral.isDigit {c : Char} {tail : List Char} (h : IsNumeral (c :: tail)) :
    c.isDigit = true := by
  obtain ⟨d, tail', heq, hd⟩ := h.exists_cons
  cases heq
  exact hd

section

variable {c : Char} {tail : List Char}

/-- A piece that starts with a digit is a number. -/
theorem IsPiece.isNumeral (h : IsPiece (c :: tail)) (hc : c.isDigit = true) :
    IsNumeral (c :: tail) := by
  cases h with
  | numeral h => exact h
  | word hword =>
    exact absurd hc (Bool.eq_false_iff.mp (isDigit_of_startsWord (isWordStart_iff.mp hword)))
  | operator h => exact absurd hc (Bool.eq_false_iff.mp (head_of_sign h).1)
  | leftParen => exact absurd hc (by decide)
  | rightParen => exact absurd hc (by decide)

/-- A piece that starts like a word is a word. -/
theorem IsPiece.continuesWord (h : IsPiece (c :: tail)) (hc : startsWord c = true) :
    ∀ d ∈ tail, continuesWord d = true := by
  cases h with
  | numeral h => exact absurd h.isDigit (Bool.eq_false_iff.mp (isDigit_of_startsWord hc))
  | word _ htail => exact fun d hd => isWordPart_iff.mp (htail d hd)
  | operator h => exact absurd hc (Bool.eq_false_iff.mp (head_of_sign h).2.1)
  | leftParen => exact absurd hc (by decide)
  | rightParen => exact absurd hc (by decide)

/-- A parenthesis is a piece by itself. -/
theorem IsPiece.eq_nil (h : IsPiece (c :: tail)) (hc : c = '(' ∨ c = ')') : tail = [] := by
  cases h with
  | numeral h =>
    have hdigit := h.isDigit
    rcases hc with rfl | rfl
    · exact absurd hdigit (by decide)
    · exact absurd hdigit (by decide)
  | word hword =>
    rcases hc with rfl | rfl
    · exact absurd hword (by decide)
    · exact absurd hword (by decide)
  | operator h =>
    obtain ⟨-, -, hleft, hright, -⟩ := head_of_sign h
    exact (hc.elim hleft hright).elim
  | leftParen => rfl
  | rightParen => rfl

/-- No piece starts with a quote. -/
theorem not_isPiece_of_isQuote (hc : IsQuote c) : ¬ IsPiece (c :: tail) := by
  intro h
  cases h with
  | numeral h =>
    have hdigit := h.isDigit
    rcases hc with rfl | rfl
    · exact absurd hdigit (by decide)
    · exact absurd hdigit (by decide)
  | word hword =>
    obtain ⟨hdouble, hsingle⟩ := not_quote_of_startsWord (isWordStart_iff.mp hword)
    exact hc.elim hdouble hsingle
  | operator h =>
    obtain ⟨-, -, -, -, hdouble, hsingle⟩ := head_of_sign h
    exact hc.elim hdouble hsingle
  | leftParen => exact absurd hc (by simp [IsQuote])
  | rightParen => exact absurd hc (by simp [IsQuote])

end

/-! ## The longest piece -/

/-- No run of characters of a kind is longer than the run that is taken. -/
theorem length_le_takeWhile {p : Char → Bool} {run cs : List Char} (hstart : run <+: cs)
    (hrun : ∀ c ∈ run, p c = true) : run.length ≤ (cs.takeWhile p).length := by
  obtain ⟨more, rfl⟩ := hstart
  rw [List.takeWhile_append_of_pos hrun, List.length_append]
  omega

/-- Pieces are compared behind the character that all of them start with. -/
theorem isMunch_cons {c : Char} {rest tail : List Char} (hstart : tail <+: rest)
    (hpiece : IsPiece (c :: tail))
    (hlongest : ∀ other, other <+: rest → IsPiece (c :: other) → other.length ≤ tail.length) :
    IsMunch (c :: rest) (c :: tail) := by
  refine ⟨(List.prefix_cons_inj c).mpr hstart, hpiece, fun other hother hpiece' => ?_⟩
  rcases List.prefix_cons_iff.mp hother with rfl | ⟨behind, rfl, hbehind⟩
  · exact Nat.zero_le _
  · exact Nat.succ_le_succ (hlongest behind hbehind hpiece')

/-- There is but one longest piece. -/
theorem IsMunch.eq {cs piece piece' : List Char} (h : IsMunch cs piece) (h' : IsMunch cs piece') :
    piece = piece' := by
  have hle := h'.longest piece h.isPrefix h.isPiece
  have hge := h.longest piece' h'.isPrefix h'.isPiece
  exact (List.prefix_of_prefix_length_le h.isPrefix h'.isPrefix hle).eq_of_length (by omega)

/-! ### Numbers -/

/-- What continues a number is cut from the text. -/
theorem numberTail_isPrefix (rest : List Char) : numberTail rest <+: rest := by
  have hsplit := List.takeWhile_append_dropWhile (p := Char.isDigit) (l := rest)
  unfold numberTail
  split
  next d more hdrop =>
    rw [hdrop] at hsplit
    split
    next =>
      refine ⟨more.dropWhile Char.isDigit, ?_⟩
      rw [List.append_assoc, List.cons_append, List.cons_append,
        List.takeWhile_append_dropWhile, hsplit]
    next => exact List.takeWhile_prefix _
  next => exact List.takeWhile_prefix _

/-- What is cut off behind a digit makes a number of it. -/
theorem isNumeral_numberTail {c : Char} (hc : c.isDigit = true) (rest : List Char) :
    IsNumeral (c :: numberTail rest) := by
  have hwhole : ∀ d ∈ rest.takeWhile Char.isDigit, d.isDigit = true :=
    fun d hd => List.mem_takeWhile_imp hd
  unfold numberTail
  split
  next d more hdrop =>
    split
    next hd => exact .point hc hwhole hd fun e he => List.mem_takeWhile_imp he
    next => exact .whole hc hwhole
  next => exact .whole hc hwhole

/-- A number goes on with all digits that follow. -/
theorem takeWhile_prefix_numberTail (rest : List Char) :
    rest.takeWhile Char.isDigit <+: numberTail rest := by
  unfold numberTail
  split
  · split
    · exact List.prefix_append _ _
    · exact List.prefix_refl _
  · exact List.prefix_refl _

/-- No number is longer than the one that is cut off: a second point, and one that no digit follows,
would have to be in it. -/
theorem isMunch_numberTail {c : Char} (hc : c.isDigit = true) (rest : List Char) :
    IsMunch (c :: rest) (c :: numberTail rest) := by
  refine isMunch_cons (numberTail_isPrefix rest) (.numeral (isNumeral_numberTail hc rest))
    fun other hother hpiece => ?_
  cases hpiece.isNumeral hc with
  | whole _ hdigits =>
    exact (length_le_takeWhile hother hdigits).trans (takeWhile_prefix_numberTail rest).length_le
  | @point _ e digits fraction _ hdigits he hfraction =>
    obtain ⟨more, rfl⟩ := hother
    have hstop : ∀ d ∈ ('.' :: e :: (fraction ++ more)).head?, d.isDigit = false := by
      rintro d ⟨⟩
      rfl
    obtain ⟨htake, hdrop⟩ := takeWhile_append_of_head hdigits hstop
    have hfraction := length_le_takeWhile (List.prefix_append fraction more) hfraction
    rw [List.append_assoc, List.cons_append, List.cons_append, numberTail, htake, hdrop]
    simp only [he, if_true, List.length_append, List.length_cons]
    omega

/-! ### Words -/

/-- What is cut off of a word are characters of words. -/
theorem isWordPart_of_mem_takeWhile {rest : List Char} :
    ∀ d ∈ rest.takeWhile continuesWord, IsWordPart d :=
  fun _ hd => isWordPart_iff.mpr (List.mem_takeWhile_imp hd)

/-- No word is longer than the one that is cut off. -/
theorem isMunch_takeWhile {c : Char} (hc : startsWord c = true) (rest : List Char) :
    IsMunch (c :: rest) (c :: rest.takeWhile continuesWord) :=
  isMunch_cons (List.takeWhile_prefix _)
    (.word (isWordStart_iff.mpr hc) isWordPart_of_mem_takeWhile)
    fun _ hother hpiece => length_le_takeWhile hother (hpiece.continuesWord hc)

/-! ### Parentheses and operators -/

/-- Nothing longer than a parenthesis starts with it. -/
theorem isMunch_paren {c : Char} (hc : c = '(' ∨ c = ')') (rest : List Char) :
    IsMunch (c :: rest) [c] := by
  have hpiece : IsPiece [c] := by
    rcases hc with rfl | rfl
    · exact .leftParen
    · exact .rightParen
  refine isMunch_cons List.nil_prefix hpiece fun other _ hpiece => ?_
  rw [hpiece.eq_nil hc]

/-- Longer operators are looked for first. -/
theorem length_le_of_ofPrefix? {cs spelling other : List Char} {symbol symbol' : Symbol}
    (h : Symbol.ofPrefix? cs = some (spelling, symbol)) (hother : other <+: cs)
    (hsign : other = symbol'.sign.toList) : other.length ≤ spelling.length := by
  have hmem := Symbol.mem_spellings_iff.mpr hsign
  have hsorted : Symbol.spellings.Pairwise fun a b => b.1.length ≤ a.1.length := by decide
  obtain ⟨-, before, behind, hspellings, hbefore⟩ := List.find?_eq_some_iff_append.mp h
  rw [hspellings] at hmem hsorted
  rcases List.mem_append.mp hmem with hmem | hmem
  · have hnot := hbefore _ hmem
    rw [List.isPrefixOf_iff_prefix.mpr hother] at hnot
    cases hnot
  · obtain ⟨hhead, -⟩ := List.pairwise_cons.mp (List.pairwise_append.mp hsorted).2.1
    rcases List.mem_cons.mp hmem with heq | hmem
    · cases heq
      exact Nat.le_refl _
    · exact hhead _ hmem

/-- A piece that starts like nothing else is the sign of an operator. -/
theorem IsPiece.exists_sign {c : Char} {tail : List Char} (h : IsPiece (c :: tail))
    (hdigit : ¬ c.isDigit = true) (hword : ¬ startsWord c = true) (hleft : c ≠ '(')
    (hright : c ≠ ')') : ∃ symbol : Symbol, c :: tail = symbol.sign.toList := by
  cases h with
  | numeral h => exact absurd h.isDigit hdigit
  | word hc => exact absurd (isWordStart_iff.mp hc) hword
  | operator h => exact ⟨_, h⟩
  | leftParen => exact absurd rfl hleft
  | rightParen => exact absurd rfl hright

/-! ## Texts in quotes -/

/-- What is cut off up to the closing quote is a text in quotes. -/
theorem quoted_of_quoted? {quote : Char} {rest text raw : List Char}
    (h : quoted? quote rest = some (text, raw)) : raw <+: rest ∧ Quoted quote raw text := by
  fun_induction quoted? quote rest generalizing text raw with
  | case1 => cases h
  | case2 rest =>
    cases h
    exact ⟨(List.prefix_cons_inj quote).mpr List.nil_prefix, .close⟩
  | case3 => cases h
  | case4 e rest _ ih =>
    obtain ⟨⟨text, raw⟩, hrest, heq⟩ := Option.map_eq_some_iff.mp h
    cases heq
    obtain ⟨hstart, hquoted⟩ := ih hrest
    exact ⟨(List.prefix_cons_inj _).mpr ((List.prefix_cons_inj e).mpr hstart),
      .escaped (escaped_iff.mpr rfl) hquoted⟩
  | case5 c rest hquote hescape ih =>
    obtain ⟨⟨text, raw⟩, hrest, heq⟩ := Option.map_eq_some_iff.mp h
    cases heq
    obtain ⟨hstart, hquoted⟩ := ih hrest
    exact ⟨(List.prefix_cons_inj c).mpr hstart, .plain hquote hescape hquoted⟩

/-- A text in quotes is cut off at its closing quote, whatever follows. -/
theorem quoted?_of_quoted {quote : Char} {raw text : List Char} (hquote : quote ≠ '\\')
    (h : Quoted quote raw text) (more : List Char) :
    quoted? quote (raw ++ more) = some (text, raw) := by
  induction h with
  | close =>
    rw [List.cons_append, quoted?.eq_def]
    exact if_pos rfl
  | plain hc hescape _ ih =>
    rw [List.cons_append, quoted?.eq_def]
    simp only [hc, hescape, if_false, ih, Option.map_some]
  | escaped hescaped _ ih =>
    obtain rfl := escaped_iff.mp hescaped
    rw [List.cons_append, List.cons_append, quoted?.eq_def]
    simp only [hquote.symm, if_false, if_true, ih, Option.map_some]

/-! ## The token that is cut off -/

/-- The names on the deny-list are words. -/
theorem isIdentifier_of_mem_denyList {name : String} (h : name ∈ denyList) :
    isIdentifier name = true := by
  have hall : ∀ name ∈ denyList, isIdentifier name = true := by decide
  exact hall name h

/-- A word is refused only for being denied. -/
theorem word_eq_error {name : String} {e : ExprError} (h : word name = .error e) :
    name ∈ denyList ∧ e = .blockedIdentifier name := by
  unfold word at h
  repeat' split at h
  all_goals cases h
  next hdenied => exact ⟨isDenied_iff.mp hdenied, rfl⟩

/-- No name on the deny-list is a keyword, so all of them are refused. -/
theorem word_of_mem_denyList {name : String} (h : name ∈ denyList) :
    word name = .error (.blockedIdentifier name) := by
  have hkeywords : ∀ name ∈ denyList, name ≠ "true" ∧ name ≠ "false" ∧ name ≠ "null" ∧
      name ≠ "undefined" ∧ name ≠ "and" ∧ name ≠ "or" ∧ name ≠ "not" := by decide
  obtain ⟨htrue, hfalse, hnull, hundefined, hand, hor, hnot⟩ := hkeywords name h
  rw [word, if_neg htrue, if_neg hfalse, if_neg hnull, if_neg hundefined, if_neg hand, if_neg hor,
    if_neg hnot, if_pos (isDenied_iff.mpr h)]

theorem exists_cons_of_mem_denyList {name : String} (h : name ∈ denyList) :
    ∃ c tail, name.toList = c :: tail ∧ startsWord c = true := by
  obtain ⟨c, tail, hcs, hstart, -⟩ := exists_cons_of_isIdentifier (isIdentifier_of_mem_denyList h)
  exact ⟨c, tail, hcs, hstart⟩

/-- A name on the deny-list means nothing. -/
theorem not_means_of_mem_denyList {name : String} {lexeme : Lexeme} (h : name ∈ denyList) :
    ¬ Means name.toList lexeme := by
  obtain ⟨c, tail, hname, hc⟩ := exists_cons_of_mem_denyList h
  have hofList : String.ofList (c :: tail) = name := by rw [← hname, String.ofList_toList]
  rw [hname]
  rintro (hnumeral | ⟨-, -, hword⟩ | hsign | - | -)
  · exact absurd hnumeral.isDigit (Bool.eq_false_iff.mp (isDigit_of_startsWord hc))
  · have hok := word_eq_ok_iff.mpr hword
    rw [hofList, word_of_mem_denyList h] at hok
    cases hok
  · exact absurd hc (Bool.eq_false_iff.mp (head_of_sign hsign).2.1)
  · exact absurd hc (by decide)
  · exact absurd hc (by decide)

/-- What is cut off depends on the first character alone. -/
theorem lexemeAt_cases (position : Nat) (c : Char) (rest : List Char) :
    (c.isDigit = true ∧ lexemeAt position c rest =
      .ok (.number ((Numeral.decimal? (c :: numberTail rest)).getD (0 / 0)), numberTail rest)) ∨
    (IsQuote c ∧ lexemeAt position c rest =
      match quoted? c rest with
      | none => .error (.unterminatedString position)
      | some (text, raw) => .ok (.string (String.ofList text), raw)) ∨
    (startsWord c = true ∧ lexemeAt position c rest =
      (word (String.ofList (c :: rest.takeWhile continuesWord))).map fun lexeme =>
        (lexeme, rest.takeWhile continuesWord)) ∨
    (c = '(' ∧ lexemeAt position c rest = .ok (.leftParen, [])) ∨
    (c = ')' ∧ lexemeAt position c rest = .ok (.rightParen, [])) ∨
    ((¬ c.isDigit = true ∧ ¬ IsQuote c ∧ ¬ startsWord c = true ∧ c ≠ '(' ∧ c ≠ ')') ∧
      lexemeAt position c rest =
        match Symbol.ofPrefix? (c :: rest) with
        | some (spelling, symbol) => .ok (.symbol symbol, spelling.tail)
        | none => .error (.unexpectedCharacter c position)) := by
  by_cases hdigit : c.isDigit = true
  · exact .inl ⟨hdigit, if_pos hdigit⟩
  by_cases hquote : IsQuote c
  · have hquote' : (c = '"' || c = '\'') = true := by simpa [IsQuote] using hquote
    exact .inr (.inl ⟨hquote, (if_neg hdigit).trans (if_pos hquote')⟩)
  have hquote' : ¬ (c = '"' || c = '\'') = true := by simpa [IsQuote] using hquote
  by_cases hword : startsWord c = true
  · refine .inr (.inr (.inl ⟨hword, ?_⟩))
    exact (if_neg hdigit).trans ((if_neg hquote').trans (if_pos hword))
  by_cases hleft : c = '('
  · subst hleft
    exact .inr (.inr (.inr (.inl ⟨rfl, rfl⟩)))
  by_cases hright : c = ')'
  · subst hright
    exact .inr (.inr (.inr (.inr (.inl ⟨rfl, rfl⟩))))
  refine .inr (.inr (.inr (.inr (.inr ⟨⟨hdigit, hquote, hword, hleft, hright⟩, ?_⟩))))
  exact (if_neg hdigit).trans <| (if_neg hquote').trans <| (if_neg hword).trans <|
    (if_neg hleft).trans (if_neg hright)

/-- What is cut off is the token in front of the text. -/
theorem inFront_of_lexemeAt {position : Nat} {c : Char} {rest tail : List Char} {lexeme : Lexeme}
    (h : lexemeAt position c rest = .ok (lexeme, tail)) :
    InFront (c :: rest) (c :: tail) lexeme := by
  rcases lexemeAt_cases position c rest with ⟨hdigit, heq⟩ | ⟨hquote, heq⟩ | ⟨hword, heq⟩ |
    ⟨rfl, heq⟩ | ⟨rfl, heq⟩ | ⟨⟨hdigit, hquote, hword, hleft, hright⟩, heq⟩
  all_goals rw [heq] at h
  · have hnumeral := isNumeral_numberTail hdigit rest
    obtain ⟨x, hx⟩ := exists_decimal?_of_isNumeral hnumeral
    cases h
    refine .piece (isMunch_numberTail hdigit rest) ?_
    rw [hx]
    exact .numeral hnumeral hx
  · split at h
    next => cases h
    next text raw hquoted =>
      cases h
      obtain ⟨hstart, hquoted⟩ := quoted_of_quoted? hquoted
      exact .quoted hquote ((List.prefix_cons_inj c).mpr hstart) hquoted
  · obtain ⟨lexeme, hlexeme, heq⟩ := map_eq_ok.mp h
    cases heq
    exact .piece (isMunch_takeWhile hword rest)
      (.word (isWordStart_iff.mpr hword) isWordPart_of_mem_takeWhile (word_eq_ok_iff.mp hlexeme))
  · cases h
    exact .piece (isMunch_paren (.inl rfl) rest) .leftParen
  · cases h
    exact .piece (isMunch_paren (.inr rfl) rest) .rightParen
  · split at h
    next spelling symbol hfound =>
      cases h
      obtain ⟨tail, rfl, hsign, hstart⟩ := Symbol.exists_sign_of_ofPrefix? hfound
      refine .piece (isMunch_cons hstart (.operator hsign.symm) fun other hother hpiece => ?_)
        (.operator hsign.symm)
      -- Where nothing else can start, other pieces are operators too, and longer ones come first.
      obtain ⟨symbol', hsign'⟩ := hpiece.exists_sign hdigit hword hleft hright
      have hother := (List.prefix_cons_inj c).mpr hother
      exact Nat.le_of_succ_le_succ (length_le_of_ofPrefix? hfound hother hsign')
    next => cases h

/-- Where nothing is cut off, there is no token, for the reason that the error gives. -/
theorem refused_of_lexemeAt {position : Nat} {c : Char} {rest : List Char} {e : ExprError}
    (hblank : Text.isBlank c = false) (h : lexemeAt position c rest = .error e) :
    Refused position (c :: rest) e := by
  rcases lexemeAt_cases position c rest with ⟨hdigit, heq⟩ | ⟨hquote, heq⟩ | ⟨hword, heq⟩ |
    ⟨rfl, heq⟩ | ⟨rfl, heq⟩ | ⟨⟨hdigit, hquote, hword, hleft, hright⟩, heq⟩
  all_goals rw [heq] at h
  · cases h
  · split at h
    next hnone =>
      cases h
      refine .unterminated hquote fun raw text hstart hquoted => ?_
      obtain ⟨more, rfl⟩ := hstart
      have hescape : c ≠ '\\' := by
        rintro rfl
        exact absurd hquote (by simp [IsQuote])
      cases hnone.symm.trans (quoted?_of_quoted hescape hquoted more)
    next => cases h
  · cases hmeant : word (String.ofList (c :: rest.takeWhile continuesWord)) with
    | ok lexeme =>
      rw [hmeant] at h
      cases h
    | error e =>
      rw [hmeant] at h
      cases h
      obtain ⟨hdenied, rfl⟩ := word_eq_error hmeant
      refine .denied ?_ hdenied
      rw [String.toList_ofList]
      exact isMunch_takeWhile hword rest
  · cases h
  · cases h
  · split at h
    next => cases h
    next hnone =>
      cases h
      refine .character (isWhiteSpace_iff.not.mpr (Bool.eq_false_iff.mp hblank)) hquote
        fun piece hstart hpiece => ?_
      rcases List.prefix_cons_iff.mp hstart with rfl | ⟨tail, rfl, -⟩
      · exact hpiece.ne_nil rfl
      · obtain ⟨symbol, hsign⟩ := hpiece.exists_sign hdigit hword hleft hright
        exact List.find?_eq_none.mp hnone _ (Symbol.mem_spellings_iff.mpr hsign)
          (List.isPrefixOf_iff_prefix.mpr hstart)

/-- Where a text is refused there is no token in front of it. -/
theorem Refused.not_inFront {position : Nat} {cs raw : List Char} {e : ExprError} {lexeme : Lexeme}
    (h : Refused position cs e) : ¬ InFront cs raw lexeme := by
  intro hfront
  cases h with
  | character hblank hquote hnone =>
    cases hfront with
    | piece hmunch => exact hnone raw hmunch.isPrefix hmunch.isPiece
    | quoted hquote' hstart =>
      obtain ⟨rfl, -⟩ := List.cons_prefix_cons.mp hstart
      exact hquote hquote'
  | @unterminated quote rest hquote hnone =>
    cases hfront with
    | piece hmunch =>
      rcases List.prefix_cons_iff.mp hmunch.isPrefix with rfl | ⟨tail, rfl, -⟩
      · exact hmunch.isPiece.ne_nil rfl
      · exact not_isPiece_of_isQuote hquote hmunch.isPiece
    | quoted _ hstart hquoted =>
      obtain ⟨rfl, hraw⟩ := List.cons_prefix_cons.mp hstart
      exact hnone _ _ hraw hquoted
  | denied hmunch hdenied =>
    cases hfront with
    | piece hmunch' hmeans =>
      rw [hmunch'.eq hmunch] at hmeans
      exact not_means_of_mem_denyList hdenied hmeans
    | quoted hquote hstart =>
      obtain ⟨c, tail, hname, hc⟩ := exists_cons_of_mem_denyList hdenied
      obtain ⟨more, rfl⟩ := hmunch.isPrefix
      rw [hname, List.cons_append] at hstart
      obtain ⟨rfl, -⟩ := List.cons_prefix_cons.mp hstart
      obtain ⟨hdouble, hsingle⟩ := not_quote_of_startsWord hc
      exact hquote.elim hdouble hsingle

/-! ## What a token in front promises -/

section

variable {raw : List Char} {lexeme : Lexeme}

/-- The token in front of a text is a part of it. -/
theorem InFront.isPrefix {cs : List Char} (h : InFront cs raw lexeme) : raw <+: cs := by
  cases h with
  | piece hmunch => exact hmunch.isPrefix
  | quoted _ hstart => exact hstart

/-- What follows the first character of a token goes on with the token. -/
theorem InFront.exists_append {c : Char} {tail rest : List Char}
    (h : InFront (c :: rest) (c :: tail) lexeme) : ∃ behind, rest = tail ++ behind := by
  obtain ⟨behind, hbehind⟩ := (List.prefix_cons_inj c).mp h.isPrefix
  exact ⟨behind, hbehind.symm⟩

/-- What is in front of a text is not its end. -/
theorem InFront.ne_endOfText {cs : List Char} (h : InFront cs raw lexeme) :
    lexeme ≠ .endOfText := by
  rintro rfl
  cases h with
  | piece _ hmeans =>
    cases hmeans with
    | word _ _ hword => exact word_ne_endOfText (word_eq_ok_iff.mpr hword) rfl

end

end Token

end AgentFlow
