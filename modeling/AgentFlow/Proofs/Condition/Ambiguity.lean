import AgentFlow.Condition
import AgentFlow.Proofs.Condition.Tokens
import AgentFlow.Proofs.Expr.Written

/-!
# Conditions that could be expressions

A condition is tried as a shorthand first, so a shorthand that is an expression as well would take
its place. Seen as expressions, shorthands put a word behind a path, and no operand may stand behind
another one. What looks like a path can be an operator, though: `not exists` is the one text that is
both, in whatever letter case `exists` is written (`Condition.shorthand_of_expression_iff`).
-/

namespace AgentFlow

open AgentFlow.Expr (Word Phrase)
open AgentFlow.Lexeme (Precedes)
open AgentFlow.Token (Reads)

namespace Condition

/-- Apart from blanks around it, the condition is the word `not`, blanks, and the word `exists` in
whatever letter case. -/
def SaysNotExists (condition : String) : Prop :=
  ∃ before between word after : List Char,
    (∀ c ∈ before, Text.isBlank c = true) ∧ between ≠ [] ∧
      (∀ c ∈ between, Text.isBlank c = true) ∧ (∀ c ∈ after, Text.isBlank c = true) ∧
      word.map Char.toLower = "exists".toList ∧
      condition.toList = before ++ ("not".toList ++ (between ++ (word ++ after)))

end Condition

namespace Shorthand

variable {cs word rest : List Char} {lexemes : List Lexeme}

/-! ## Shorthands as tokens -/

/-- The shapes of shorthands, as words and what follows them. Behind `is` it is enough to look at
the next keyword. -/
inductive Shaped (cs : List Char) : Prop where
  | pathExists {path rest word behind : List Char} (hcuts : Cuts cs path rest)
      (hnext : Cuts rest word behind) (hpath : isPath path = true)
      (hword : isKeyword "exists" word = true)
      (hbehind : ∀ c ∈ behind, Text.isBlank c = true) : Shaped cs
  | existsPath {word rest path behind : List Char} (hcuts : Cuts cs word rest)
      (hnext : Cuts rest path behind) (hword : isKeyword "exists" word = true)
      (hpath : isPath path = true) (hbehind : ∀ c ∈ behind, Text.isBlank c = true) : Shaped cs
  | pathIs {path rest word behind third others : List Char} {keyword : String}
      (hcuts : Cuts cs path rest) (hnext : Cuts rest word behind)
      (hothers : Cuts behind third others) (hpath : isPath path = true)
      (hword : isKeyword "is" word = true) (hthird : isKeyword keyword third = true)
      (hmem : keyword ∈ keywords) : Shaped cs
  | pathContains {path rest word behind : List Char} (hcuts : Cuts cs path rest)
      (hnext : Cuts rest word behind) (hpath : isPath path = true)
      (hword : isKeyword "contains" word = true) (hneedle : (needle? behind).isSome) : Shaped cs

/-- What is recognised by its words has the shape of a shorthand. -/
theorem shaped_of_ofWords? (h : (ofWords? (Text.words cs)).isSome) : Shaped cs := by
  unfold ofWords? at h
  split at h
  next a b heq =>
    obtain ⟨rest, hcuts, hrest⟩ := exists_cuts_of_words heq
    obtain ⟨behind, hnext, hbehind⟩ := exists_cuts_of_words hrest
    have hblank := blank_of_words hbehind
    split at h
    next hboth =>
      obtain ⟨hpath, hword⟩ := Bool.and_eq_true_iff.mp hboth
      exact .pathExists hcuts hnext hpath hword hblank
    split at h
    next hboth =>
      obtain ⟨hword, hpath⟩ := Bool.and_eq_true_iff.mp hboth
      exact .existsPath hcuts hnext hword hpath hblank
    next => cases h
  next a b c heq =>
    obtain ⟨rest, hcuts, hrest⟩ := exists_cuts_of_words heq
    obtain ⟨behind, hnext, hbehind⟩ := exists_cuts_of_words hrest
    obtain ⟨others, hothers, -⟩ := exists_cuts_of_words hbehind
    split at h
    next hall =>
      simp only [Bool.and_eq_true] at hall
      exact .pathIs hcuts hnext hothers hall.1.1 hall.1.2 hall.2 (by decide)
    next => cases h
  next a b c d heq =>
    obtain ⟨rest, hcuts, hrest⟩ := exists_cuts_of_words heq
    obtain ⟨behind, hnext, hbehind⟩ := exists_cuts_of_words hrest
    obtain ⟨others, hothers, -⟩ := exists_cuts_of_words hbehind
    split at h
    next hall =>
      simp only [Bool.and_eq_true] at hall
      exact .pathIs hcuts hnext hothers hall.1.1.1 hall.1.1.2 hall.1.2 (by decide)
    next => cases h
  next => cases h

/-- What is recognised as a search has the shape of one. -/
theorem shaped_of_containing? (h : (containing? cs).isSome) : Shaped cs := by
  have hcuts := cuts_splitWord cs
  have hnext := cuts_splitWord (splitWord cs).2
  unfold containing? at h
  split at h
  next path rest hfirst =>
    rw [hfirst] at hcuts hnext
    split at h
    next word behind hsecond =>
      rw [hsecond] at hnext
      split at h
      next hboth =>
        obtain ⟨hpath, hword⟩ := Bool.and_eq_true_iff.mp hboth
        rw [Option.isSome_map] at h
        exact .pathContains hcuts hnext hpath hword h
      next => cases h

/-- What is recognised as a shorthand has the shape of one. -/
theorem shaped_of_recognize? {condition : String} (h : (recognize? condition).isSome) :
    Shaped condition.toList := by
  rw [recognize?, Option.isSome_or, Bool.or_eq_true] at h
  rcases h with hwords | hcontains
  · exact shaped_of_ofWords? hwords
  · exact shaped_of_containing? hcontains

/-- Where an operand is due, a path with a keyword behind it can only be `not` with an operand. -/
theorem reads_of_path_and_keyword {path behind : List Char} {keyword : String}
    (hcuts : Cuts cs path rest) (hnext : Cuts rest word behind) (hpath : isPath path = true)
    (hkeyword : isKeyword keyword word = true) (hmem : keyword ∈ keywords) (hne : keyword ≠ "not")
    (h : Reads cs lexemes) (hchain : (Lexeme.leftParen :: lexemes).IsChain Precedes) :
    path = "not".toList ∧ (∀ d ∈ word, Token.continuesWord d = true) ∧
      ∃ lexeme more, Lexeme.Closes lexeme ∧ (lexeme :: more).IsChain Precedes ∧
        Reads behind more := by
  obtain ⟨last, more, hlast, hchain, hread⟩ := reads_of_isPath_of_awaits hpath hcuts.rest
    (hcuts.reads h) Lexeme.awaits_leftParen hchain
  obtain ⟨lexeme, others, rfl, hjoins, hcloses, hascii, hbehind⟩ :=
    reads_of_isKeyword hkeyword hmem hnext.rest (hnext.reads hread)
  obtain ⟨hprecedes, hothers⟩ := List.isChain_cons_cons.mp hchain
  rcases hlast with hlast | ⟨hnot, -⟩
  · exact absurd (hprecedes.joins hlast) hjoins
  · exact ⟨hnot, hascii, lexeme, others, hcloses hne, hothers, hbehind⟩

/-- A text in quotes is an operand, if it is a token at all. -/
theorem reads_of_quote {quote : Char} {body : List Char} (hquote : quote = '"' ∨ quote = '\'')
    (h : Reads (quote :: body) lexemes) :
    ∃ lexeme behind, lexemes = lexeme :: behind ∧ ¬ Lexeme.Joins lexeme := by
  have hblank : Text.isBlank quote = false := by rcases hquote with rfl | rfl <;> decide
  have hdigit : quote.isDigit = false := by rcases hquote with rfl | rfl <;> decide
  obtain ⟨position, lexeme, tail, behind, hlexeme, rfl, -⟩ := h.of_cons hblank
  simp only [Token.lexemeAt, hdigit, hquote, Bool.false_eq_true, if_false, if_true,
    Bool.or_eq_true, decide_eq_true_eq] at hlexeme
  split at hlexeme
  next => cases hlexeme
  next =>
    cases hlexeme
    exact ⟨_, behind, rfl, id⟩

/-- A text in quotes is a token, and it joins no operands. -/
theorem reads_of_needle? (hneedle : (needle? cs).isSome) (h : Reads cs lexemes) :
    ∃ lexeme behind, lexemes = lexeme :: behind ∧ ¬ Lexeme.Joins lexeme := by
  have hsplit : cs.takeWhile Text.isBlank ++ Text.trimStart cs = cs :=
    List.takeWhile_append_dropWhile
  rw [← hsplit] at h
  have hread := h.of_blank fun c hc => List.mem_takeWhile_imp hc
  unfold needle? at hneedle
  split at hneedle
  next => cases hneedle
  next quote body htrim =>
    rw [htrim] at hread
    split at hneedle
    next hquote =>
      exact reads_of_quote (by simpa [or_comm] using hquote) hread
    next => cases hneedle

/-- The one shorthand that is an expression. -/
theorem saysNotExists_of_shaped {condition : String} (hshaped : Shaped condition.toList)
    {lexemes : List Lexeme} (h : Reads condition.toList lexemes)
    (hchain : (Lexeme.leftParen :: lexemes).IsChain Precedes) :
    Condition.SaysNotExists condition := by
  cases hshaped with
  | @pathExists path rest word behind hcuts hnext hpath hword hbehind =>
    obtain ⟨rfl, hascii, -⟩ := reads_of_path_and_keyword hcuts hnext hpath hword (by decide)
      (by decide) h hchain
    obtain ⟨before, hbefore, hcs⟩ := hcuts.eq
    obtain ⟨between, hbetween, rfl⟩ := hnext.eq
    have hmap : word.map fold = "exists".toList := of_decide_eq_true hword
    refine ⟨before, between, word, behind, hbefore, ?_, hbetween, hbehind, ?_, hcs⟩
    · -- Without blanks between them, both would be one word.
      rintro rfl
      cases word with
      | nil => exact absurd hmap (by decide)
      | cons c tail =>
        have hblank := hcuts.rest c rfl
        rw [hnext.word c List.mem_cons_self] at hblank
        cases hblank
    · rw [← hmap]
      exact List.map_congr_left fun c hc =>
        (fold_of_not_isForeign (not_isForeign_of_continuesWord (hascii c hc))).symm
  -- In all other shapes a word that ends an operand meets one that cannot stand behind it.
  | existsPath hcuts hnext hword hpath hbehind =>
    obtain ⟨lexeme, others, rfl, -, hcloses, -, hread⟩ :=
      reads_of_isKeyword hword (by decide) hcuts.rest (hcuts.reads h)
    have hothers := (List.isChain_cons_cons.mp hchain).2
    exact absurd hothers
      (not_reads_of_isPath_of_closes hpath hbehind (hnext.reads hread) (hcloses (by decide)))
  | pathIs hcuts hnext hothers hpath hword hthird hmem =>
    obtain ⟨-, -, lexeme, more, hcloses, hchain, hread⟩ :=
      reads_of_path_and_keyword hcuts hnext hpath hword (by decide) (by decide) h hchain
    obtain ⟨third, behind, rfl, hjoins, -⟩ :=
      reads_of_isKeyword hthird hmem hothers.rest (hothers.reads hread)
    exact absurd ((List.isChain_cons_cons.mp hchain).1.joins hcloses) hjoins
  | pathContains hcuts hnext hpath hword hneedle =>
    obtain ⟨-, -, lexeme, more, hcloses, hchain, hread⟩ :=
      reads_of_path_and_keyword hcuts hnext hpath hword (by decide) (by decide) h hchain
    obtain ⟨text, behind, rfl, hjoins⟩ := reads_of_needle? hneedle hread
    exact absurd ((List.isChain_cons_cons.mp hchain).1.joins hcloses) hjoins

end Shorthand

/-! ## Conditions -/

namespace Condition

variable {condition : String}

/-- The word `exists` is made of letters and names a variable, in whatever letter case. -/
theorem startsWord_of_map_toLower {word : List Char}
    (h : word.map Char.toLower = "exists".toList) : ∀ c ∈ word, Token.startsWord c = true := by
  intro c hc
  have hletters : "exists".toList.all Char.isAlpha = true := by decide
  have hmem : c.toLower ∈ word.map Char.toLower := List.mem_map_of_mem hc
  rw [h] at hmem
  have halpha := List.all_eq_true.mp hletters c.toLower hmem
  rw [Shorthand.isAlpha_toLower] at halpha
  simp [Token.startsWord, halpha]

/-- The word `exists` is a name for the lexer, in whatever letter case. -/
theorem word_of_map_toLower {word : List Char} (h : word.map Char.toLower = "exists".toList) :
    Token.word (String.ofList word) = .ok (.identifier (String.ofList word)) := by
  have hne : ∀ name : String, name.toList.map Char.toLower ≠ "exists".toList →
      String.ofList word ≠ name := by
    rintro name hname rfl
    rw [String.toList_ofList] at hname
    exact hname h
  have hoperator : ∀ name ∈ Expr.operatorWords,
      name.toList.map Char.toLower ≠ "exists".toList := by decide
  have hliteral : ∀ name ∈ Expr.literalWords,
      name.toList.map Char.toLower ≠ "exists".toList := by decide
  have hdenied : ∀ name ∈ denyList, name.toList.map Char.toLower ≠ "exists".toList := by decide
  have hallowed : isDenied (String.ofList word) = false :=
    Bool.eq_false_iff.mpr fun hmem => hne _ (hdenied _ (isDenied_iff.mp hmem)) rfl
  rw [Word.word_eq_lexeme_ofText (fun hmem => hne _ (hoperator _ hmem) rfl) hallowed,
    Word.ofText_of_not_mem fun hmem => hne _ (hliteral _ hmem) rfl]
  rfl

/-- The word `exists` is a word for the lexer, in whatever letter case. -/
theorem isIdentifier_of_map_toLower {word : List Char}
    (h : word.map Char.toLower = "exists".toList) :
    Token.isIdentifier (String.ofList word) = true := by
  have hstarts := startsWord_of_map_toLower h
  rw [Token.isIdentifier, String.toList_ofList]
  cases word with
  | nil => exact absurd h (by decide)
  | cons c tail =>
    obtain ⟨hc, htail⟩ := List.forall_mem_cons.mp hstarts
    have hstart : Token.IsWordStart c := Token.isWordStart_iff.mpr hc
    have hparts : ∀ d ∈ tail, Token.IsWordPart d := fun d hd =>
      .inl (Token.isWordStart_iff.mpr (htail d hd))
    simpa [hstart] using hparts

/-- `not exists` is recognised: as asking whether a variable `not` exists. -/
theorem SaysNotExists.isSome_recognize? (h : SaysNotExists condition) :
    (Shorthand.recognize? condition).isSome := by
  obtain ⟨before, between, word, after, hbefore, hne, hbetween, hafter, hword, heq⟩ := h
  have hstarts := startsWord_of_map_toLower hword
  have hnot : "not".toList.all Token.startsWord = true := by decide
  have hcuts : Shorthand.Cuts condition.toList "not".toList (between ++ (word ++ after)) :=
    ⟨⟨before, hbefore, heq⟩,
      fun c hc => Token.isBlank_of_startsWord (List.all_eq_true.mp hnot c hc),
      Shorthand.isBlank_head?_append hne hbetween⟩
  have hnext : Shorthand.Cuts (between ++ (word ++ after)) word after :=
    ⟨⟨between, hbetween, rfl⟩, fun c hc => Token.isBlank_of_startsWord (hstarts c hc),
      fun c hc => hafter c (List.mem_of_mem_head? hc)⟩
  have hwords : Text.words condition.toList = ["not".toList, word] := by
    rw [hcuts.words_eq (by decide), hnext.words_eq, Shorthand.words_of_blank hafter]
    rintro rfl
    exact absurd hword (by decide)
  have hkeyword : Shorthand.isKeyword "exists" word = true := by
    refine decide_eq_true ?_
    rw [← hword]
    refine List.map_congr_left fun c hc => ?_
    refine Shorthand.fold_of_not_isForeign (Shorthand.not_isForeign_of_continuesWord ?_)
    rw [Shorthand.continuesWord_eq, hstarts c hc, Bool.true_or]
  have hpath : Shorthand.isPath "not".toList = true := by decide
  rw [Shorthand.recognize?, hwords, Shorthand.ofWords?, hpath, hkeyword]
  rfl

/-- `not exists` is an expression: a variable `exists`, denied. -/
theorem SaysNotExists.exists_parse (h : SaysNotExists condition) :
    ∃ e, Expr.parse condition = .ok e := by
  obtain ⟨before, between, word, after, hbefore, hne, hbetween, hafter, hword, heq⟩ := h
  have hscans : Token.Scans condition.toList
      [.symbol .bang, .identifier (String.ofList word), .endOfText] := by
    have hend : Token.Scans after [.endOfText] := by
      have hblanks := Token.scans_nil.blanks hafter
      rwa [List.append_nil] at hblanks
    have hname := Token.Scans.word (isIdentifier_of_map_toLower hword) (word_of_map_toLower hword)
      (fun c hc => Shorthand.continuesWord_of_isBlank (hafter c (List.mem_of_mem_head? hc))) hend
    rw [String.toList_ofList] at hname
    have hnot : Token.Scans ("not".toList ++ (between ++ (word ++ after))) _ :=
      Token.Scans.word (by decide) rfl (fun c hc => Shorthand.continuesWord_of_isBlank
        (Shorthand.isBlank_head?_append hne hbetween c hc)) (hname.blanks hbetween)
    exact heq ▸ hnot.blanks hbefore
  obtain ⟨tokens, htokens, hlexemes⟩ := hscans 0
  let phrase := (Phrase.signed .not (.path (String.ofList word) [])).whole
  have hspells : phrase.Spells condition := by
    refine phrase.spells_of_tokenize htokens ?_
    rw [hlexemes, Phrase.lexemes_whole]
    rfl
  have hwithin : phrase.Within Expr.maxDepth := by
    refine Phrase.within_whole.mpr (Phrase.within_signed.mpr ⟨127, rfl, ?_⟩)
    exact Phrase.within_path _ _ _
  exact ⟨_, Phrase.parse_of_spells hspells hwithin⟩

/-- **Shorthands take the place of no other expression.** A condition is an expression and is
recognised as a shorthand exactly if it is `not exists`, in whatever letter case `exists` is
written. Every other condition that is an expression is evaluated as one, and holds exactly if its
value counts as true. -/
theorem shorthand_of_expression_iff (condition : String) :
    ((∃ e, Expr.parse condition = .ok e) ∧ (Shorthand.recognize? condition).isSome ↔
        SaysNotExists condition) ∧
      ∀ e, Expr.parse condition = .ok e → ¬ SaysNotExists condition →
        Shorthand.recognize? condition = none ∧
          ∀ vars, evaluate condition vars = .ok (e.eval vars) ∧
            holds condition vars = (e.eval vars).truthy := by
  have hnone : ∀ e, Expr.parse condition = .ok e → (Shorthand.recognize? condition).isSome →
      SaysNotExists condition := by
    intro e hparse hsome
    obtain ⟨tokens, htokens, hchain⟩ := Expr.isChain_of_parse hparse
    exact Shorthand.saysNotExists_of_shaped (Shorthand.shaped_of_recognize? hsome)
      ⟨0, tokens, htokens, rfl⟩ hchain
  refine ⟨⟨fun ⟨⟨e, hparse⟩, hsome⟩ => hnone e hparse hsome,
    fun h => ⟨h.exists_parse, h.isSome_recognize?⟩⟩, fun e hparse hnot => ?_⟩
  have hrecognize : Shorthand.recognize? condition = none := by
    cases hsome : Shorthand.recognize? condition with
    | none => rfl
    | some shorthand => exact absurd (hnone e hparse (by rw [hsome]; rfl)) hnot
  refine ⟨hrecognize, fun vars => ?_⟩
  have hvalue : evaluate condition vars = .ok (e.eval vars) := by
    rw [evaluate, hparse]
    rfl
  refine ⟨hvalue, ?_⟩
  rw [holds, eval, hrecognize, hvalue]
  rfl

/-- Letter case and blanks aside, this is the text that is both. -/
theorem shorthand_of_expression_of_not_exists :
    (∃ e, Expr.parse " not\tEXISTS" = .ok e) ∧
      (Shorthand.recognize? " not\tEXISTS").isSome := by
  refine (shorthand_of_expression_iff " not\tEXISTS").1.mpr ?_
  exact ⟨[' '], ['\t'], "EXISTS".toList, [], List.forall_mem_singleton.mpr (by decide),
    List.cons_ne_nil _ _, List.forall_mem_singleton.mpr (by decide), List.forall_mem_nil _,
    by decide, rfl⟩

end Condition

end AgentFlow
