import AgentFlow.Proofs.Except
import AgentFlow.Proofs.Expr.Grammar

/-!
# What tokens promise

Two promises about the tokens of a text that later stages rely on. The end of the text is the last
token and no other. And a token is written as its meaning says. So a word is written as the property
that it names, which is never on the deny-list, and the reader may take the name of a property from
the text of a token, whatever the token means by itself.
-/

namespace AgentFlow

open AgentFlow.Expr (Word)

namespace Token

/-- A token that is a word is written as the name that it stands for, and that is not denied. -/
def Spelled (token : Token) : Prop :=
  ∀ word : Word, token.lexeme = word.lexeme → token.raw = word.text ∧ isDenied word.text = false

/-- What a word means says which property it names. -/
theorem WordMeans.eq_text {name : String} {word : Word} (h : WordMeans name word.lexeme) :
    name = word.text ∧ isDenied word.text = false := by
  cases word with
  | identifier text =>
    rcases h with h | ⟨-, hallowed⟩
    · simp [keywords, Word.lexeme] at h
    · exact ⟨rfl, Bool.eq_false_iff.mpr fun hdenied => hallowed (isDenied_iff.mp hdenied)⟩
  | boolean value =>
    rcases h with h | -
    cases value
    · exact ⟨by simpa [keywords, Word.lexeme, Word.text] using h, by decide⟩
    · exact ⟨by simpa [keywords, Word.lexeme, Word.text] using h, by decide⟩
  | null =>
    rcases h with h | -
    exact ⟨by simpa [keywords, Word.lexeme, Word.text] using h, by decide⟩
  | undefined =>
    rcases h with h | -
    exact ⟨by simpa [keywords, Word.lexeme, Word.text] using h, by decide⟩

/-- A token that is written as its meaning says names the property that it stands for. -/
theorem spelled_of_isWritten {token : Token} (h : token.lexeme.IsWritten token.raw) :
    token.Spelled := by
  intro word hword
  rw [hword] at h
  cases word <;> cases h with | word h => exact WordMeans.eq_text h

/-- No word means the end of the text. -/
theorem word_ne_endOfText {name : String} {lexeme : Lexeme} (h : Token.word name = .ok lexeme) :
    lexeme ≠ .endOfText := by
  rintro rfl
  unfold Token.word at h
  repeat' split at h
  all_goals cases h

/-- The token in front of a text is written as its meaning says. -/
theorem isWritten_of_lexemeAt {position : Nat} {c : Char} {rest tail : List Char}
    {lexeme : Lexeme} (h : lexemeAt position c rest = .ok (lexeme, tail)) :
    lexeme.IsWritten (String.ofList (c :: tail)) := by
  unfold lexemeAt at h
  split at h
  next =>
    cases h
    exact .number _ _
  split at h
  next =>
    split at h
    · cases h
    · cases h
      exact .string _ _
  split at h
  next =>
    obtain ⟨lexeme, hword, heq⟩ := map_eq_ok.mp h
    cases heq
    exact .word (word_eq_ok_iff.mp hword)
  split at h
  next hparen =>
    cases h
    exact hparen ▸ .leftParen
  split at h
  next hparen =>
    cases h
    exact hparen ▸ .rightParen
  split at h
  next spelling symbol hfound =>
    cases h
    obtain ⟨tail, rfl, hsign, -⟩ := Symbol.exists_sign_of_ofPrefix? hfound
    rw [List.tail_cons, ← hsign, String.ofList_toList]
    exact .sign symbol
  next => cases h

/-- What is in front of a text is never its end. -/
theorem lexemeAt_ne_endOfText {position : Nat} {c : Char} {rest tail : List Char}
    {lexeme : Lexeme} (h : lexemeAt position c rest = .ok (lexeme, tail)) :
    lexeme ≠ .endOfText := by
  rintro rfl
  unfold lexemeAt at h
  split at h
  next => cases h
  split at h
  next => split at h <;> cases h
  split at h
  next =>
    obtain ⟨lexeme, hword, heq⟩ := map_eq_ok.mp h
    cases heq
    exact word_ne_endOfText hword rfl
  split at h
  next => cases h
  split at h
  next => cases h
  split at h <;> cases h

/-- Every token is written as its meaning says, wherever the text starts. -/
theorem forall_isWritten_of_scan {position : Nat} {cs : List Char} {tokens : List Token}
    (h : scan position cs = .ok tokens) : ∀ token ∈ tokens, token.lexeme.IsWritten token.raw := by
  fun_induction scan position cs generalizing tokens with
  | case1 position =>
    cases h
    exact List.forall_mem_singleton.mpr .endOfText
  | case2 position c rest hblank ih => exact ih h
  | case3 => cases h
  | case4 => cases h
  | case5 position c rest hblank lexeme tail hlexeme more hmore ih =>
    cases h
    exact List.forall_mem_cons.mpr ⟨isWritten_of_lexemeAt hlexeme, ih hmore⟩

/-- The last token is the end of the text and no other is, wherever the text starts. -/
theorem eq_append_end_of_scan {position : Nat} {cs : List Char} {tokens : List Token}
    (h : scan position cs = .ok tokens) :
    ∃ body finish, tokens = body ++ [finish] ∧ finish.lexeme = .endOfText ∧
      ∀ token ∈ body, token.lexeme ≠ .endOfText := by
  fun_induction scan position cs generalizing tokens with
  | case1 position =>
    cases h
    exact ⟨[], _, rfl, rfl, fun token htoken => nomatch htoken⟩
  | case2 position c rest hblank ih => exact ih h
  | case3 => cases h
  | case4 => cases h
  | case5 position c rest hblank lexeme tail hlexeme more hmore ih =>
    cases h
    obtain ⟨body, finish, rfl, hfinish, hbody⟩ := ih hmore
    refine ⟨_ :: body, finish, rfl, hfinish, fun token htoken => ?_⟩
    rcases List.mem_cons.mp htoken with rfl | htoken
    · exact lexemeAt_ne_endOfText hlexeme
    · exact hbody token htoken

/-- Every token of a text is written as its meaning says. -/
theorem forall_isWritten_of_tokenize {source : String} {tokens : List Token}
    (h : tokenize source = .ok tokens) : ∀ token ∈ tokens, token.lexeme.IsWritten token.raw :=
  forall_isWritten_of_scan h

/-- Every word of a text is written as the name that it stands for, and no such name is denied. -/
theorem forall_spelled_of_tokenize {source : String} {tokens : List Token}
    (h : tokenize source = .ok tokens) : ∀ token ∈ tokens, token.Spelled :=
  fun token htoken => spelled_of_isWritten (forall_isWritten_of_tokenize h token htoken)

/-- The last token of a text is its end, and no other token is. -/
theorem eq_append_end_of_tokenize {source : String} {tokens : List Token}
    (h : tokenize source = .ok tokens) :
    ∃ body finish, tokens = body ++ [finish] ∧ finish.lexeme = .endOfText ∧
      ∀ token ∈ body, token.lexeme ≠ .endOfText :=
  eq_append_end_of_scan h

end Token

end AgentFlow
