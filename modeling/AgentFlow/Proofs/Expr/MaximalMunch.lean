import AgentFlow.Proofs.Expr.Piece

/-!
# Texts cut into tokens

Nothing of a text is lost when it is cut into tokens. Every token is a slice of the text, at the
byte that its position names, and the token in front of what follows there. The slices come one
behind the other, and what is in none of them is white space (`Covers`).

A text that is refused is covered up to some point in the same way, and at that point there is no
token, for the reason that the error gives (`tokenize_covers`).
-/

namespace AgentFlow

namespace Token

/-! ## Bytes -/

@[simp]
theorem byteSize_nil : byteSize [] = 0 := rfl

@[simp]
theorem byteSize_cons (c : Char) (cs : List Char) :
    byteSize (c :: cs) = c.utf8Size + byteSize cs := by
  have hfoldl : ∀ n, cs.foldl (fun size c => size + c.utf8Size) n = n + byteSize cs := by
    intro n
    rw [byteSize]
    induction cs generalizing n with
    | nil => rfl
    | cons d cs ih =>
      rw [List.foldl_cons, List.foldl_cons, ih, ih (0 + d.utf8Size)]
      omega
  rw [byteSize, List.foldl_cons, hfoldl]
  omega

/-- The bytes of a text are those of its parts. -/
@[simp]
theorem byteSize_append (cs ds : List Char) : byteSize (cs ++ ds) = byteSize cs + byteSize ds := by
  induction cs with
  | nil => simp
  | cons c cs ih =>
    rw [List.cons_append, byteSize_cons, byteSize_cons, ih]
    omega

/-- The lexer counts the bytes of UTF-8. -/
theorem utf8ByteSize_ofList (cs : List Char) : (String.ofList cs).utf8ByteSize = byteSize cs := by
  induction cs with
  | nil => rfl
  | cons c cs ih =>
    rw [String.ofList_cons, String.utf8ByteSize_append, String.utf8ByteSize_singleton, ih,
      byteSize_cons]

/-- The byte behind a token. -/
def stop (token : Token) : Nat :=
  token.position + token.raw.utf8ByteSize

/-! ## Covered texts -/

/-- The tokens of `before`, which starts at byte `start` of a text and is followed by `rest`. -/
structure Covers (start : Nat) (before rest : List Char) (tokens : List Token) : Prop where
  /-- Every token is a slice, and the token in front of what follows there. -/
  slice : ∀ token ∈ tokens, token.raw ≠ "" ∧ ∃ front behind,
    before = front ++ (token.raw.toList ++ behind) ∧
      token.position = start + (String.ofList front).utf8ByteSize ∧
      InFront (token.raw.toList ++ (behind ++ rest)) token.raw.toList token.lexeme
  /-- No token starts in front of the end of another one. -/
  ordered : tokens.Pairwise fun a b => a.stop ≤ b.position
  /-- A character is white space, or within a token. -/
  blank : ∀ front c behind, before = front ++ c :: behind → IsWhiteSpace c ∨
    ∃ token ∈ tokens, token.position ≤ start + (String.ofList front).utf8ByteSize ∧
      start + (String.ofList front).utf8ByteSize + c.utf8Size ≤ token.stop

variable {start : Nat} {before rest raw : List Char} {tokens : List Token} {lexeme : Lexeme}

theorem Covers.nil (start : Nat) (rest : List Char) : Covers start [] rest [] where
  slice := fun _ htoken => nomatch htoken
  ordered := .nil
  blank := fun front _ _ heq => by simp at heq

/-- No token starts in front of the covered part. -/
theorem Covers.le_position (h : Covers start before rest tokens) :
    ∀ token ∈ tokens, start ≤ token.position := by
  intro token htoken
  obtain ⟨-, front, behind, -, hposition, -⟩ := h.slice token htoken
  omega

/-- White space in front is in no token. -/
theorem Covers.cons_of_isWhiteSpace {c : Char} (hc : IsWhiteSpace c)
    (h : Covers (start + c.utf8Size) before rest tokens) :
    Covers start (c :: before) rest tokens where
  slice := by
    intro token htoken
    obtain ⟨hne, front, behind, rfl, hposition, hfront⟩ := h.slice token htoken
    refine ⟨hne, c :: front, behind, rfl, ?_, hfront⟩
    rw [utf8ByteSize_ofList] at hposition ⊢
    rw [byteSize_cons]
    omega
  ordered := h.ordered
  blank := by
    intro front d behind heq
    cases front with
    | nil =>
      cases heq
      exact .inl hc
    | cons _ front =>
      cases heq
      have hblank := h.blank front d behind rfl
      rw [utf8ByteSize_ofList] at hblank ⊢
      rwa [byteSize_cons, ← Nat.add_assoc]

/-- The token in front of a text covers its characters. -/
theorem Covers.cons_of_inFront (hne : raw ≠ [])
    (hfront : InFront (raw ++ (before ++ rest)) raw lexeme)
    (h : Covers (start + byteSize raw) before rest tokens) :
    Covers start (raw ++ before) rest (⟨lexeme, String.ofList raw, start⟩ :: tokens) where
  slice := by
    refine List.forall_mem_cons.mpr ⟨⟨?_, [], before, ?_, rfl, ?_⟩, fun token htoken => ?_⟩
    · intro hempty
      exact hne (by simpa using congrArg String.toList hempty)
    · rw [String.toList_ofList, List.nil_append]
    · rw [String.toList_ofList]
      exact hfront
    · obtain ⟨hne, front, behind, rfl, hposition, hfront⟩ := h.slice token htoken
      refine ⟨hne, raw ++ front, behind, (List.append_assoc _ _ _).symm, ?_, hfront⟩
      rw [utf8ByteSize_ofList] at hposition ⊢
      rw [byteSize_append]
      omega
  ordered := by
    refine List.pairwise_cons.mpr ⟨fun token htoken => ?_, h.ordered⟩
    rw [stop, utf8ByteSize_ofList]
    exact h.le_position token htoken
  blank := by
    intro front c behind heq
    rw [utf8ByteSize_ofList]
    have hbehind : ∀ more, before = more ++ c :: behind → IsWhiteSpace c ∨
        ∃ token ∈ (⟨lexeme, String.ofList raw, start⟩ :: tokens : List Token),
          token.position ≤ start + byteSize (raw ++ more) ∧
            start + byteSize (raw ++ more) + c.utf8Size ≤ token.stop := by
      intro more hbefore
      rw [byteSize_append, ← Nat.add_assoc]
      refine (h.blank more c behind hbefore).imp id ?_
      rw [utf8ByteSize_ofList]
      rintro ⟨token, htoken, hinside⟩
      exact ⟨token, List.mem_cons_of_mem _ htoken, hinside⟩
    -- The character stands behind the token in front, or in it.
    rcases List.append_eq_append_iff.mp heq with ⟨more, rfl, hbefore⟩ | ⟨more, rfl, hmore⟩
    · exact hbehind more hbefore
    · cases more with
      | nil => simpa using hbehind [] hmore.symm
      | cons d more =>
        cases hmore
        refine .inr ⟨_, List.mem_cons_self, Nat.le_add_right _ _, ?_⟩
        simp only [stop, utf8ByteSize_ofList, byteSize_append, byteSize_cons]
        omega

/-! ## The tokens of a text -/

/-- The tokens of a text cover it, and its end stands behind them. -/
theorem covers_of_scan {cs : List Char} (h : scan start cs = .ok tokens) :
    ∃ body, tokens = body ++ [⟨.endOfText, "", start + byteSize cs⟩] ∧
      Covers start cs [] body := by
  fun_induction scan start cs generalizing tokens with
  | case1 start =>
    cases h
    exact ⟨[], rfl, Covers.nil start []⟩
  | case2 start c rest hblank ih =>
    obtain ⟨body, rfl, hcovers⟩ := ih h
    refine ⟨body, ?_, hcovers.cons_of_isWhiteSpace (isWhiteSpace_iff.mpr hblank)⟩
    rw [byteSize_cons, Nat.add_assoc]
  | case3 => cases h
  | case4 => cases h
  | case5 start c rest hblank lexeme tail hlexeme more hmore ih =>
    cases h
    have hfront := inFront_of_lexemeAt hlexeme
    obtain ⟨behind, rfl⟩ := hfront.exists_append
    rw [List.drop_left] at ih hmore
    obtain ⟨body, rfl, hcovers⟩ := ih hmore
    refine ⟨⟨lexeme, String.ofList (c :: tail), start⟩ :: body, ?_, ?_⟩
    · have hsize : byteSize (c :: (tail ++ behind)) = byteSize (c :: tail) + byteSize behind :=
        byteSize_append (c :: tail) behind
      rw [hsize, ← Nat.add_assoc, List.cons_append]
    · refine hcovers.cons_of_inFront (List.cons_ne_nil c tail) ?_
      rwa [List.append_nil]

/-- A text that is refused is covered up to where the error is. -/
theorem refused_of_scan {cs : List Char} {e : ExprError} (h : scan start cs = .error e) :
    ∃ before rest tokens, cs = before ++ rest ∧ Covers start before rest tokens ∧
      Refused (start + byteSize before) rest e := by
  fun_induction scan start cs with
  | case1 => cases h
  | case2 start c rest hblank ih =>
    obtain ⟨before, rest, tokens, rfl, hcovers, hrefused⟩ := ih h
    refine ⟨c :: before, rest, tokens, rfl,
      hcovers.cons_of_isWhiteSpace (isWhiteSpace_iff.mpr hblank), ?_⟩
    rwa [byteSize_cons, ← Nat.add_assoc]
  | case3 start c rest hblank e' hlexeme =>
    cases h
    have hrefused := refused_of_lexemeAt (Bool.eq_false_iff.mpr hblank) hlexeme
    exact ⟨[], c :: rest, [], rfl, Covers.nil start _, hrefused⟩
  | case4 start c rest hblank lexeme tail hlexeme e' hmore ih =>
    cases h
    have hfront := inFront_of_lexemeAt hlexeme
    obtain ⟨behind, rfl⟩ := hfront.exists_append
    rw [List.drop_left] at ih hmore
    obtain ⟨before, rest, tokens, rfl, hcovers, hrefused⟩ := ih hmore
    refine ⟨c :: tail ++ before, rest, _, (List.append_assoc (c :: tail) before rest).symm,
      hcovers.cons_of_inFront (List.cons_ne_nil c tail) hfront, ?_⟩
    rwa [byteSize_append, ← Nat.add_assoc]
  | case5 => cases h

/-- Nothing of a text is lost: its tokens cover it, and its end comes last. A text that is refused
is covered up to a point where there is no token. -/
theorem tokenize_covers (source : String) :
    match tokenize source with
    | .ok tokens => ∃ body, tokens = body ++ [⟨.endOfText, "", source.utf8ByteSize⟩] ∧
        (∀ token ∈ body, token.lexeme ≠ .endOfText) ∧ Covers 0 source.toList [] body
    | .error e => ∃ before rest tokens, source.toList = before ++ rest ∧
        Covers 0 before rest tokens ∧ Refused (String.ofList before).utf8ByteSize rest e ∧
        ∀ raw lexeme, ¬ InFront rest raw lexeme := by
  split
  next tokens htokens =>
    obtain ⟨body, rfl, hcovers⟩ := covers_of_scan htokens
    refine ⟨body, ?_, fun token htoken => ?_, hcovers⟩
    · rw [Nat.zero_add, ← utf8ByteSize_ofList, String.ofList_toList]
    · obtain ⟨-, front, behind, -, -, hfront⟩ := hcovers.slice token htoken
      exact hfront.ne_endOfText
  next e he =>
    obtain ⟨before, rest, tokens, hsource, hcovers, hrefused⟩ := refused_of_scan he
    rw [Nat.zero_add, ← utf8ByteSize_ofList] at hrefused
    exact ⟨before, rest, tokens, hsource, hcovers, hrefused, fun _ _ => hrefused.not_inFront⟩

/-- A point belongs to a number only in front of a digit. -/
example : (tokenize "1.5.a").map (·.map fun token => (token.raw, token.position)) =
    .ok [("1.5", 0), (".", 3), ("a", 4), ("", 5)] := by
  decide +kernel

end Token

end AgentFlow
