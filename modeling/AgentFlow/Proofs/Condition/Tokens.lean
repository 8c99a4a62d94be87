import AgentFlow.Proofs.Condition.Words
import AgentFlow.Proofs.Expr.Adjacency

/-!
# Words of conditions as tokens

The keywords and paths of shorthands as the scanner of expressions sees them, in a text that has
tokens and in which these can stand side by side. A keyword is one token, an operand or at most the
operator `not`. A path is one token for each segment and each dot, and an operand; its root can be
an operator, but then nothing may follow that a path goes on with (`reads_of_isPath_of_awaits`).
-/

namespace AgentFlow

open AgentFlow.Expr (Word)
open AgentFlow.Lexeme (Precedes)

namespace Token

/-- The tokens of a text that starts somewhere. -/
def Reads (cs : List Char) (lexemes : List Lexeme) : Prop :=
  ∃ position tokens, scan position cs = .ok tokens ∧ tokens.map Token.lexeme = lexemes

variable {rest : List Char} {lexemes : List Lexeme}

/-- The empty text has its end for its only token. -/
theorem Reads.eq_of_nil (h : Reads [] lexemes) : lexemes = [.endOfText] := by
  obtain ⟨position, tokens, hscan, rfl⟩ := h
  rw [scan.eq_def] at hscan
  cases hscan
  rfl

/-- Blanks in front add no tokens. -/
theorem Reads.of_blank {before : List Char} (hbefore : ∀ c ∈ before, Text.isBlank c = true)
    (h : Reads (before ++ rest) lexemes) : Reads rest lexemes := by
  induction before with
  | nil => exact h
  | cons c before ih =>
    obtain ⟨hc, hbefore⟩ := List.forall_mem_cons.mp hbefore
    obtain ⟨position, tokens, hscan, htokens⟩ := h
    rw [List.cons_append, scan_of_isBlank hc] at hscan
    exact ih hbefore ⟨_, tokens, hscan, htokens⟩

/-- The first token of a text, and the rest of it. -/
theorem Reads.of_cons {c : Char} (hblank : Text.isBlank c = false)
    (h : Reads (c :: rest) lexemes) :
    ∃ position lexeme tail behind, lexemeAt position c rest = .ok (lexeme, tail) ∧
      lexemes = lexeme :: behind ∧ Reads (rest.drop tail.length) behind := by
  obtain ⟨position, tokens, hscan, rfl⟩ := h
  rw [scan.eq_def] at hscan
  simp only [hblank, Bool.false_eq_true, if_false] at hscan
  split at hscan
  next => cases hscan
  next lexeme tail hlexeme =>
    split at hscan
    next => cases hscan
    next behind hbehind =>
      cases hscan
      exact ⟨position, lexeme, tail, _, hlexeme, rfl, _, behind, hbehind, rfl⟩

/-- A dot in front is a token of its own. -/
theorem Reads.of_dot (h : Reads ('.' :: rest) lexemes) :
    ∃ behind, lexemes = .symbol .dot :: behind ∧ Reads rest behind := by
  obtain ⟨position, lexeme, tail, behind, hlexeme, rfl, hbehind⟩ := h.of_cons rfl
  cases hlexeme
  exact ⟨behind, rfl, hbehind⟩

/-- What a word means by itself: an operand, or an operator that is written as a word. -/
theorem word_cases {name : String} {lexeme : Lexeme} (h : word name = .ok lexeme) :
    (∃ word : Word, lexeme = word.lexeme) ∨ name = "not" ∧ lexeme = .symbol .bang ∨
      name = "and" ∧ lexeme = .symbol (.op .and) ∨ name = "or" ∧ lexeme = .symbol (.op .or) := by
  unfold word at h
  split at h
  next => exact .inl ⟨.boolean true, (Except.ok.inj h).symm⟩
  split at h
  next => exact .inl ⟨.boolean false, (Except.ok.inj h).symm⟩
  split at h
  next => exact .inl ⟨.null, (Except.ok.inj h).symm⟩
  split at h
  next => exact .inl ⟨.undefined, (Except.ok.inj h).symm⟩
  split at h
  next hname => exact .inr (.inr (.inl ⟨hname, (Except.ok.inj h).symm⟩))
  split at h
  next hname => exact .inr (.inr (.inr ⟨hname, (Except.ok.inj h).symm⟩))
  split at h
  next hname => exact .inr (.inl ⟨hname, (Except.ok.inj h).symm⟩)
  split at h
  next => cases h
  next => exact .inl ⟨.identifier name, (Except.ok.inj h).symm⟩

end Token

open Token (Reads)

namespace Shorthand

variable {cs word rest : List Char} {lexemes : List Lexeme}

/-! ## Words as tokens -/

/-- No token starts with a foreign letter. -/
theorem not_isForeign_of_reads {c : Char} (h : Reads (c :: rest) lexemes) : ¬ IsForeign c := by
  rintro (rfl | rfl)
  · obtain ⟨position, lexeme, tail, behind, hlexeme, -⟩ := h.of_cons (by decide)
    cases hlexeme
  · obtain ⟨position, lexeme, tail, behind, hlexeme, -⟩ := h.of_cons (by decide)
    cases hlexeme

/-- A segment of a path that starts with no digit is one token, in a text that has tokens. -/
theorem reads_of_segment {c : Char} {tail : List Char} (hc : startsPath c = true)
    (htail : ∀ d ∈ tail, continuesPath d = true)
    (hrest : ∀ d ∈ rest.head?, continuesPath d = false)
    (h : Reads (c :: (tail ++ rest)) lexemes) :
    ∃ lexeme behind, lexemes = lexeme :: behind ∧
      Token.word (String.ofList (c :: tail)) = .ok lexeme ∧
      (∀ d ∈ c :: tail, Token.continuesWord d = true) ∧ Reads rest behind := by
  have hforeign := not_isForeign_of_reads h
  have hstart : Token.startsWord c = true := startsPath_of_not_isForeign hforeign ▸ hc
  have hquote := Token.not_quote_of_startsWord hstart
  obtain ⟨position, lexeme, read, behind, hlexeme, rfl, hbehind⟩ :=
    h.of_cons (Token.isBlank_of_startsWord hstart)
  simp only [Token.lexemeAt, Token.isDigit_of_startsWord hstart, hquote.1, hquote.2, hstart,
    Bool.false_eq_true, if_false, if_true, decide_false, Bool.or_false] at hlexeme
  obtain ⟨meant, hword, heq⟩ := map_eq_ok.mp hlexeme
  cases heq
  -- The word goes as far as the segment, since only a foreign letter could end it before.
  cases hdrop : tail.dropWhile Token.continuesWord with
  | nil =>
    have hall : ∀ d ∈ tail, Token.continuesWord d = true := List.dropWhile_eq_nil_iff.mp hdrop
    have hstop : ∀ d ∈ rest.head?, Token.continuesWord d = false := fun d hd =>
      Bool.eq_false_iff.mpr fun hword => by
        have hpath := hrest d hd
        rw [continuesPath_of_not_isForeign (not_isForeign_of_continuesWord hword), hword] at hpath
        cases hpath
    rw [(Token.takeWhile_append_of_head hall hstop).1] at hword hbehind
    rw [List.drop_left] at hbehind
    refine ⟨_, behind, rfl, hword, List.forall_mem_cons.mpr ⟨?_, hall⟩, hbehind⟩
    rw [continuesWord_eq, hstart, Bool.true_or]
  | cons d more =>
    have hd : Token.continuesWord d = false :=
      Token.eq_false_of_mem_head?_dropWhile d (Option.mem_def.mpr (congrArg List.head? hdrop))
    have hsplit : tail = tail.takeWhile Token.continuesWord ++ d :: more := by
      rw [← hdrop, List.takeWhile_append_dropWhile]
    have hrun : ∀ e ∈ tail.takeWhile Token.continuesWord, Token.continuesWord e = true :=
      fun e he => List.mem_takeWhile_imp he
    have hstop : ∀ e ∈ (d :: (more ++ rest)).head?, Token.continuesWord e = false := by
      rintro e ⟨⟩
      exact hd
    have hmem : d ∈ tail := hsplit ▸ List.mem_append_right _ List.mem_cons_self
    rw [hsplit, List.append_assoc, List.cons_append,
      (Token.takeWhile_append_of_head hrun hstop).1, List.drop_left] at hbehind
    have hpath := htail d hmem
    rw [continuesPath_of_not_isForeign (not_isForeign_of_reads hbehind), hd] at hpath
    cases hpath

/-- The words that make a shorthand. -/
def keywords : List String :=
  ["exists", "is", "not", "empty", "contains"]

/-- A keyword means a name by itself, unless it is the operator `not`. -/
theorem lexeme_of_isKeyword {keyword : String} (hkeyword : isKeyword keyword word = true)
    (hmem : keyword ∈ keywords) {lexeme : Lexeme}
    (hword : Token.word (String.ofList word) = .ok lexeme) :
    (∃ word : Word, lexeme = word.lexeme) ∨ keyword = "not" ∧ lexeme = .symbol .bang := by
  have hname : ∀ name, String.ofList word = name → name.toList.map fold = keyword.toList := by
    rintro name rfl
    rw [String.toList_ofList]
    exact of_decide_eq_true hkeyword
  have hnot : ∀ keyword ∈ keywords, keyword ≠ "not" →
      "not".toList.map fold ≠ keyword.toList := by decide
  have hand : ∀ keyword ∈ keywords, "and".toList.map fold ≠ keyword.toList := by decide
  have hor : ∀ keyword ∈ keywords, "or".toList.map fold ≠ keyword.toList := by decide
  rcases Token.word_cases hword with hplain | ⟨heq, rfl⟩ | ⟨heq, -⟩ | ⟨heq, -⟩
  · exact .inl hplain
  · by_cases hne : keyword = "not"
    · exact .inr ⟨hne, rfl⟩
    · exact absurd (hname _ heq) (hnot keyword hmem hne)
  · exact absurd (hname _ heq) (hand keyword hmem)
  · exact absurd (hname _ heq) (hor keyword hmem)

/-- A keyword is a token that stands behind no operand. But for `not`, it is an operand itself. -/
theorem reads_of_isKeyword {keyword : String} (hkeyword : isKeyword keyword word = true)
    (hmem : keyword ∈ keywords) (hrest : ∀ d ∈ rest.head?, Text.isBlank d = true)
    (h : Reads (word ++ rest) lexemes) :
    ∃ lexeme behind, lexemes = lexeme :: behind ∧ ¬ lexeme.Joins ∧
      (keyword ≠ "not" → lexeme.Closes) ∧ (∀ d ∈ word, Token.continuesWord d = true) ∧
      Reads rest behind := by
  have hletters : ∀ keyword ∈ keywords, keyword.toList.all Char.isAlpha = true := by decide
  have hstarts := startsPath_of_isKeyword hkeyword (List.all_eq_true.mp (hletters keyword hmem))
  cases word with
  | nil =>
    have hne : ∀ keyword ∈ keywords, [] ≠ keyword.toList := by decide
    exact absurd (of_decide_eq_true hkeyword) (hne keyword hmem)
  | cons c tail =>
    obtain ⟨hc, htail⟩ := List.forall_mem_cons.mp hstarts
    obtain ⟨lexeme, behind, hlexemes, hword, hascii, hbehind⟩ := reads_of_segment hc
      (fun d hd => Bool.or_eq_true_iff.mpr (.inl (htail d hd)))
      (fun d hd => continuesPath_of_isBlank (hrest d hd)) h
    rcases lexeme_of_isKeyword hkeyword hmem hword with ⟨name, rfl⟩ | ⟨hnot, rfl⟩
    · exact ⟨_, behind, hlexemes, name.not_joins, fun _ => name.closes, hascii, hbehind⟩
    · exact ⟨_, behind, hlexemes, id, fun hne => absurd hnot hne, hascii, hbehind⟩

/-! ## Paths as tokens -/

/-- Behind the root of a path comes a dot, a blank, or nothing. -/
theorem continuesPath_head_segments (more : List (List Char))
    (hrest : ∀ d ∈ rest.head?, Text.isBlank d = true) :
    ∀ d ∈ (more.flatMap (fun segment => '.' :: segment) ++ rest).head?,
      continuesPath d = false := by
  cases more with
  | nil => exact fun d hd => continuesPath_of_isBlank (hrest d hd)
  | cons segment more =>
    rintro d ⟨⟩
    decide

/-- The segments of a path behind its root are names behind dots: a path in an expression goes on
with operands only. -/
theorem reads_of_segments (hrest : ∀ d ∈ rest.head?, Text.isBlank d = true)
    {more : List (List Char)}
    (hmore : ∀ segment ∈ more, segment ≠ [] ∧ ∀ d ∈ segment, continuesPath d = true)
    {last : Lexeme} (hlast : last.Closes) (hchain : (last :: lexemes).IsChain Precedes)
    (h : Reads (more.flatMap (fun segment => '.' :: segment) ++ rest) lexemes) :
    ∃ last behind, Lexeme.Closes last ∧ (last :: behind).IsChain Precedes ∧
      Reads rest behind := by
  induction more generalizing last lexemes with
  | nil => exact ⟨last, lexemes, hlast, hchain, h⟩
  | cons segment more ih =>
    obtain ⟨⟨hne, hsegment⟩, hothers⟩ := List.forall_mem_cons.mp hmore
    rw [List.flatMap_cons, List.append_assoc, List.cons_append] at h
    obtain ⟨behind, rfl, hbehind⟩ := h.of_dot
    cases segment with
    | nil => exact absurd rfl hne
    | cons c tail =>
      obtain ⟨hc, htail⟩ := List.forall_mem_cons.mp hsegment
      have hdot := (List.isChain_cons_cons.mp hchain).2
      rcases Bool.or_eq_true_iff.mp hc with hstarts | hdigit
      · obtain ⟨lexeme, behind, rfl, -, -, hread⟩ :=
          reads_of_segment hstarts htail (continuesPath_head_segments more hrest) hbehind
        obtain ⟨hname, hchain⟩ := List.isChain_cons_cons.mp hdot
        obtain ⟨word, rfl⟩ := hname.names rfl
        exact ih hothers word.closes hchain hread
      · -- A segment that starts with a digit starts with a number, which is no name.
        obtain ⟨position, lexeme, tail, behind, hlexeme, rfl, -⟩ :=
          hbehind.of_cons (Token.isBlank_of_isDigit hdigit)
        rw [Token.lexemeAt, if_pos hdigit] at hlexeme
        cases hlexeme
        obtain ⟨word, hword⟩ := (List.isChain_cons_cons.mp hdot).1.names rfl
        cases word <;> cases hword

/-- Where an operand is due, there are no further segments: a dot starts no operand. -/
theorem eq_nil_of_reads_of_awaits {more : List (List Char)}
    (h : Reads (more.flatMap (fun segment => '.' :: segment) ++ rest) lexemes)
    {before : Lexeme} (hbefore : before.Awaits) (hchain : (before :: lexemes).IsChain Precedes) :
    more = [] := by
  cases more with
  | nil => rfl
  | cons segment more =>
    rw [List.flatMap_cons, List.append_assoc, List.cons_append] at h
    obtain ⟨behind, rfl, -⟩ := h.of_dot
    exact ((List.isChain_cons_cons.mp hchain).1.opens hbefore).elim

/-- The root of a path is one token. -/
theorem reads_of_isPath (hpath : isPath word = true)
    (hrest : ∀ d ∈ rest.head?, Text.isBlank d = true) (h : Reads (word ++ rest) lexemes) :
    ∃ (root : List Char) (more : List (List Char)) (first : Lexeme) (behind : List Lexeme),
      word = root ++ more.flatMap (fun segment => '.' :: segment) ∧
      (∀ segment ∈ more, segment ≠ [] ∧ ∀ d ∈ segment, continuesPath d = true) ∧
      lexemes = first :: behind ∧ Token.word (String.ofList root) = .ok first ∧
      Reads (more.flatMap (fun segment => '.' :: segment) ++ rest) behind := by
  obtain ⟨c, root, more, rfl, hc, hroot, hmore⟩ := exists_segments_of_isPath hpath
  rw [List.append_assoc, List.cons_append] at h
  obtain ⟨first, behind, hlexemes, hword, -, hbehind⟩ :=
    reads_of_segment hc hroot (continuesPath_head_segments more hrest) h
  exact ⟨c :: root, more, first, behind, rfl, hmore, hlexemes, hword, hbehind⟩

/-- A path where an operand is due is one, or the prefix operator `not`. -/
theorem reads_of_isPath_of_awaits (hpath : isPath word = true)
    (hrest : ∀ d ∈ rest.head?, Text.isBlank d = true) (h : Reads (word ++ rest) lexemes)
    {before : Lexeme} (hbefore : before.Awaits) (hchain : (before :: lexemes).IsChain Precedes) :
    ∃ last behind, (Lexeme.Closes last ∨ word = "not".toList ∧ last = .symbol .bang) ∧
      (last :: behind).IsChain Precedes ∧ Reads rest behind := by
  obtain ⟨root, more, first, behind, rfl, hmore, rfl, hfirst, hbehind⟩ :=
    reads_of_isPath hpath hrest h
  obtain ⟨hopens, hchain⟩ := List.isChain_cons_cons.mp hchain
  rcases Token.word_cases hfirst with ⟨word, rfl⟩ | ⟨hnot, rfl⟩ | ⟨-, rfl⟩ | ⟨-, rfl⟩
  · obtain ⟨last, behind, hlast, hchain, hread⟩ :=
      reads_of_segments hrest hmore word.closes hchain hbehind
    exact ⟨last, behind, .inl hlast, hchain, hread⟩
  · obtain rfl := eq_nil_of_reads_of_awaits hbehind Lexeme.awaits_bang hchain
    refine ⟨_, behind, .inr ⟨?_, rfl⟩, hchain, hbehind⟩
    rw [List.flatMap_nil, List.append_nil, ← hnot, String.toList_ofList]
  · cases hopens.opens hbefore
  · cases hopens.opens hbefore

/-- No path ends a text behind an operand. Only an operator could stand there, and that would await
another operand. -/
theorem not_reads_of_isPath_of_closes (hpath : isPath word = true)
    (hrest : ∀ d ∈ rest, Text.isBlank d = true) (h : Reads (word ++ rest) lexemes)
    {before : Lexeme} (hbefore : before.Closes) :
    ¬ (before :: lexemes).IsChain Precedes := by
  intro hchain
  have hhead : ∀ d ∈ rest.head?, Text.isBlank d = true :=
    fun d hd => hrest d (List.mem_of_mem_head? hd)
  obtain ⟨root, more, first, behind, rfl, -, rfl, hfirst, hbehind⟩ :=
    reads_of_isPath hpath hhead h
  obtain ⟨hjoins, hchain⟩ := List.isChain_cons_cons.mp hchain
  have hfirstJoins := hjoins.joins hbefore
  have hop : ∃ op, first = .symbol (.op op) := by
    rcases Token.word_cases hfirst with ⟨word, rfl⟩ | ⟨-, rfl⟩ | ⟨-, rfl⟩ | ⟨-, rfl⟩
    · exact absurd hfirstJoins word.not_joins
    · exact hfirstJoins.elim
    · exact ⟨_, rfl⟩
    · exact ⟨_, rfl⟩
  obtain ⟨op, rfl⟩ := hop
  obtain rfl := eq_nil_of_reads_of_awaits hbehind (Lexeme.awaits_op op) hchain
  rw [List.flatMap_nil, List.nil_append, ← List.append_nil rest] at hbehind
  obtain rfl := (hbehind.of_blank hrest).eq_of_nil
  exact ((List.isChain_cons_cons.mp hchain).1.opens (Lexeme.awaits_op op)).elim

/-- The tokens of a text are those from its first word on. -/
theorem Cuts.reads (hcuts : Cuts cs word rest) (h : Reads cs lexemes) :
    Reads (word ++ rest) lexemes := by
  obtain ⟨before, hbefore, rfl⟩ := hcuts.eq
  exact h.of_blank hbefore

end Shorthand

end AgentFlow
