import AgentFlow.Proofs.Expr.Tokens
import Mathlib.Data.List.TakeWhile

/-!
# Texts of given tokens

How to write a text that has given tokens: characters that are cut off as one token, in front of a
text that has the other tokens. What has to stand behind a token for it to end there depends on the
token: nothing in particular behind a parenthesis or a text in quotes, no more of a word behind a
word. A blank behind a token keeps it apart from whatever comes next.
-/

namespace AgentFlow

namespace Token

/-- A text has these tokens, wherever it starts. -/
def Scans (cs : List Char) (lexemes : List Lexeme) : Prop :=
  ∀ position, ∃ tokens, scan position cs = .ok tokens ∧ tokens.map Token.lexeme = lexemes

/-- In front of a blank, these characters are cut off as a token with this meaning. -/
def IsSpelling (spelling : List Char) (lexeme : Lexeme) : Prop :=
  ∃ c tail, spelling = c :: tail ∧ Text.isBlank c = false ∧
    ∀ position rest, lexemeAt position c (tail ++ ' ' :: rest) = .ok (lexeme, tail)

/-! ## One token in front of others -/

theorem scans_nil : Scans [] [.endOfText] :=
  fun position => ⟨[⟨.endOfText, "", position⟩], by rw [scan.eq_def], rfl⟩

theorem scan_of_isBlank {c : Char} (h : Text.isBlank c = true) (position : Nat)
    (rest : List Char) : scan position (c :: rest) = scan (position + c.utf8Size) rest := by
  rw [scan.eq_def]
  exact if_pos h

section

variable {rest : List Char} {lexemes : List Lexeme}

/-- A blank is no token. -/
theorem Scans.blank {c : Char} (hblank : Text.isBlank c = true) (h : Scans rest lexemes) :
    Scans (c :: rest) lexemes := by
  intro position
  rw [scan_of_isBlank hblank]
  exact h _

/-- Blanks are no tokens. -/
theorem Scans.blanks {before : List Char} (hbefore : ∀ c ∈ before, Text.isBlank c = true)
    (h : Scans rest lexemes) : Scans (before ++ rest) lexemes := by
  induction before with
  | nil => exact h
  | cons c before ih =>
    obtain ⟨hc, hbefore⟩ := List.forall_mem_cons.mp hbefore
    exact (ih hbefore).blank hc

/-- Characters that are cut off as a token are one token in front of those that follow. -/
theorem Scans.cons {c : Char} (tail : List Char) {lexeme : Lexeme}
    (hblank : Text.isBlank c = false)
    (hlexeme : ∀ position, lexemeAt position c (tail ++ rest) = .ok (lexeme, tail))
    (h : Scans rest lexemes) : Scans (c :: tail ++ rest) (lexeme :: lexemes) := by
  intro position
  have hdrop : (tail ++ rest).drop tail.length = rest := List.drop_left
  obtain ⟨tokens, hscan, hlexemes⟩ := h (position + byteSize (c :: tail))
  refine ⟨⟨lexeme, String.ofList (c :: tail), position⟩ :: tokens, ?_, ?_⟩
  · rw [List.cons_append, scan.eq_def]
    simp only [hblank, Bool.false_eq_true, if_false, hlexeme, hdrop, hscan]
  · rw [List.map_cons, hlexemes]

/-- A spelling and a blank behind it are one token in front of those that follow. -/
theorem Scans.spelling {spelling : List Char} {lexeme : Lexeme}
    (hspelling : IsSpelling spelling lexeme) (h : Scans rest lexemes) :
    Scans (spelling ++ ' ' :: rest) (lexeme :: lexemes) := by
  obtain ⟨c, tail, rfl, hblank, hlexeme⟩ := hspelling
  exact Scans.cons tail hblank (fun position => hlexeme position rest) (h.blank rfl)

end

/-! ## Symbols -/

/-- Operators are spelled by their signs. -/
theorem isSpelling_symbol (symbol : Symbol) :
    IsSpelling symbol.text.toList (.symbol symbol) := by
  rcases symbol with op | - | -
  · cases op <;> exact ⟨_, _, rfl, rfl, fun _ _ => rfl⟩
  · exact ⟨_, _, rfl, rfl, fun _ _ => rfl⟩
  · exact ⟨_, _, rfl, rfl, fun _ _ => rfl⟩

theorem isSpelling_leftParen : IsSpelling ['('] .leftParen :=
  ⟨_, _, rfl, rfl, fun _ _ => rfl⟩

theorem isSpelling_rightParen : IsSpelling [')'] .rightParen :=
  ⟨_, _, rfl, rfl, fun _ _ => rfl⟩

/-- A variable with the shortest of names. -/
theorem isSpelling_a : IsSpelling ['a'] (.identifier "a") :=
  ⟨_, _, rfl, rfl, fun _ _ => rfl⟩

section

variable {rest : List Char} {lexemes : List Lexeme}

theorem Scans.leftParen (h : Scans rest lexemes) : Scans ('(' :: rest) (.leftParen :: lexemes) :=
  Scans.cons [] rfl (fun _ => rfl) h

theorem Scans.rightParen (h : Scans rest lexemes) : Scans (')' :: rest) (.rightParen :: lexemes) :=
  Scans.cons [] rfl (fun _ => rfl) h

theorem Scans.dot (h : Scans rest lexemes) : Scans ('.' :: rest) (.symbol .dot :: lexemes) :=
  Scans.cons [] rfl (fun _ => rfl) h

/-- An exclamation mark is a token of its own unless an inequality sign starts with it. -/
theorem lexemeAt_bang (position : Nat) (hrest : rest.head? ≠ some '=') :
    lexemeAt position '!' rest = .ok (.symbol .bang, []) := by
  have hfound : Symbol.ofPrefix? ('!' :: rest) = some (['!'], .bang) := by
    cases rest with
    | nil => rfl
    | cons c rest =>
      have hne : ('=' == c) = false := beq_eq_false_iff_ne.mpr fun heq => hrest (heq ▸ rfl)
      simp [Symbol.ofPrefix?, Symbol.spellings, List.isPrefixOf, hne]
  unfold lexemeAt
  rw [hfound]
  rfl

/-- A prefix operator is a token of its own, unless an inequality sign starts with it. -/
theorem Scans.sign (op : UnaryOp) (hrest : rest.head? ≠ some '=') (h : Scans rest lexemes) :
    Scans (op.symbol.toList ++ rest) (Expr.signLexeme op :: lexemes) := by
  cases op with
  | not => exact Scans.cons [] rfl (fun position => lexemeAt_bang position hrest) h
  | neg => exact Scans.cons [] rfl (fun _ => rfl) h

end

/-! ## Words -/

/-- A name that is a word: a character that starts one, then characters that continue it. -/
def isIdentifier (name : String) : Bool :=
  match name.toList with
  | [] => false
  | c :: tail => IsWordStart c && tail.all (IsWordPart ·)

/-- The lexer takes a name for a word. -/
theorem exists_cons_of_isIdentifier {name : String} (h : isIdentifier name = true) :
    ∃ c tail, name.toList = c :: tail ∧ startsWord c = true ∧
      ∀ d ∈ tail, continuesWord d = true := by
  unfold isIdentifier at h
  split at h
  next => cases h
  next c tail hcs =>
    simp only [Bool.and_eq_true, List.all_eq_true, decide_eq_true_iff, isWordStart_iff,
      isWordPart_iff] at h
    exact ⟨c, tail, hcs, h⟩

/-- A blank is no printable character of ASCII. -/
theorem range_of_isBlank {c : Char} (h : Text.isBlank c = true) :
    c.toNat ≤ 0x20 ∨ 0x85 ≤ c.toNat := by
  simp only [Text.isBlank, Bool.or_eq_true, Bool.and_eq_true, decide_eq_true_eq, beq_iff_eq,
    UInt32.le_iff_toNat_le, ← UInt32.toNat_inj] at h
  simp only [Char.toNat, UInt32.reduceToNat] at h ⊢
  omega

theorem range_of_startsWord {c : Char} (h : startsWord c = true) :
    c.toNat = 0x24 ∨ 0x41 ≤ c.toNat ∧ c.toNat ≤ 0x7A := by
  have halpha : c.isAlpha =
      (decide ('A'.val ≤ c.val ∧ c.val ≤ 'Z'.val) ||
        (decide ('a'.val ≤ c.val) && decide (c.val ≤ 'z'.val))) := rfl
  simp [startsWord, halpha, Char.ext_iff, UInt32.le_iff_toNat_le, ← UInt32.toNat_inj] at h
  omega

theorem range_of_isDigit {c : Char} (h : c.isDigit = true) :
    0x30 ≤ c.toNat ∧ c.toNat ≤ 0x39 := by
  simpa [Char.isDigit, UInt32.le_iff_toNat_le] using h

/-- No word starts with a blank. -/
theorem isBlank_of_startsWord {c : Char} (h : startsWord c = true) : Text.isBlank c = false := by
  refine Bool.eq_false_iff.mpr fun hblank => ?_
  have hword := range_of_startsWord h
  have hrange := range_of_isBlank hblank
  omega

/-- No digit is blank. -/
theorem isBlank_of_isDigit {c : Char} (h : c.isDigit = true) : Text.isBlank c = false := by
  refine Bool.eq_false_iff.mpr fun hblank => ?_
  have hdigit := range_of_isDigit h
  have hrange := range_of_isBlank hblank
  omega

/-- No word starts with a digit. -/
theorem isDigit_of_startsWord {c : Char} (h : startsWord c = true) : c.isDigit = false := by
  refine Bool.eq_false_iff.mpr fun hdigit => ?_
  have hword := range_of_startsWord h
  have hrange := range_of_isDigit hdigit
  omega

/-- No word starts with a quote. -/
theorem not_quote_of_startsWord {c : Char} (h : startsWord c = true) : c ≠ '"' ∧ c ≠ '\'' := by
  constructor
  · rintro rfl
    exact absurd h (by decide)
  · rintro rfl
    exact absurd h (by decide)

/-- What stops a run of characters of a kind is not of that kind. -/
theorem eq_false_of_mem_head?_dropWhile {p : Char → Bool} {cs : List Char} :
    ∀ c ∈ (cs.dropWhile p).head?, p c = false := by
  intro c hc
  have hhead := List.head?_dropWhile_not p cs
  rw [Option.mem_def.mp hc] at hhead
  exact hhead

/-- A run of characters of a kind, as far as it goes, is all of it if what comes next is not of that
kind. -/
theorem takeWhile_append_of_head {p : Char → Bool} {run rest : List Char}
    (hrun : ∀ c ∈ run, p c = true) (hrest : ∀ c ∈ rest.head?, p c = false) :
    (run ++ rest).takeWhile p = run ∧ (run ++ rest).dropWhile p = rest := by
  rw [List.takeWhile_append_of_pos hrun, List.dropWhile_append_of_pos hrun]
  cases rest with
  | nil => simp
  | cons c rest =>
    have hc : ¬ p c = true := Bool.eq_false_iff.mp (hrest c rfl)
    rw [List.takeWhile_cons_of_neg hc, List.dropWhile_cons_of_neg hc]
    exact ⟨List.append_nil run, rfl⟩

section

variable {rest : List Char} {lexemes : List Lexeme}

/-- A word ends where no more of a word follows. -/
theorem Scans.word {name : String} {lexeme : Lexeme} (hname : isIdentifier name = true)
    (hword : word name = .ok lexeme) (hrest : ∀ c ∈ rest.head?, continuesWord c = false)
    (h : Scans rest lexemes) : Scans (name.toList ++ rest) (lexeme :: lexemes) := by
  obtain ⟨c, tail, hcs, hstart, htail⟩ := exists_cons_of_isIdentifier hname
  have hofList : String.ofList (c :: tail) = name := by rw [← hcs, String.ofList_toList]
  have hquote := not_quote_of_startsWord hstart
  rw [hcs]
  refine Scans.cons tail (isBlank_of_startsWord hstart) (fun position => ?_) h
  simp [lexemeAt, isDigit_of_startsWord hstart, hquote.1, hquote.2, hstart,
    (takeWhile_append_of_head htail hrest).1, hofList, hword, Except.map]

/-! ## Texts in quotes -/

/-- Escapes the quote and the backslash; all other characters stand for themselves. -/
def escape (text : List Char) : List Char :=
  text.flatMap fun c => if c = '\\' ∨ c = '\'' then ['\\', c] else [c]

/-- Up to the closing quote, an escaped text is read back as it was. -/
theorem quoted?_escape (text rest : List Char) :
    quoted? '\'' (escape text ++ '\'' :: rest) = some (text, escape text ++ ['\'']) := by
  induction text with
  | nil =>
    show quoted? '\'' ('\'' :: rest) = some ([], ['\''])
    rw [quoted?.eq_def]
    exact if_pos rfl
  | cons c text ih =>
    rw [escape, List.flatMap_cons, ← escape]
    by_cases hc : c = '\\' ∨ c = '\''
    · have hunescape : unescape c = c := by rcases hc with rfl | rfl <;> rfl
      rw [if_pos hc, List.append_assoc, List.cons_append, List.cons_append, List.nil_append,
        quoted?.eq_def]
      simp [ih, hunescape]
    · have hquote : ¬ c = '\'' := fun heq => hc (.inr heq)
      have hbackslash : ¬ c = '\\' := fun heq => hc (.inl heq)
      rw [if_neg hc, List.append_assoc, List.singleton_append, quoted?.eq_def]
      simp [hquote, hbackslash, ih]

/-- An escaped text in quotes is one token. -/
theorem Scans.quoted (text : List Char) (h : Scans rest lexemes) :
    Scans ('\'' :: (escape text ++ ['\'']) ++ rest) (.string (String.ofList text) :: lexemes) := by
  refine Scans.cons _ rfl (fun position => ?_) h
  have hquoted := quoted?_escape text rest
  rw [List.append_assoc, List.singleton_append]
  simp [lexemeAt, hquoted]

end

/-! ## Numbers -/

/-- Digits, and perhaps a point with digits behind it. -/
inductive IsNumeral : List Char → Prop where
  | whole {d : Char} {digits : List Char} (hd : d.isDigit = true)
      (hdigits : ∀ c ∈ digits, c.isDigit = true) : IsNumeral (d :: digits)
  | point {d e : Char} {digits fraction : List Char} (hd : d.isDigit = true)
      (hdigits : ∀ c ∈ digits, c.isDigit = true) (he : e.isDigit = true)
      (hfraction : ∀ c ∈ fraction, c.isDigit = true) :
      IsNumeral (d :: (digits ++ '.' :: e :: fraction))

theorem IsNumeral.exists_cons {digits : List Char} (h : IsNumeral digits) :
    ∃ d tail, digits = d :: tail ∧ d.isDigit = true := by
  cases h with
  | whole hd => exact ⟨_, _, rfl, hd⟩
  | point hd => exact ⟨_, _, rfl, hd⟩

section

variable {rest : List Char} {lexemes : List Lexeme}

/-- A numeral is read up to its end if neither a digit nor a point follows. -/
theorem numberTail_append {d : Char} {tail : List Char} (h : IsNumeral (d :: tail))
    (hdigit : ∀ c ∈ rest.head?, c.isDigit = false) (hpoint : rest.head? ≠ some '.') :
    numberTail (tail ++ rest) = tail := by
  unfold numberTail
  cases h with
  | whole hd hdigits =>
    obtain ⟨htake, hdrop⟩ := takeWhile_append_of_head hdigits hdigit
    rw [htake, hdrop]
    split
    next e more => exact absurd rfl hpoint
    next => rfl
  | @point _ e digits fraction hd hdigits he hfraction =>
    have hstop : ∀ c ∈ ('.' :: e :: (fraction ++ rest)).head?, c.isDigit = false := by
      rintro c ⟨⟩
      rfl
    obtain ⟨htake, hdrop⟩ := takeWhile_append_of_head hdigits hstop
    have hfractionTail := (takeWhile_append_of_head hfraction hdigit).1
    rw [List.append_assoc, List.cons_append, List.cons_append, htake, hdrop]
    simp only [he, if_true, hfractionTail]

/-- A number ends where neither a digit nor a point follows. -/
theorem Scans.number {digits : List Char} {x : Float} (hdigits : IsNumeral digits)
    (hx : Numeral.decimal? digits = some x) (hdigit : ∀ c ∈ rest.head?, c.isDigit = false)
    (hpoint : rest.head? ≠ some '.') (h : Scans rest lexemes) :
    Scans (digits ++ rest) (.number x :: lexemes) := by
  obtain ⟨d, tail, rfl, hd⟩ := hdigits.exists_cons
  refine Scans.cons tail (isBlank_of_isDigit hd) (fun position => ?_) h
  simp [lexemeAt, hd, numberTail_append hdigits hdigit hpoint, hx]

end

/-- A digit is no sign. -/
theorem splitSign_of_isDigit {d : Char} (tail : List Char) (hd : d.isDigit = true) :
    Numeral.splitSign (d :: tail) = (false, d :: tail) := by
  unfold Numeral.splitSign
  split
  next heq =>
    cases heq
    exact absurd hd (by decide)
  next heq =>
    cases heq
    exact absurd hd (by decide)
  next => rfl

/-- Every numeral has a value. -/
theorem exists_decimal?_of_isNumeral {digits : List Char} (h : IsNumeral digits) :
    ∃ x, Numeral.decimal? digits = some x := by
  cases h with
  | @whole d digits hd hdigits =>
    have hall : ∀ c ∈ d :: digits, c.isDigit = true := List.forall_mem_cons.mpr ⟨hd, hdigits⟩
    have htake := List.takeWhile_eq_self_iff.mpr hall
    have hdrop := List.dropWhile_eq_nil_iff.mpr hall
    simp [Numeral.decimal?, splitSign_of_isDigit digits hd, htake, hdrop, Numeral.exponent?]
  | @point d e digits fraction hd hdigits he hfraction =>
    have hall : ∀ c ∈ d :: digits, c.isDigit = true := List.forall_mem_cons.mpr ⟨hd, hdigits⟩
    have hbehind : ∀ c ∈ e :: fraction, c.isDigit = true :=
      List.forall_mem_cons.mpr ⟨he, hfraction⟩
    have hstop : ∀ c ∈ ('.' :: e :: fraction).head?, c.isDigit = false := by
      rintro c ⟨⟩
      rfl
    obtain ⟨htake, hdrop⟩ := takeWhile_append_of_head hall hstop
    have htakeBehind := List.takeWhile_eq_self_iff.mpr hbehind
    have hdropBehind := List.dropWhile_eq_nil_iff.mpr hbehind
    rw [List.cons_append] at htake hdrop
    simp [Numeral.decimal?, splitSign_of_isDigit _ hd, htake, hdrop, htakeBehind, hdropBehind,
      Numeral.exponent?]

/-! ## Whole texts -/

/-- Spellings with blanks behind them make a text. -/
theorem exists_scans_of_forall_isSpelling (lexemes : List Lexeme)
    (h : ∀ lexeme ∈ lexemes, ∃ spelling, IsSpelling spelling lexeme) :
    ∃ cs, Scans cs (lexemes ++ [.endOfText]) := by
  induction lexemes with
  | nil => exact ⟨[], scans_nil⟩
  | cons lexeme lexemes ih =>
    obtain ⟨spelling, hspelling⟩ := h lexeme List.mem_cons_self
    obtain ⟨cs, hcs⟩ := ih fun l hl => h l (List.mem_cons_of_mem _ hl)
    exact ⟨spelling ++ ' ' :: cs, hcs.spelling hspelling⟩

/-- Tokens that have spellings are the tokens of a text. -/
theorem exists_tokenize_of_forall_isSpelling {lexemes : List Lexeme}
    (h : ∀ lexeme ∈ lexemes, ∃ spelling, IsSpelling spelling lexeme) :
    ∃ source tokens, tokenize source = .ok tokens ∧
      tokens.map Token.lexeme = lexemes ++ [.endOfText] := by
  obtain ⟨cs, hcs⟩ := exists_scans_of_forall_isSpelling lexemes h
  obtain ⟨tokens, hscan, hlexemes⟩ := hcs 0
  exact ⟨String.ofList cs, tokens, by rw [tokenize, String.toList_ofList, hscan], hlexemes⟩

end Token

end AgentFlow
