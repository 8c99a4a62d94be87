import AgentFlow.Expr.Token

/-!
# The signs and words of expressions

What a lexer of expressions has to know, as tables and classes of characters that do not mention
the lexer: the sign of each operator, the words that are no names, the characters of words, the
escapes of texts in quotes, and white space. The grammar and the rules for tokens are stated with
these.

Each of them comes with the lemma that the lexer has it so: `Symbol.mem_spellings_iff`,
`Token.word_eq_ok_iff`, `Token.isWordStart_iff`, `Token.isWordPart_iff`, `Token.escaped_iff`,
`Token.isWhiteSpace_iff`.
-/

namespace AgentFlow

/-! ## Signs -/

namespace Symbol

/-- The sign of an operator. -/
def sign : Symbol → String
  | op .or => "||"
  | op .and => "&&"
  | op .eq => "=="
  | op .ne => "!="
  | op .strictEq => "==="
  | op .strictNe => "!=="
  | op .lt => "<"
  | op .gt => ">"
  | op .le => "<="
  | op .ge => ">="
  | op .add => "+"
  | op .sub => "-"
  | op .mul => "*"
  | op .div => "/"
  | op .mod => "%"
  | bang => "!"
  | dot => "."

/-- The operators that are looked for in a text are those with a sign, each by its sign. -/
theorem mem_spellings_iff {piece : List Char} {symbol : Symbol} :
    (piece, symbol) ∈ spellings ↔ piece = symbol.sign.toList := by
  have hall : ∀ entry ∈ spellings, entry.1 = entry.2.sign.toList := by decide
  constructor
  · exact fun h => hall (piece, symbol) h
  · rintro rfl
    rcases symbol with op | - | -
    · cases op <;> decide
    · decide
    · decide

/-- No sign is empty. -/
theorem sign_toList_ne_nil (symbol : Symbol) : symbol.sign.toList ≠ [] := by
  rcases symbol with op | - | -
  · cases op <;> decide
  · decide
  · decide

/-- The operator in front of a text is there by its sign. -/
theorem exists_sign_of_ofPrefix? {c : Char} {rest spelling : List Char} {symbol : Symbol}
    (h : ofPrefix? (c :: rest) = some (spelling, symbol)) :
    ∃ tail, spelling = c :: tail ∧ symbol.sign.toList = c :: tail ∧ tail <+: rest := by
  have hsign : spelling = symbol.sign.toList := mem_spellings_iff.mp (List.mem_of_find?_eq_some h)
  have hfound := List.find?_some h
  rcases List.prefix_cons_iff.mp (List.isPrefixOf_iff_prefix.mp hfound) with
    hnil | ⟨tail, htail, hstart⟩
  · exact absurd (hsign.symm.trans hnil) symbol.sign_toList_ne_nil
  · exact ⟨tail, htail, hsign.symm.trans htail, hstart⟩

end Symbol

namespace Token

/-! ## Characters of words -/

/-- A letter of ASCII. -/
def IsLetter (c : Char) : Prop :=
  ('a' ≤ c ∧ c ≤ 'z') ∨ ('A' ≤ c ∧ c ≤ 'Z')

/-- The characters that a word may start with. -/
def IsWordStart (c : Char) : Prop :=
  IsLetter c ∨ c = '_' ∨ c = '$'

/-- The characters that a word may go on with. -/
def IsWordPart (c : Char) : Prop :=
  IsWordStart c ∨ ('0' ≤ c ∧ c ≤ '9')

instance : DecidablePred IsWordStart := fun c => by
  unfold IsWordStart IsLetter
  infer_instance

instance : DecidablePred IsWordPart := fun c => by
  unfold IsWordPart
  infer_instance

/-- Core's letters are those of ASCII. -/
theorem isLetter_iff {c : Char} : IsLetter c ↔ c.isAlpha = true := by
  have halpha : c.isAlpha = (c.isUpper || c.isLower) := rfl
  have hupper : c.isUpper = decide ('A'.val ≤ c.val ∧ c.val ≤ 'Z'.val) := rfl
  have hlower : c.isLower = (decide ('a'.val ≤ c.val) && decide (c.val ≤ 'z'.val)) := rfl
  rw [halpha, hupper, hlower, Bool.or_eq_true, Bool.and_eq_true, decide_eq_true_iff,
    decide_eq_true_iff, decide_eq_true_iff, Or.comm]
  rfl

/-- The lexer starts words with the characters that words start with. -/
theorem isWordStart_iff {c : Char} : IsWordStart c ↔ startsWord c = true := by
  rw [IsWordStart, isLetter_iff, startsWord, Bool.or_eq_true, Bool.or_eq_true, or_assoc,
    decide_eq_true_iff, decide_eq_true_iff]

/-- The lexer goes on with a word as far as its characters go. -/
theorem isWordPart_iff {c : Char} : IsWordPart c ↔ continuesWord c = true := by
  have halphanum : c.isAlphanum = (c.isAlpha || c.isDigit) := rfl
  have hdigit : c.isDigit = true ↔ '0' ≤ c ∧ c ≤ '9' := by
    rw [Char.isDigit, Bool.and_eq_true, decide_eq_true_iff, decide_eq_true_iff]
    rfl
  rw [IsWordPart, isWordStart_iff, startsWord, continuesWord, halphanum, ← hdigit]
  grind

/-! ## Words that are no names -/

/-- The words that are no names, with what they mean: literals, and words for operators. -/
def keywords : List (String × Lexeme) :=
  [("true", .boolean true), ("false", .boolean false), ("null", .null), ("undefined", .undefined),
    ("and", .symbol (.op .and)), ("or", .symbol (.op .or)), ("not", .symbol .bang)]

/-- What a word means. A word that is denied means nothing. -/
inductive WordMeans (word : String) : Lexeme → Prop where
  | keyword {lexeme : Lexeme} (h : (word, lexeme) ∈ keywords) : WordMeans word lexeme
  | name (hkeyword : ∀ lexeme, (word, lexeme) ∉ keywords) (hallowed : word ∉ denyList) :
    WordMeans word (.identifier word)

section

variable {name : String} {lexeme : Lexeme}

/-- The lexer knows the words that are no names. -/
theorem word_of_mem_keywords (h : (name, lexeme) ∈ keywords) : word name = .ok lexeme := by
  simp only [keywords, List.mem_cons, Prod.mk.injEq, List.not_mem_nil, or_false] at h
  rcases h with ⟨rfl, rfl⟩ | ⟨rfl, rfl⟩ | ⟨rfl, rfl⟩ | ⟨rfl, rfl⟩ | ⟨rfl, rfl⟩ | ⟨rfl, rfl⟩ |
    ⟨rfl, rfl⟩
  all_goals rfl

/-- Any other word is a name, and may be denied. -/
theorem word_of_not_mem_keywords (h : ∀ lexeme, (name, lexeme) ∉ keywords) :
    word name = if isDenied name then .error (.blockedIdentifier name)
      else .ok (.identifier name) := by
  have hne : ∀ keyword ∈ keywords.map Prod.fst, name ≠ keyword := by
    rintro keyword hmem rfl
    obtain ⟨⟨name, lexeme⟩, hkeyword, rfl⟩ := List.mem_map.mp hmem
    exact h lexeme hkeyword
  simp only [keywords, List.map_cons, List.map_nil, List.forall_mem_cons] at hne
  obtain ⟨htrue, hfalse, hnull, hundefined, hand, hor, hnot, -⟩ := hne
  rw [word, if_neg htrue, if_neg hfalse, if_neg hnull, if_neg hundefined, if_neg hand, if_neg hor,
    if_neg hnot]

/-- The lexer gives a word the meaning that it has, and none to a word without one. -/
theorem word_eq_ok_iff : word name = .ok lexeme ↔ WordMeans name lexeme := by
  by_cases hkeyword : ∃ meaning, (name, meaning) ∈ keywords
  · obtain ⟨meaning, hmeaning⟩ := hkeyword
    have hword := word_of_mem_keywords hmeaning
    constructor
    · intro h
      obtain rfl : meaning = lexeme := Except.ok.inj (hword.symm.trans h)
      exact .keyword hmeaning
    · rintro (h | h)
      · exact word_of_mem_keywords h
      · exact absurd hmeaning (h meaning)
  · have hname := not_exists.mp hkeyword
    rw [word_of_not_mem_keywords hname]
    constructor
    · intro h
      split at h
      next => cases h
      next hallowed =>
        cases h
        exact .name hname fun hdenied => hallowed (isDenied_iff.mpr hdenied)
    · rintro (h | ⟨-, hallowed⟩)
      · exact absurd h (hname lexeme)
      · exact if_neg fun hdenied => hallowed (isDenied_iff.mp hdenied)

end

/-! ## Escapes -/

/-- What a character behind a backslash stands for. -/
inductive Escaped : Char → Char → Prop where
  | newline : Escaped 'n' '\n'
  | tab : Escaped 't' '\t'
  | carriageReturn : Escaped 'r' '\r'
  | self {c : Char} (h : c ∉ ['n', 't', 'r']) : Escaped c c

/-- The lexer resolves escapes. -/
theorem escaped_iff {c d : Char} : Escaped c d ↔ d = unescape c := by
  constructor
  · rintro (- | - | - | h)
    · rfl
    · rfl
    · rfl
    · simp only [List.mem_cons, List.not_mem_nil, or_false, not_or] at h
      rw [unescape, if_neg h.1, if_neg h.2.1, if_neg h.2.2]
  · rintro rfl
    unfold unescape
    split
    next h => exact h ▸ .newline
    split
    next h => exact h ▸ .tab
    split
    next h => exact h ▸ .carriageReturn
    next hn ht hr => exact .self (by simp [hn, ht, hr])

/-! ## White space -/

/-- The characters with the property `White_Space`, by their code points. -/
def IsWhiteSpace (c : Char) : Prop :=
  c.toNat ∈ [0x09, 0x0A, 0x0B, 0x0C, 0x0D, 0x20, 0x85, 0xA0, 0x1680, 0x2000, 0x2001, 0x2002, 0x2003,
    0x2004, 0x2005, 0x2006, 0x2007, 0x2008, 0x2009, 0x200A, 0x2028, 0x2029, 0x202F, 0x205F, 0x3000]

/-- What the lexer skips is white space. -/
theorem isWhiteSpace_iff {c : Char} : IsWhiteSpace c ↔ Text.isBlank c = true := by
  simp only [IsWhiteSpace, Text.isBlank, Bool.or_eq_true, Bool.and_eq_true, decide_eq_true_eq,
    beq_iff_eq, UInt32.le_iff_toNat_le, ← UInt32.toNat_inj, Char.toNat, UInt32.reduceToNat,
    List.mem_cons, List.not_mem_nil, or_false]
  omega

end Token

namespace Lexeme

/-- How a token with a meaning is written. Numbers and texts in quotes are written in many ways, so
of these nothing is said. -/
inductive IsWritten : Lexeme → String → Prop where
  | number (x : Float) (raw : String) : IsWritten (.number x) raw
  | string (text raw : String) : IsWritten (.string text) raw
  | word {raw : String} {lexeme : Lexeme} (h : Token.WordMeans raw lexeme) : IsWritten lexeme raw
  | sign (symbol : Symbol) : IsWritten (.symbol symbol) symbol.sign
  | leftParen : IsWritten .leftParen "("
  | rightParen : IsWritten .rightParen ")"
  | endOfText : IsWritten .endOfText ""

end Lexeme

end AgentFlow
