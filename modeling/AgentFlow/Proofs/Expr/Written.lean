import AgentFlow.Proofs.Expr.Height
import AgentFlow.Proofs.Expr.Sandbox
import AgentFlow.Proofs.Expr.Spelling

/-!
# Writing expressions

How to write a tree so that it is read back: every operator with its operands in parentheses, a text
in single quotes with the quote and the backslash escaped, a path with dots, a number by digits. A
tree has many such texts, because a double has many decimals, so writing is a relation.

Reading back is proved on phrases. A text that is written is all of some operand: its tokens end
where it ends, whatever ends it (`Phrase.Covers`). The operand has the tree that was written, and
its positions are charged two for each level of the tree, one for the parentheses and one for the
operator. So the budget of the reader lasts for half as many levels as it has units.
-/

namespace AgentFlow.Expr

open Token

/-- The words that are literals. -/
def literalWords : List String := ["true", "false", "null", "undefined"]

/-- The words that are operators. -/
def operatorWords : List String := ["and", "or", "not"]

/-- A tree is written as a text. -/
inductive WrittenAs : Expr → String → Prop where
  | number {digits : List Char} {x : Float} (hdigits : IsNumeral digits)
      (hx : Numeral.decimal? digits = some x) :
      WrittenAs (.literal (.number x)) (String.ofList digits)
  | string (text : String) :
      WrittenAs (.literal (.string text)) ("'" ++ String.ofList (escape text.toList) ++ "'")
  | boolean (value : Bool) :
      WrittenAs (.literal (.bool value)) (if value then "true" else "false")
  | null : WrittenAs (.literal .null) "null"
  | undefined : WrittenAs (.literal .undefined) "undefined"
  | path (root : String) (properties : List String) :
      WrittenAs (.path root properties) (".".intercalate (root :: properties))
  | unary (op : UnaryOp) {operand : Expr} {text : String} (h : WrittenAs operand text) :
      WrittenAs (.unary op operand) ("(" ++ op.symbol ++ text ++ ")")
  | binary (op : BinaryOp) {left right : Expr} {leftText rightText : String}
      (hleft : WrittenAs left leftText) (hright : WrittenAs right rightText) :
      WrittenAs (.binary op left right)
        ("(" ++ leftText ++ " " ++ op.symbol ++ " " ++ rightText ++ ")")

/-- The names in a tree are words that can stand where they do: an operator is no name, a literal
none of a variable, and no name is denied. -/
structure HasPlainNames (e : Expr) : Prop where
  roots : ∀ root ∈ e.roots,
    isIdentifier root = true ∧ root ∉ literalWords ∧ root ∉ operatorWords
  properties : ∀ property ∈ e.properties,
    isIdentifier property = true ∧ property ∉ operatorWords
  allowed : ∀ name, name ∈ e.roots ∨ name ∈ e.properties → isDenied name = false

/-- Plain names stay when paths go. -/
theorem HasPlainNames.of_paths_subset {e e' : Expr} (h : e.HasPlainNames)
    (hpaths : e'.paths ⊆ e.paths) : e'.HasPlainNames := by
  have hroots : e'.roots ⊆ e.roots := List.map_subset _ hpaths
  have hproperties : e'.properties ⊆ e.properties := by
    intro name hname
    obtain ⟨path, hpath, hmem⟩ := List.mem_flatMap.mp hname
    exact List.mem_flatMap.mpr ⟨path, hpaths hpath, hmem⟩
  exact ⟨fun name hname => h.roots name (hroots hname),
    fun name hname => h.properties name (hproperties hname),
    fun name hname => h.allowed name (hname.imp (@hroots name) (@hproperties name))⟩

/-! ## Words -/

namespace Word

/-- The word that a name is. -/
def ofText (name : String) : Word :=
  if name = "true" then .boolean true
  else if name = "false" then .boolean false
  else if name = "null" then .null
  else if name = "undefined" then .undefined
  else .identifier name

/-- A name is written as itself, whether or not it is the word of a literal. -/
theorem text_ofText (name : String) : (ofText name).text = name := by
  unfold ofText
  repeat' split
  all_goals first | rfl | exact Eq.symm ‹_›

theorem ofText_of_not_mem {name : String} (h : name ∉ literalWords) :
    ofText name = .identifier name := by
  simp only [literalWords, List.mem_cons, List.not_mem_nil, or_false, not_or] at h
  simp [ofText, h]

/-- A name that is no operator and is allowed is read as the word that it is. -/
theorem word_eq_lexeme_ofText {name : String} (hoperator : name ∉ operatorWords)
    (hallowed : isDenied name = false) : Token.word name = .ok (ofText name).lexeme := by
  simp only [operatorWords, List.mem_cons, List.not_mem_nil, or_false, not_or] at hoperator
  unfold Token.word ofText
  repeat' split
  all_goals first | rfl | simp_all

end Word

/-! ## Texts of operands -/

/-- What ends a word, a number and a path: neither more of a word nor a point. -/
def Breaks (rest : List Char) : Prop :=
  ∀ c ∈ rest.head?, continuesWord c = false ∧ c ≠ '.'

theorem breaks_rightParen (rest : List Char) : Breaks (')' :: rest) := by
  rintro c ⟨⟩
  decide

theorem breaks_blank (rest : List Char) : Breaks (' ' :: rest) := by
  rintro c ⟨⟩
  decide

namespace Phrase

/-- A text is all of an operand: in front of whatever ends it, it has the operand's tokens. It can
stand behind an exclamation mark. -/
structure Covers (operand : Phrase none) (text : List Char) : Prop where
  head : text.head? ≠ some '='
  scans : ∀ {rest lexemes}, Breaks rest → Scans rest lexemes →
    Scans (text ++ rest) (operand.lexemes ++ lexemes)

/-- A numeral covers a number. -/
theorem covers_number {digits : List Char} {x : Float} (hdigits : IsNumeral digits)
    (hx : Numeral.decimal? digits = some x) : (literal (.number x)).Covers digits := by
  constructor
  · rintro hhead
    cases hdigits with
    | whole hd => cases hhead; exact absurd hd (by decide)
    | point hd => cases hhead; exact absurd hd (by decide)
  · intro rest lexemes hbreaks h
    refine Scans.number hdigits hx (fun c hc => ?_) (fun hc => (hbreaks _ hc).2 rfl) h
    have hword := (hbreaks c hc).1
    simp only [continuesWord, Char.isAlphanum, Bool.or_eq_false_iff] at hword
    exact hword.1.1.2

/-- An escaped text in single quotes covers a text. -/
theorem covers_string (text : String) :
    (literal (.string text)).Covers ('\'' :: (escape text.toList ++ ['\''])) := by
  constructor
  · simp
  · intro rest lexemes _ h
    have hscans := Scans.quoted text.toList h
    rw [String.ofList_toList] at hscans
    exact hscans

/-- An identifier does not start like an operator. -/
theorem head?_ne_of_isIdentifier {name : String} (h : isIdentifier name = true)
    (rest : List Char) : (name.toList ++ rest).head? ≠ some '=' := by
  obtain ⟨c, tail, hcs, hstart, -⟩ := exists_cons_of_isIdentifier h
  rw [hcs]
  rintro ⟨⟩
  exact absurd hstart (by decide)

/-- A word covers an operand that is this word alone. -/
theorem covers_word {operand : Phrase none} {name : String} {lexeme : Lexeme}
    (hlexemes : operand.lexemes = [lexeme]) (hname : isIdentifier name = true)
    (hword : Token.word name = .ok lexeme) : operand.Covers name.toList := by
  constructor
  · have hhead := head?_ne_of_isIdentifier hname []
    rwa [List.append_nil] at hhead
  · intro rest lexemes hbreaks h
    rw [hlexemes]
    exact Scans.word hname hword (fun c hc => (hbreaks c hc).1) h

/-- How properties are written behind the root of a path. -/
def propertiesText (properties : List String) : List Char :=
  properties.flatMap fun property => '.' :: property.toList

theorem propertiesText_cons (property : String) (properties : List String) :
    propertiesText (property :: properties) =
      '.' :: (property.toList ++ propertiesText properties) :=
  List.flatMap_cons

theorem toList_intercalate_dot (root : String) (properties : List String) :
    (".".intercalate (root :: properties)).toList = root.toList ++ propertiesText properties := by
  induction properties generalizing root with
  | nil => simp [propertiesText]
  | cons property properties ih =>
    rw [String.intercalate_cons_cons, String.toList_append, ih, propertiesText_cons]
    simp

/-- No word goes on where properties are written. -/
theorem continuesWord_of_propertiesText {properties : List String} {rest : List Char}
    (hbreaks : Breaks rest) :
    ∀ c ∈ (propertiesText properties ++ rest).head?, continuesWord c = false := by
  cases properties with
  | nil => exact fun c hc => (hbreaks c hc).1
  | cons property properties =>
    rintro c ⟨⟩
    decide

/-- Properties with dots in front are the tokens of a path behind its root. -/
theorem scans_propertiesText {properties : List String}
    (hidentifier : ∀ property ∈ properties, isIdentifier property = true)
    (hword : ∀ property ∈ properties, Token.word property = .ok (Word.ofText property).lexeme)
    {rest : List Char} {lexemes : List Lexeme} (hbreaks : Breaks rest) (h : Scans rest lexemes) :
    Scans (propertiesText properties ++ rest)
      (((properties.map Word.ofText).flatMap fun word => [.symbol .dot, word.lexeme]) ++
        lexemes) := by
  induction properties with
  | nil => exact h
  | cons property properties ih =>
    have hscans := ih (fun p hp => hidentifier p (List.mem_cons_of_mem _ hp))
      (fun p hp => hword p (List.mem_cons_of_mem _ hp))
    have hproperty := Scans.word (hidentifier property List.mem_cons_self)
      (hword property List.mem_cons_self) (continuesWord_of_propertiesText hbreaks) hscans
    rw [propertiesText_cons, List.cons_append, List.append_assoc]
    exact hproperty.dot

/-- Names with dots between them cover a path. -/
theorem covers_path {root : String} {properties : List String}
    (hnames : (Expr.path root properties).HasPlainNames) :
    (path root (properties.map Word.ofText)).Covers
      (".".intercalate (root :: properties)).toList := by
  have hroot : root ∈ (Expr.path root properties).roots := List.mem_singleton.mpr rfl
  have hproperties : (Expr.path root properties).properties = properties :=
    List.append_nil properties
  obtain ⟨hidentifier, hliteral, hoperator⟩ := hnames.roots root hroot
  have hword := Word.word_eq_lexeme_ofText hoperator (hnames.allowed root (.inl hroot))
  rw [Word.ofText_of_not_mem hliteral] at hword
  have hplain := hnames.properties
  have hallowed := hnames.allowed
  rw [hproperties] at hplain hallowed
  rw [toList_intercalate_dot]
  constructor
  · exact head?_ne_of_isIdentifier hidentifier _
  · intro rest lexemes hbreaks h
    have hscans := scans_propertiesText (fun p hp => (hplain p hp).1)
      (fun p hp => Word.word_eq_lexeme_ofText (hplain p hp).2 (hallowed p (.inr hp))) hbreaks h
    rw [List.append_assoc]
    exact Scans.word hidentifier hword (continuesWord_of_propertiesText hbreaks) hscans

/-! ## Operators in parentheses -/

/-- An operand with a prefix operator, in parentheses. -/
def enclosedUnary (op : UnaryOp) (operand : Phrase none) : Phrase none :=
  parens (signed op operand).whole

/-- Two operands and the operator between them, in parentheses. -/
def enclosedBinary (op : BinaryOp) (left right : Phrase none) : Phrase none :=
  parens (chain (single (left.lift (levelOf op).tighter?)) op (Level.mem_members_iff.mpr rfl)
    (right.lift (levelOf op).tighter?)).whole

variable {operand left right : Phrase none}

/-- Parentheses leave no trace in the tree. -/
theorem tree_enclosedUnary (op : UnaryOp) :
    (enclosedUnary op operand).tree = .unary op operand.tree :=
  tree_whole (signed op operand)

/-- Parentheses leave no trace in the tree, and neither do chains without operators. -/
theorem tree_enclosedBinary (op : BinaryOp) :
    (enclosedBinary op left right).tree = .binary op left.tree right.tree := by
  rw [enclosedBinary, tree, tree_whole, tree, tree, tree_lift, tree_lift]

/-- The prefix operator and its operand, in parentheses. -/
theorem lexemes_enclosedUnary (op : UnaryOp) :
    (enclosedUnary op operand).lexemes =
      .leftParen :: (signLexeme op :: operand.lexemes ++ [.rightParen]) := by
  rw [enclosedUnary, lexemes, lexemes_whole, lexemes]
  rfl

/-- Both operands with the operator between them, in parentheses. -/
theorem lexemes_enclosedBinary (op : BinaryOp) :
    (enclosedBinary op left right).lexemes =
      .leftParen :: (left.lexemes ++ .symbol (.op op) :: right.lexemes ++ [.rightParen]) := by
  rw [enclosedBinary, lexemes, lexemes_whole, lexemes, lexemes, lexemes_lift, lexemes_lift]
  rfl

/-- The parentheses and the prefix operator are charged one each. -/
theorem within_enclosedUnary (op : UnaryOp) {budget : Nat} (h : operand.Within budget) :
    (enclosedUnary op operand).Within (budget + 2) := by
  have hsigned : (signed op operand).Within (budget + 1) :=
    within_signed.mpr ⟨budget, Nat.add_comm budget 1, h⟩
  exact within_parens.mpr ⟨budget + 1, by omega, within_whole.mpr hsigned⟩

/-- The parentheses are charged one for both operands, and the operator one for the second. -/
theorem within_enclosedBinary (op : BinaryOp) {budget : Nat} (hleft : left.Within budget)
    (hright : right.Within budget) : (enclosedBinary op left right).Within (budget + 2) := by
  have hfirst : (single (left.lift (levelOf op).tighter?)).Within (budget + 1) :=
    within_single.mpr (within_lift.mpr (hleft.mono (Nat.le_succ budget)))
  have hchain : (chain (single (left.lift (levelOf op).tighter?)) op (Level.mem_members_iff.mpr rfl)
      (right.lift (levelOf op).tighter?)).Within (budget + 1) := by
    refine within_chain.mpr ⟨hfirst, budget, ?_, within_lift.mpr hright⟩
    rw [operators]
    omega
  exact within_parens.mpr ⟨budget + 1, by omega, within_whole.mpr hchain⟩

/-- A prefix operator is written in front of its operand, in parentheses. -/
theorem Covers.enclosedUnary (op : UnaryOp) {text : List Char} (h : operand.Covers text) :
    (enclosedUnary op operand).Covers ('(' :: (op.symbol.toList ++ text ++ [')'])) := by
  constructor
  · simp
  · intro rest lexemes _ hrest
    have hoperand := h.scans (breaks_rightParen rest) hrest.rightParen
    have hhead : (text ++ ')' :: rest).head? ≠ some '=' := by
      have hhead := h.head
      cases text with
      | nil => simp
      | cons c text => exact hhead
    rw [lexemes_enclosedUnary]
    simpa using (Scans.sign op hhead hoperand).leftParen

/-- An operator is written between its operands with blanks around it, in parentheses. -/
theorem Covers.enclosedBinary (op : BinaryOp) {leftText rightText : List Char}
    (hleft : left.Covers leftText) (hright : right.Covers rightText) :
    (enclosedBinary op left right).Covers
      ('(' :: (leftText ++ ' ' :: (op.symbol.toList ++ ' ' :: (rightText ++ [')'])))) := by
  constructor
  · simp
  · intro rest lexemes _ hrest
    have hsecond := hright.scans (breaks_rightParen rest) hrest.rightParen
    have hop : Scans (op.symbol.toList ++ ' ' :: (rightText ++ ')' :: rest))
        (.symbol (.op op) :: (right.lexemes ++ .rightParen :: lexemes)) :=
      hsecond.spelling (isSpelling_symbol (.op op))
    have hfirst := hleft.scans (breaks_blank _) (hop.blank rfl)
    rw [lexemes_enclosedBinary]
    simpa using hfirst.leftParen

end Phrase

/-! ## Reading back -/

/-- What is written is all of an operand, which has the tree and two units for each level of it. -/
theorem WrittenAs.exists_covers {e : Expr} {text : String} (h : e.WrittenAs text)
    (hnames : e.HasPlainNames) :
    ∃ operand : Phrase none, operand.tree = e ∧ operand.Within (2 * e.height) ∧
      operand.Covers text.toList := by
  induction h with
  | @number digits x hdigits hx =>
    rw [String.toList_ofList]
    exact ⟨_, rfl, Phrase.within_literal _ _, Phrase.covers_number hdigits hx⟩
  | string text =>
    refine ⟨_, rfl, Phrase.within_literal (.string text) _, ?_⟩
    simpa using Phrase.covers_string text
  | boolean value =>
    refine ⟨_, rfl, Phrase.within_literal (.boolean value) _, ?_⟩
    cases value <;> exact Phrase.covers_word rfl rfl rfl
  | null =>
    exact ⟨_, rfl, Phrase.within_literal .null _, Phrase.covers_word rfl rfl rfl⟩
  | undefined =>
    exact ⟨_, rfl, Phrase.within_literal .undefined _, Phrase.covers_word rfl rfl rfl⟩
  | path root properties =>
    refine ⟨_, ?_, Phrase.within_path root _ _, Phrase.covers_path hnames⟩
    rw [Phrase.tree, List.map_map]
    congr 1
    exact (List.map_congr_left fun name _ => Word.text_ofText name).trans (List.map_id _)
  | unary op h ih =>
    obtain ⟨operand, rfl, hwithin, hcovers⟩ := ih (hnames.of_paths_subset (List.Subset.refl _))
    refine ⟨.enclosedUnary op operand, Phrase.tree_enclosedUnary op,
      Phrase.within_enclosedUnary op hwithin, ?_⟩
    simpa using hcovers.enclosedUnary op
  | @binary op left right _ _ _ _ ihLeft ihRight =>
    obtain ⟨first, rfl, hfirst, hleft⟩ :=
      ihLeft (hnames.of_paths_subset (List.subset_append_left _ _))
    obtain ⟨second, rfl, hsecond, hright⟩ :=
      ihRight (hnames.of_paths_subset (List.subset_append_right _ _))
    have hbudget : 2 * (Expr.binary op first.tree second.tree).height =
        2 * max first.tree.height second.tree.height + 2 := rfl
    refine ⟨.enclosedBinary op first second, Phrase.tree_enclosedBinary op, ?_, ?_⟩
    · rw [hbudget]
      exact Phrase.within_enclosedBinary op (hfirst.mono (by omega)) (hsecond.mono (by omega))
    · simpa using hleft.enclosedBinary op hright

/-- **Reading back.** A tree of plain names that is at most half as high as the reader's budget is
read back from every text that it is written as. -/
theorem parse_of_writtenAs {e : Expr} {text : String} (h : e.WrittenAs text)
    (hheight : e.height ≤ 64) (hnames : e.HasPlainNames) : parse text = .ok e := by
  obtain ⟨operand, rfl, hwithin, hcovers⟩ := h.exists_covers hnames
  have hbreaks : Breaks [] := by
    rintro c ⟨⟩
  have hspells : operand.whole.Spells text := by
    obtain ⟨tokens, hscan, hlexemes⟩ := hcovers.scans hbreaks scans_nil 0
    rw [List.append_nil] at hscan
    rw [← Phrase.lexemes_whole] at hlexemes
    exact operand.whole.spells_of_tokenize hscan hlexemes
  have hbudget : operand.whole.Within maxDepth :=
    Phrase.within_whole.mpr (hwithin.mono (by rw [maxDepth]; omega))
  have hparse := Phrase.parse_of_spells hspells hbudget
  rwa [Phrase.tree_whole] at hparse

/-- A property may be called `true`, and a text may hold quotes and backslashes. -/
theorem parse_of_writtenAs_of_escaped_text :
    ∃ x, Numeral.decimal? "1.5".toList = some x ∧
      parse "((!a.true) && ('it\\'s \\\\' < 1.5))" =
        .ok (.binary .and (.unary .not (.path "a" ["true"]))
          (.binary .lt (.literal (.string "it's \\")) (.literal (.number x)))) := by
  have hdigits : IsNumeral ['1', '.', '5'] := @IsNumeral.point '1' '5' [] [] rfl nofun rfl nofun
  obtain ⟨x, hx⟩ := exists_decimal?_of_isNumeral hdigits
  have hwritten := WrittenAs.binary .and (.unary .not (.path "a" ["true"]))
    (.binary .lt (.string "it's \\") (.number hdigits hx))
  refine ⟨x, hx, parse_of_writtenAs hwritten (by change 2 ≤ 64; decide) ⟨?_, ?_, ?_⟩⟩
  · intro root hroot
    rw [List.mem_singleton.mp hroot]
    decide
  · intro property hproperty
    rw [List.mem_singleton.mp hproperty]
    decide
  · rintro name (hname | hname)
    · rw [List.mem_singleton.mp hname]
      decide
    · rw [List.mem_singleton.mp hname]
      decide

end AgentFlow.Expr
