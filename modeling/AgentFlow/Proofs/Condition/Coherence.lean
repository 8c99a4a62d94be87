import AgentFlow.Proofs.Condition.Recognition
import AgentFlow.Proofs.Condition.Tokens
import AgentFlow.Proofs.Expr.Equality
import AgentFlow.Proofs.Expr.Piece
import AgentFlow.Proofs.Expr.Written

/-!
# Shorthands and expressions agree

What the shorthands say of one path fits together: both ways of asking whether something exists have
the same answer, a path that is not empty is exactly one that is empty denied, and what does not
exist is empty. All of this is said of texts and goes through the recogniser, so it needs to be
known what a text asks (`Shorthand.Asks`).

A path that expressions can mention exists exactly if it differs from `null` there, since loose
equality takes nothing but the two missing values for `null`. Names on the deny-list are no
exception: the shorthand fails when its path is resolved, the expression when it is read, and
neither holds.
-/

namespace AgentFlow

open AgentFlow.Expr (Breaks Phrase)
open AgentFlow.Token (Reads Scans)

/-! ## What texts ask -/

namespace Shorthand

variable {condition : String} {path word : List Char} {shorthand : Shorthand}

/-- A path with `exists` behind it asks whether the path exists. -/
theorem asks_of_exists_behind (hpath : IsDotted path) (hword : Spells "exists" word)
    (htext : Says [path, word] condition.toList) :
    Asks condition (.present (String.ofList path)) := by
  refine ⟨.existsBehind hpath hword htext, fun first second htwice => ?_⟩
  have hwords := htwice.words_eq
  rw [(words_eq_iff (by simp [hpath.isWord, hword.isWord])).mpr htext] at hwords
  cases hwords
  rfl

/-- With `exists` in front, the path is the second word, unless it could be the keyword as well. -/
theorem asks_of_exists_before (hpath : IsDotted path) (hword : Spells "exists" word)
    (htext : Says [word, path] condition.toList) (hsame : Spells "exists" path → word = path) :
    Asks condition (.present (String.ofList path)) := by
  refine ⟨.existsBefore hpath hword htext, fun first second htwice => ?_⟩
  have hwords := htwice.words_eq
  rw [(words_eq_iff (by simp [hpath.isWord, hword.isWord])).mpr htext] at hwords
  cases hwords
  rw [hsame htwice.second]

/-- Only a text that asks whether a spelling of `exists` exists could ask something else. -/
theorem ReadsAs.asks (h : ReadsAs condition.toList shorthand)
    (hplain : ∀ name, shorthand = .present name → ¬ Spells "exists" name.toList) :
    Asks condition shorthand := by
  refine ⟨h, fun first second htwice => ?_⟩
  rcases h.eq_of_twice htwice with heq | heq
  · exact heq
  · have hsecond := htwice.second
    rw [← String.toList_ofList (l := second)] at hsecond
    exact absurd hsecond (hplain _ heq)

/-- No spelling of `exists` is on the deny-list. -/
theorem isDenied_of_spells {path : String} (h : Spells "exists" path.toList) :
    ∀ segment ∈ Variables.segments path, isDenied segment = false := by
  have hkeyword := isKeyword_of_spells h
  have hletters : "exists".toList.all Char.isAlpha = true := by decide
  have hdot : '.' ∉ path.toList := fun hmem =>
    absurd (startsPath_of_isKeyword hkeyword (List.all_eq_true.mp hletters) '.' hmem) (by decide)
  have hdenied : ∀ name ∈ denyList, isKeyword "exists" name.toList = false := by decide
  rw [Variables.segments, Text.pieces_of_not_mem hdot, List.map_singleton, String.ofList_toList,
    List.forall_mem_singleton]
  refine Bool.eq_false_iff.mpr fun hmem => ?_
  rw [hdenied path (isDenied_iff.mp hmem)] at hkeyword
  cases hkeyword

/-! ## What is at a path -/

/-- What a shorthand says of the value at its path. -/
def answer : Shorthand → Value → Bool
  | present _, value => !value.isNullish
  | empty _ negated, value => isEmpty value != negated
  | contains _ needle, value => holds needle value

/-- What a shorthand says depends on the value at its path alone. -/
theorem eval_eq_map_answer (vars : Variables) (shorthand : Shorthand) :
    shorthand.eval vars = (resolve shorthand.path vars).map shorthand.answer := by
  cases shorthand <;> rfl

/-- A shorthand whose path has a value holds if that is its answer. -/
theorem holds_of_resolve_eq_ok {vars : Variables} {value : Value} (h : Asks condition shorthand)
    (hvalue : resolve shorthand.path vars = .ok value) :
    Condition.holds condition vars = shorthand.answer value := by
  have heval : Condition.eval condition vars = .ok (shorthand.answer value) := by
    simp only [Condition.eval, recognize?_eq_some_iff.mpr h, eval_eq_map_answer, hvalue]
    rfl
  exact Condition.holds_of_eval_eq_ok heval

/-- A shorthand whose path is refused does not hold. -/
theorem holds_of_resolve_eq_error {vars : Variables} {cause : ExprError}
    (h : Asks condition shorthand) (hcause : resolve shorthand.path vars = .error cause) :
    Condition.holds condition vars = false := by
  have heval : Condition.eval condition vars = .error cause := by
    simp only [Condition.eval, recognize?_eq_some_iff.mpr h, eval_eq_map_answer, hcause]
    rfl
  exact Condition.holds_of_eval_eq_error heval

/-- Two conditions that ask the same have the same answer. -/
theorem holds_eq_of_asks {other : String} (h : Asks condition shorthand)
    (h' : Asks other shorthand) (vars : Variables) :
    Condition.holds condition vars = Condition.holds other vars := by
  simp only [Condition.holds, Condition.eval, recognize?_eq_some_iff.mpr h,
    recognize?_eq_some_iff.mpr h']

/-- Every path has a root. -/
theorem exists_segments (path : String) :
    ∃ root properties, Variables.segments path = root :: properties := by
  cases hpieces : Text.pieces '.' path.toList with
  | nil => exact absurd hpieces (Text.pieces_ne_nil _ _)
  | cons first more => exact ⟨_, _, by rw [Variables.segments, hpieces, List.map_cons]⟩

/-- A path without denied segments has the value that it has in an expression. -/
theorem resolve_of_allowed {path root : String} {properties : List String}
    (hsegments : Variables.segments path = root :: properties)
    (hallowed : ∀ segment ∈ Variables.segments path, isDenied segment = false)
    (vars : Variables) :
    resolve path vars = .ok (Expr.eval vars (.path root properties)) := by
  rw [hsegments] at hallowed
  obtain ⟨hroot, hproperties⟩ := List.forall_mem_cons.mp hallowed
  have hfind : properties.find? isDenied = none :=
    List.find?_eq_none.mpr fun name hname => Bool.eq_false_iff.mp (hproperties name hname)
  simp only [resolve, hsegments, hroot, hfind, Bool.false_eq_true, if_false]

/-- A denied segment is found wherever it stands. -/
theorem resolve_of_denied {path : String}
    (hdenied : ∃ segment ∈ Variables.segments path, isDenied segment = true) (vars : Variables) :
    ∃ cause, resolve path vars = .error cause := by
  obtain ⟨segment, hsegment, hdenied⟩ := hdenied
  obtain ⟨root, properties, hsegments⟩ := exists_segments path
  simp only [resolve, hsegments]
  by_cases hroot : isDenied root = true
  · exact ⟨_, if_pos hroot⟩
  · rw [if_neg hroot]
    cases hfind : properties.find? isDenied with
    | some property => exact ⟨_, rfl⟩
    | none =>
      rw [hsegments] at hsegment
      rcases List.mem_cons.mp hsegment with rfl | hmem
      · exact absurd hdenied hroot
      · exact absurd hdenied (List.find?_eq_none.mp hfind segment hmem)

/-- What is missing is empty. -/
theorem isEmpty_of_isNullish {value : Value} (h : value.isNullish = true) :
    isEmpty value = true := by
  cases value <;> first | rfl | cases h

end Shorthand

/-! ## The expression `path != null` -/

namespace Expr

/-- Two operands with an operator and blanks in between are read as the operator on both. -/
theorem parse_of_covers (op : BinaryOp) {left right : Phrase none} {leftText rightText : String}
    (hleft : left.Covers leftText.toList) (hright : right.Covers rightText.toList)
    (hleftWithin : left.Within 1) (hrightWithin : right.Within 0) :
    parse (leftText ++ " " ++ op.symbol ++ " " ++ rightText) =
      .ok (.binary op left.tree right.tree) := by
  let phrase := (Phrase.chain (.single (left.lift (levelOf op).tighter?)) op
    (Level.mem_members_iff.mpr rfl) (right.lift (levelOf op).tighter?)).whole
  have htree : phrase.tree = .binary op left.tree right.tree := by
    rw [Phrase.tree_whole, Phrase.tree, Phrase.tree, Phrase.tree_lift, Phrase.tree_lift]
  have hlexemes : phrase.lexemes = left.lexemes ++ .symbol (.op op) :: right.lexemes := by
    rw [Phrase.lexemes_whole, Phrase.lexemes, Phrase.lexemes, Phrase.lexemes_lift,
      Phrase.lexemes_lift]
  have hwithin : phrase.Within maxDepth := by
    have hchain : phrase.Within 1 :=
      Phrase.within_whole.mpr (Phrase.within_chain.mpr
        ⟨Phrase.within_single.mpr (Phrase.within_lift.mpr hleftWithin), 0, rfl,
          Phrase.within_lift.mpr hrightWithin⟩)
    exact hchain.mono (by decide)
  have hspells : phrase.Spells (leftText ++ " " ++ op.symbol ++ " " ++ rightText) := by
    have hbreaks : Breaks [] := by
      rintro c ⟨⟩
    have hsecond := hright.scans hbreaks Token.scans_nil
    have hop : Scans (op.symbol.toList ++ ' ' :: (rightText.toList ++ []))
        (.symbol (.op op) :: (right.lexemes ++ [.endOfText])) :=
      hsecond.spelling (Token.isSpelling_symbol (.op op))
    obtain ⟨tokens, hscan, htokens⟩ := hleft.scans (breaks_blank _) (hop.blank rfl) 0
    have htokenize :
        Token.tokenize (leftText ++ " " ++ op.symbol ++ " " ++ rightText) = .ok tokens := by
      rw [Token.tokenize, ← hscan]
      simp
    refine phrase.spells_of_tokenize htokenize ?_
    rw [htokens, hlexemes]
    simp
  rw [Phrase.parse_of_spells hspells hwithin, htree]

/-- The names of a path that can stand in an expression, if none of them is denied. -/
structure IsPath (root : String) (properties : List String) : Prop where
  identifiers : ∀ name ∈ root :: properties, Token.isIdentifier name = true
  notOperators : ∀ name ∈ root :: properties, name ∉ operatorWords
  notLiteral : root ∉ literalWords

/-- The names of a path that can be written, and that are not denied, are plain. -/
theorem IsPath.hasPlainNames {root : String} {properties : List String} (h : IsPath root properties)
    (hallowed : ∀ name ∈ root :: properties, isDenied name = false) :
    (Expr.path root properties).HasPlainNames := by
  have hroots : (Expr.path root properties).roots = [root] := rfl
  have hproperties : (Expr.path root properties).properties = properties := List.append_nil _
  refine ⟨fun name hname => ?_, fun name hname => ?_, fun name hname => ?_⟩
  · rw [hroots, List.mem_singleton] at hname
    subst hname
    exact ⟨h.identifiers name List.mem_cons_self, h.notLiteral,
      h.notOperators name List.mem_cons_self⟩
  · rw [hproperties] at hname
    exact ⟨h.identifiers name (List.mem_cons_of_mem _ hname),
      h.notOperators name (List.mem_cons_of_mem _ hname)⟩
  · rw [hroots, hproperties, List.mem_singleton] at hname
    exact hallowed name (hname.elim (fun heq => heq ▸ List.mem_cons_self) (List.mem_cons_of_mem _))

/-- A path is its segments with dots in between. -/
theorem toList_of_segments {path root : String} {properties : List String}
    (h : Variables.segments path = root :: properties) :
    path.toList = root.toList ++ Phrase.propertiesText properties := by
  cases hpieces : Text.pieces '.' path.toList with
  | nil => exact absurd hpieces (Text.pieces_ne_nil _ _)
  | cons first more =>
    rw [Variables.segments, hpieces, List.map_cons] at h
    cases h
    rw [Shorthand.eq_of_pieces hpieces, String.toList_ofList, Phrase.propertiesText,
      List.flatMap_map]
    simp only [String.toList_ofList]

/-- A path compared with `null` is read as this comparison. -/
theorem parse_ne_null {path root : String} {properties : List String}
    (hsegments : Variables.segments path = root :: properties) (hpath : IsPath root properties)
    (hallowed : ∀ name ∈ root :: properties, isDenied name = false) :
    parse (path ++ " != null") = .ok (.binary .ne (.path root properties) (.literal .null)) := by
  have htext : path = ".".intercalate (root :: properties) := by
    rw [← String.toList_inj, toList_of_segments hsegments, Phrase.toList_intercalate_dot]
  obtain ⟨operand, htree, hwithin, hcovers⟩ :=
    (WrittenAs.path root properties).exists_covers (hpath.hasPlainNames hallowed)
  have hnull : (Phrase.literal .null).Covers "null".toList := Phrase.covers_word rfl rfl rfl
  have hparse := parse_of_covers .ne (htext ▸ hcovers) hnull (hwithin.mono (Nat.zero_le 1))
    (Phrase.within_literal .null 0)
  have hjoined : path ++ " " ++ BinaryOp.ne.symbol ++ " " ++ "null" = path ++ " != null" := by
    rw [String.append_assoc, String.append_assoc, String.append_assoc]
    rfl
  rw [htree, hjoined] at hparse
  exact hparse

/-! ### Denied names -/

/-- A word that means something is not denied. -/
theorem isDenied_of_word {name : String} {lexeme : Lexeme} (h : Token.word name = .ok lexeme) :
    isDenied name = false := by
  refine Bool.eq_false_iff.mpr fun hmem => ?_
  rw [Token.word_of_mem_denyList (isDenied_iff.mp hmem)] at h
  cases h

/-- A name that is a token is not denied. -/
theorem isDenied_of_reads {name : String} {rest : List Char} {lexemes : List Lexeme}
    (hname : Token.isIdentifier name = true)
    (hrest : ∀ d ∈ rest.head?, Shorthand.continuesPath d = false)
    (h : Reads (name.toList ++ rest) lexemes) :
    isDenied name = false ∧ ∃ behind, Reads rest behind := by
  have hcontinues : ∀ d, Token.continuesWord d = true → Shorthand.continuesPath d = true :=
    fun d hd => by
      have hforeign := Shorthand.not_isForeign_of_continuesWord hd
      rw [Shorthand.continuesPath_of_not_isForeign hforeign, hd]
  obtain ⟨c, tail, hcs, hstart, htail⟩ := Token.exists_cons_of_isIdentifier hname
  rw [hcs, List.cons_append] at h
  have hc : Shorthand.startsPath c = true := by
    rw [Shorthand.startsPath_of_not_isForeign (Shorthand.not_isForeign_of_reads h), hstart]
  obtain ⟨lexeme, behind, -, hword, -, hbehind⟩ :=
    Shorthand.reads_of_segment hc (fun d hd => hcontinues d (htail d hd)) hrest h
  rw [← hcs, String.ofList_toList] at hword
  exact ⟨isDenied_of_word hword, behind, hbehind⟩

/-- Behind the properties of a path no more of a path follows. -/
theorem continuesPath_propertiesText (properties : List String) {rest : List Char}
    (hrest : ∀ d ∈ rest.head?, Text.isBlank d = true) :
    ∀ d ∈ (Phrase.propertiesText properties ++ rest).head?, Shorthand.continuesPath d = false := by
  have hsegments := Shorthand.continuesPath_head_segments (properties.map String.toList) hrest
  rwa [List.flatMap_map] at hsegments

/-- Where a path is read, none of its properties is denied. -/
theorem isDenied_of_reads_properties {properties : List String} {rest : List Char}
    {lexemes : List Lexeme} (hnames : ∀ name ∈ properties, Token.isIdentifier name = true)
    (hrest : ∀ d ∈ rest.head?, Text.isBlank d = true)
    (h : Reads (Phrase.propertiesText properties ++ rest) lexemes) :
    ∀ name ∈ properties, isDenied name = false := by
  induction properties generalizing lexemes with
  | nil => exact List.forall_mem_nil _
  | cons property properties ih =>
    obtain ⟨hproperty, hothers⟩ := List.forall_mem_cons.mp hnames
    rw [Phrase.propertiesText_cons, List.cons_append, List.append_assoc] at h
    obtain ⟨behind, -, hbehind⟩ := h.of_dot
    obtain ⟨hallowed, behind, hmore⟩ :=
      isDenied_of_reads hproperty (continuesPath_propertiesText properties hrest) hbehind
    exact List.forall_mem_cons.mpr ⟨hallowed, ih hothers hmore⟩

/-- A path that is mentioned in an expression is allowed. -/
theorem allowed_of_parse_ne_null {path root : String} {properties : List String}
    (hsegments : Variables.segments path = root :: properties) (hpath : IsPath root properties)
    {e : Expr} (h : parse (path ++ " != null") = .ok e) :
    ∀ name ∈ root :: properties, isDenied name = false := by
  obtain ⟨tokens, htokens, -⟩ := isChain_of_parse h
  have hreads : Reads (path ++ " != null").toList (tokens.map Token.lexeme) :=
    ⟨0, tokens, htokens, rfl⟩
  have hrest : ∀ d ∈ " != null".toList.head?, Text.isBlank d = true := by
    rintro d ⟨⟩
    rfl
  obtain ⟨hroot, hproperties⟩ := List.forall_mem_cons.mp hpath.identifiers
  rw [String.toList_append, toList_of_segments hsegments, List.append_assoc] at hreads
  obtain ⟨hallowed, behind, hbehind⟩ :=
    isDenied_of_reads hroot (continuesPath_propertiesText properties hrest) hreads
  exact List.forall_mem_cons.mpr
    ⟨hallowed, isDenied_of_reads_properties hproperties hrest hbehind⟩

/-- Loose equality takes the two missing values for `null`, and nothing else. -/
theorem truthy_eval_ne_null (vars : Variables) (operand : Expr) :
    (eval vars (.binary .ne operand (.literal .null))).truthy = !(eval vars operand).isNullish := by
  have hloose := Value.looseEquals_of_isNullish (a := .null) rfl (eval vars operand)
  rw [Value.looseEquals_comm] at hloose
  exact congrArg Bool.not hloose

end Expr

namespace Shorthand

/-- A text without blanks is one word. -/
theorem isWord_of_all {word : List Char} (hne : word ≠ [])
    (hsolid : word.all (!Text.isBlank ·) = true) : IsWord word :=
  ⟨hne, fun c hc => by simpa using List.all_eq_true.mp hsolid c hc⟩

/-- The expression is no shorthand, since `!=` is no keyword. -/
theorem recognize?_ne_null {path : String} (hpath : IsDotted path.toList) :
    recognize? (path ++ " != null") = none := by
  have hsign : IsWord "!=".toList := isWord_of_all (by decide) (by decide)
  have hnull : IsWord "null".toList := isWord_of_all (by decide) (by decide)
  have hblank : ∀ c ∈ [' '], Text.isBlank c = true := List.forall_mem_singleton.mpr rfl
  have htext : Says [path.toList, "!=".toList, "null".toList] (path ++ " != null").toList := by
    rw [String.toList_append]
    exact .more (List.forall_mem_nil _) (List.cons_ne_nil _ _) hblank
      (.more (List.forall_mem_nil _) (List.cons_ne_nil _ _) hblank
        (.last (List.forall_mem_nil _) (List.forall_mem_nil _)))
  have hwords : Text.words (path ++ " != null").toList = _ := (words_eq_iff (by
    simp only [List.forall_mem_cons]
    exact ⟨hpath.isWord, hsign, hnull, List.forall_mem_nil _⟩)).mpr htext
  obtain ⟨rest, hcuts, hrest⟩ := htext.exists_cuts hpath.isWord
  obtain ⟨behind, hnext, -⟩ := hrest.exists_cuts hsign
  have his : isKeyword "is" "!=".toList = false := by decide
  have hcontains : isKeyword "contains" "!=".toList = false := by decide
  rw [recognize?, hwords, ofWords?, his, containing?, hcuts.splitWord_eq hpath.isWord]
  simp only [hnext.splitWord_eq hsign, hcontains, Bool.and_false, Bool.false_and,
    Bool.false_eq_true, if_false, Option.or_none]

/-- Asking whether a path exists is comparing it with `null`. -/
theorem holds_ne_null {path root : String} {properties : List String}
    (hpath : IsDotted path.toList) (hsegments : Variables.segments path = root :: properties)
    (hnames : Expr.IsPath root properties) {condition : String}
    (h : Asks condition (.present path)) (vars : Variables) :
    Condition.holds condition vars = Condition.holds (path ++ " != null") vars := by
  by_cases hallowed : ∀ name ∈ root :: properties, isDenied name = false
  · have hvalue : resolve path vars = .ok (Expr.eval vars (.path root properties)) :=
      resolve_of_allowed hsegments (hsegments ▸ hallowed) vars
    have heval : Condition.eval (path ++ " != null") vars =
        .ok (!(Expr.eval vars (.path root properties)).isNullish) := by
      rw [← Expr.truthy_eval_ne_null]
      simp only [Condition.eval, recognize?_ne_null hpath, evaluate,
        Expr.parse_ne_null hsegments hnames hallowed]
      rfl
    rw [holds_of_resolve_eq_ok h hvalue, Condition.holds_of_eval_eq_ok heval]
    rfl
  · obtain ⟨name, hname, hdenied⟩ : ∃ name ∈ root :: properties, isDenied name = true := by
      by_contra hnone
      exact hallowed fun name hname => Bool.eq_false_iff.mpr fun h => hnone ⟨name, hname, h⟩
    obtain ⟨cause, hcause⟩ := resolve_of_denied ⟨name, hsegments ▸ hname, hdenied⟩ vars
    rw [holds_of_resolve_eq_error h hcause]
    cases hparse : Expr.parse (path ++ " != null") with
    | ok e => exact absurd (Expr.allowed_of_parse_ne_null hsegments hnames hparse) hallowed
    | error cause =>
      have heval : Condition.eval (path ++ " != null") vars = .error cause := by
        simp only [Condition.eval, recognize?_ne_null hpath, evaluate, hparse]
        rfl
      exact (Condition.holds_of_eval_eq_error heval).symm

/-! ## Coherence -/

/-- **What is asked of one path fits together.** Asked with `exists` in front, the answer is the
same as with `exists` behind, unless the path could be the keyword as well and is not what stands
for it. Of a path without denied segments, exactly one of `is empty` and `is not empty` holds, and
`is empty` does if the path does not exist; of one with a denied segment nothing holds. And a path
that expressions can mention exists exactly if it differs from `null` there, whether or not one of
its names is denied. -/
theorem coherent {path behind : String} {word : List Char} (hpath : IsDotted path.toList)
    (hword : Spells "exists" word) (hbehind : Says [path.toList, word] behind.toList)
    (vars : Variables) :
    (∀ (before : String) (word' : List Char), Spells "exists" word' →
      Says [word', path.toList] before.toList →
      (Spells "exists" path.toList → word' = path.toList) →
        Condition.holds before vars = Condition.holds behind vars) ∧
    ((∀ segment ∈ Variables.segments path, isDenied segment = false) →
      ∀ vacant occupied : String, ReadsAs vacant.toList (.empty path false) →
        ReadsAs occupied.toList (.empty path true) →
        Condition.holds occupied vars = !Condition.holds vacant vars ∧
          (Condition.holds behind vars = false → Condition.holds vacant vars = true)) ∧
    ((∃ segment ∈ Variables.segments path, isDenied segment = true) →
      ∀ (condition : String) (shorthand : Shorthand), ReadsAs condition.toList shorthand →
        shorthand.path = path → Condition.holds condition vars = false) ∧
    ∀ root properties, Variables.segments path = root :: properties →
      Expr.IsPath root properties →
        Condition.holds behind vars = Condition.holds (path ++ " != null") vars := by
  have hasks : Asks behind (.present path) := by
    have hpresent := asks_of_exists_behind hpath hword hbehind
    rwa [String.ofList_toList] at hpresent
  refine ⟨fun before word' hword' hbefore hsame => ?existence,
    fun hallowed vacant occupied hvacant hoccupied => ?emptiness,
    fun hdenied condition shorthand hreads heq => ?denied,
    fun root properties hsegments hnames => holds_ne_null hpath hsegments hnames hasks vars⟩
  case existence =>
    have hpresent := asks_of_exists_before hpath hword' hbefore hsame
    rw [String.ofList_toList] at hpresent
    exact holds_eq_of_asks hpresent hasks vars
  case emptiness =>
    obtain ⟨root, properties, hsegments⟩ := exists_segments path
    have hvalue := resolve_of_allowed hsegments hallowed vars
    rw [holds_of_resolve_eq_ok (hvacant.asks nofun) hvalue,
      holds_of_resolve_eq_ok (hoccupied.asks nofun) hvalue, holds_of_resolve_eq_ok hasks hvalue]
    simp only [answer, Bool.bne_true, Bool.bne_false, Bool.not_eq_false', true_and]
    exact isEmpty_of_isNullish
  case denied =>
    subst heq
    obtain ⟨cause, hcause⟩ := resolve_of_denied hdenied vars
    refine holds_of_resolve_eq_error (hreads.asks fun name hname hspells => ?_) hcause
    obtain ⟨segment, hsegment, hdenied⟩ := hdenied
    rw [hname] at hsegment
    rw [isDenied_of_spells hspells segment hsegment] at hdenied
    cases hdenied

/-- A variable that is called like the keyword exists, but with the keyword in front, the text asks
for the variable that is written like the keyword. -/
theorem holds_exists_of_capitals :
    IsDotted "EXISTS".toList ∧ Condition.holds "EXISTS exists" [("EXISTS", .ofNat 1)] = true ∧
      Condition.holds "exists EXISTS" [("EXISTS", .ofNat 1)] = false :=
  ⟨isPath_iff_isDotted.mp (by decide), by decide +kernel, by decide +kernel⟩

/-- An empty list exists, and is empty. -/
theorem coherent_of_empty_list :
    let vars : Variables := [("reply", .object [("items", .array [])])]
    Condition.holds "Exists\treply.items" vars = Condition.holds "reply.items exists" vars ∧
      Condition.holds "reply.items is not empty" vars =
        !Condition.holds "reply.items IS empty" vars ∧
      Condition.holds "reply.items exists" vars = Condition.holds "reply.items != null" vars := by
  intro vars
  have hpath : IsDotted "reply.items".toList := isPath_iff_isDotted.mp (by decide)
  have hexists : Spells "exists" "exists".toList :=
    (isKeyword_iff_spells (by decide)).mp (by decide)
  have hcapital : Spells "exists" "Exists".toList :=
    (isKeyword_iff_spells (by decide)).mp (by decide)
  have hbehind : Says ["reply.items".toList, "exists".toList] "reply.items exists".toList :=
    (words_eq_iff (by simp only [List.forall_mem_cons]; exact
      ⟨hpath.isWord, hexists.isWord, List.forall_mem_nil _⟩)).mp (by decide)
  have hbefore : Says ["Exists".toList, "reply.items".toList] "Exists\treply.items".toList :=
    (words_eq_iff (by simp only [List.forall_mem_cons]; exact
      ⟨hcapital.isWord, hpath.isWord, List.forall_mem_nil _⟩)).mp (by decide)
  have hnot : ¬ Spells "exists" "reply.items".toList := fun h =>
    absurd (isKeyword_of_spells h) (by decide)
  obtain ⟨hsame, hallowed, -, hexpression⟩ := coherent hpath hexists hbehind vars
  obtain ⟨hopposite, -⟩ := hallowed (by decide) "reply.items IS empty" "reply.items is not empty"
    (readsAs_of_recognize? (by decide +kernel)) (readsAs_of_recognize? (by decide +kernel))
  exact ⟨hsame _ _ hcapital hbefore fun h => absurd h hnot, hopposite,
    hexpression "reply" ["items"] (by decide) ⟨by decide, by decide, by decide⟩⟩

end Shorthand

end AgentFlow
