import AgentFlow.Condition
import AgentFlow.Proofs.Expr.Reading

/-!
# The sandbox

What an expression evaluates to depends on the variables that it names and on no others, and nothing
that can be read names anything on the deny-list. So what stands in the environment under a denied
name makes no difference, neither to an expression nor to a condition.

A shorthand is not read as an expression, so no token vouches for its words. Its path is checked
when it is resolved, before a variable is looked up.
-/

namespace AgentFlow

/-- Two environments have the same variables of certain names. -/
def Variables.AgreeOn (names : String → Prop) (vars vars' : Variables) : Prop :=
  ∀ name, names name → vars.get? name = vars'.get? name

namespace Expr

/-- The paths in an expression: a variable and the properties followed from it. -/
def paths : Expr → List (String × List String)
  | .literal _ => []
  | .path root properties => [(root, properties)]
  | .unary _ operand => operand.paths
  | .binary _ left right => left.paths ++ right.paths

/-- The variables that an expression names. -/
def roots (e : Expr) : List String :=
  e.paths.map Prod.fst

/-- The properties that an expression names. -/
def properties (e : Expr) : List String :=
  e.paths.flatMap Prod.snd

/-! ## What is named -/

/-- A path in the tree of a phrase is made of words in its text. -/
theorem Phrase.words_of_mem_paths {level : Option Level} (phrase : Phrase level) {root : String}
    {properties : List String} (h : (root, properties) ∈ phrase.tree.paths) :
    (Word.identifier root).lexeme ∈ phrase.lexemes ∧
      ∀ name ∈ properties, ∃ word : Word, word.lexeme ∈ phrase.lexemes ∧ word.text = name := by
  induction phrase with
  | literal l => cases h
  | path root words =>
    cases List.mem_singleton.mp h
    refine ⟨List.mem_cons_self, fun name hname => ?_⟩
    obtain ⟨word, hword, rfl⟩ := List.mem_map.mp hname
    have hmem : word.lexeme ∈ words.flatMap fun word => [.symbol .dot, word.lexeme] :=
      List.mem_flatMap.mpr ⟨word, hword, List.mem_cons_of_mem _ List.mem_cons_self⟩
    exact ⟨word, List.mem_cons_of_mem _ hmem, rfl⟩
  | parens inner ih =>
    have hmem : ∀ lexeme ∈ inner.lexemes, lexeme ∈ (parens inner).lexemes := fun _ hlexeme =>
      List.mem_cons_of_mem _ (List.mem_append_left _ hlexeme)
    obtain ⟨hroot, hproperties⟩ := ih h
    exact ⟨hmem _ hroot, fun name hname =>
      (hproperties name hname).imp fun _ hword => ⟨hmem _ hword.1, hword.2⟩⟩
  | signed op operand ih =>
    obtain ⟨hroot, hproperties⟩ := ih h
    exact ⟨List.mem_cons_of_mem _ hroot, fun name hname =>
      (hproperties name hname).imp fun _ hword => ⟨List.mem_cons_of_mem _ hword.1, hword.2⟩⟩
  | single first ih => exact ih h
  | chain left op fits right ihLeft ihRight =>
    rcases List.mem_append.mp h with h | h
    · obtain ⟨hroot, hproperties⟩ := ihLeft h
      exact ⟨List.mem_append_left _ hroot, fun name hname =>
        (hproperties name hname).imp fun _ hword => ⟨List.mem_append_left _ hword.1, hword.2⟩⟩
    · have hmem : ∀ lexeme ∈ right.lexemes, lexeme ∈ (chain left op fits right).lexemes :=
        fun _ hlexeme => List.mem_append_right _ (List.mem_cons_of_mem _ hlexeme)
      obtain ⟨hroot, hproperties⟩ := ihRight h
      exact ⟨hmem _ hroot, fun name hname =>
        (hproperties name hname).imp fun _ hword => ⟨hmem _ hword.1, hword.2⟩⟩

/-- No word of a text is denied. -/
theorem Phrase.not_denied_of_spells {level : Option Level} {phrase : Phrase level} {source : String}
    (h : phrase.Spells source) {word : Word} (hword : word.lexeme ∈ phrase.lexemes) :
    isDenied word.text = false := by
  obtain ⟨tokens, -, hlexemes, hwritten⟩ := h
  have hmem : word.lexeme ∈ tokens.map Token.lexeme := by
    rw [hlexemes]
    exact List.mem_append_left _ hword
  obtain ⟨token, htoken, hlexeme⟩ := List.mem_map.mp hmem
  exact (Token.spelled_of_isWritten (hwritten token htoken) word hlexeme).2

/-- No root of a tree that is read is denied. -/
theorem not_denied_of_mem_roots {source : String} {e : Expr} (h : parse source = .ok e) :
    ∀ root ∈ e.roots, isDenied root = false := by
  obtain ⟨phrase, hspells, rfl, -⟩ := exists_phrase_of_parse h
  intro root hroot
  obtain ⟨⟨_, properties⟩, hpath, rfl⟩ := List.mem_map.mp hroot
  exact phrase.not_denied_of_spells hspells (phrase.words_of_mem_paths hpath).1

/-- No property of a tree that is read is denied. -/
theorem not_denied_of_mem_properties {source : String} {e : Expr} (h : parse source = .ok e) :
    ∀ property ∈ e.properties, isDenied property = false := by
  obtain ⟨phrase, hspells, rfl, -⟩ := exists_phrase_of_parse h
  intro property hproperty
  obtain ⟨⟨root, properties⟩, hpath, hmem⟩ := List.mem_flatMap.mp hproperty
  obtain ⟨word, hword, rfl⟩ := (phrase.words_of_mem_paths hpath).2 property hmem
  exact phrase.not_denied_of_spells hspells hword

/-! ## What a value depends on -/

/-- The value of an expression depends on the variables that it names. -/
theorem eval_congr {vars vars' : Variables} (e : Expr) (h : vars.AgreeOn (· ∈ e.roots) vars') :
    e.eval vars = e.eval vars' := by
  induction e with
  | literal value => rfl
  | path root properties =>
    have hroot : vars.get? root = vars'.get? root := h root List.mem_cons_self
    rw [eval, eval, resolvePath, resolvePath, hroot]
  | unary op operand ih => cases op <;> rw [eval, eval, ih h]
  | binary op left right ihLeft ihRight =>
    have hroots : ∀ name, name ∈ left.roots ∨ name ∈ right.roots →
        name ∈ (binary op left right).roots := by
      intro name hname
      rw [roots, paths, List.map_append]
      exact List.mem_append.mpr hname
    rw [eval, eval, ihLeft fun name hname => h name (hroots name (.inl hname)),
      ihRight fun name hname => h name (hroots name (.inr hname))]

end Expr

open AgentFlow.Expr (parse)

/-- What a text comes to depends on the roots of its tree alone. -/
theorem evaluate_congr {source : String} {vars vars' : Variables}
    (h : ∀ e, parse source = .ok e → vars.AgreeOn (· ∈ e.roots) vars') :
    evaluate source vars = evaluate source vars' := by
  unfold evaluate
  cases hparse : parse source with
  | error cause => rfl
  | ok e => exact congrArg Except.ok (e.eval_congr (h e hparse))

/-- The value of a shorthand depends on the variable that its path starts with, and on none if that
name is denied. -/
theorem Shorthand.eval_congr {vars vars' : Variables} (shorthand : Shorthand)
    (h : ∀ root ∈ (Variables.segments shorthand.path).head?, isDenied root = false →
      vars.get? root = vars'.get? root) : shorthand.eval vars = shorthand.eval vars' := by
  have hresolve : resolve shorthand.path vars = resolve shorthand.path vars' := by
    unfold resolve
    cases hsegments : Variables.segments shorthand.path with
    | nil => rfl
    | cons root properties =>
      by_cases hdenied : isDenied root = true
      · simp only [hdenied, if_true]
      · have hget : vars.get? root = vars'.get? root :=
          h root (by rw [hsegments]; rfl) (Bool.eq_false_iff.mpr hdenied)
        have heval : Expr.eval vars (.path root properties) =
            Expr.eval vars' (.path root properties) := by
          apply Expr.eval_congr
          intro name hname
          rw [List.mem_singleton.mp hname]
          exact hget
        simp only [heval]
  rw [Shorthand.eval, Shorthand.eval, hresolve]

namespace Condition

/-- The variables that a condition names: the one that the path of a shorthand starts with, or those
that an expression names. -/
def roots (condition : String) : List String :=
  match Shorthand.recognize? condition with
  | some shorthand => (Variables.segments shorthand.path).head?.toList
  | none => ((parse condition).toOption.map Expr.roots).getD []

/-- The value of a condition depends on the variables that it names, as far as they are allowed. -/
theorem eval_congr {vars vars' : Variables} (condition : String)
    (h : vars.AgreeOn (fun name => name ∈ roots condition ∧ isDenied name = false) vars') :
    eval condition vars = eval condition vars' := by
  unfold eval
  unfold roots at h
  cases hshorthand : Shorthand.recognize? condition with
  | some shorthand =>
    rw [hshorthand] at h
    exact shorthand.eval_congr fun root hroot hallowed =>
      h root ⟨Option.mem_toList.mpr hroot, hallowed⟩
  | none =>
    rw [hshorthand] at h
    have hvalue : evaluate condition vars = evaluate condition vars' := by
      apply evaluate_congr
      intro e he root hroot
      refine h root ⟨?_, Expr.not_denied_of_mem_roots he root hroot⟩
      rw [he]
      exact hroot
    simp only [hvalue]

end Condition

/-- **The sandbox.** A text that is read names no variable and no property that is denied, and its
value is the same in any two environments that have the same variables of those that it names. So
what an environment has under the denied names makes no difference to the value of an expression, to
the error of one that cannot be read, nor to a condition. -/
theorem sandboxed (source : String) :
    (∀ e, parse source = .ok e →
      (∀ root ∈ e.roots, isDenied root = false) ∧
      (∀ property ∈ e.properties, isDenied property = false) ∧
      ∀ vars vars' : Variables, vars.AgreeOn (· ∈ e.roots) vars' →
        evaluate source vars = evaluate source vars') ∧
    (∀ vars vars' : Variables, vars.AgreeOn (· ∈ Condition.roots source) vars' →
      Condition.eval source vars = Condition.eval source vars') ∧
    ∀ vars vars' : Variables, vars.AgreeOn (isDenied · = false) vars' →
      evaluate source vars = evaluate source vars' ∧
      Condition.eval source vars = Condition.eval source vars' ∧
      Condition.holds source vars = Condition.holds source vars' := by
  refine ⟨fun e he => ?_, fun vars vars' h => ?_, fun vars vars' h => ?_⟩
  · refine ⟨Expr.not_denied_of_mem_roots he, Expr.not_denied_of_mem_properties he,
      fun vars vars' h => evaluate_congr fun e' he' => ?_⟩
    cases he.symm.trans he'
    exact h
  · exact Condition.eval_congr source fun name hname => h name hname.1
  · have hcondition : Condition.eval source vars = Condition.eval source vars' :=
      Condition.eval_congr source fun name hname => h name hname.2
    refine ⟨evaluate_congr fun e he root hroot => ?_, hcondition, ?_⟩
    · exact h root (Expr.not_denied_of_mem_roots he root hroot)
    · rw [Condition.holds, Condition.holds, hcondition]

/-- A variable with the name `process` may stand in the environment or not. -/
theorem sandboxed_from_process :
    let vars : Variables := [("process", .object [("user", .string "root")]), ("user", .string "a")]
    let vars' : Variables := [("user", .string "a")]
    vars.AgreeOn (isDenied · = false) vars' ∧
      evaluate "user + process" vars = evaluate "user + process" vars' ∧
      Condition.eval "process.user exists" vars = Condition.eval "process.user exists" vars' ∧
      Condition.holds "user exists" vars = Condition.holds "user exists" vars' := by
  intro vars vars'
  have hagree : vars.AgreeOn (isDenied · = false) vars' := by
    intro name hname
    have hne : "process" ≠ name := by
      rintro rfl
      exact absurd hname (by decide)
    exact if_neg hne
  obtain ⟨-, -, hvalue⟩ := sandboxed "user + process"
  obtain ⟨-, -, hshorthand⟩ := sandboxed "process.user exists"
  obtain ⟨-, -, hcondition⟩ := sandboxed "user exists"
  exact ⟨hagree, (hvalue vars vars' hagree).1, (hshorthand vars vars' hagree).2.1,
    (hcondition vars vars' hagree).2.2⟩

end AgentFlow
