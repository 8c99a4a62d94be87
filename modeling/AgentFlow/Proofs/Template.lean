import AgentFlow.Proofs.Expr.Sandbox
import AgentFlow.Template

/-!
# What a template depends on

A path reads the variable that it starts with, and a template those that the keys of its
placeholders start with. So in two environments that agree on these, it gives the same.

Where the placeholders are does not depend on the environment: text that is put in is not looked at
again, and a placeholder that stays is skipped like one that is replaced.
-/

namespace AgentFlow

namespace Variables

variable {names : String → Prop} {vars vars' : Variables}

/-! ## Agreement -/

/-- A variable that is not looked at may have any value. -/
theorem agreeOn_insert {key : String} (h : ¬ names key) (value : Json) (vars : Variables) :
    AgreeOn names (vars.insert key value) vars := by
  intro name hname
  have hne : name ≠ key := fun heq => h (heq ▸ hname)
  exact Fields.get?_insert_of_ne hne value vars

theorem AgreeOn.symm (h : vars.AgreeOn names vars') : vars'.AgreeOn names vars :=
  fun name hname => (h name hname).symm

theorem AgreeOn.trans {vars'' : Variables} (h : vars.AgreeOn names vars')
    (h' : vars'.AgreeOn names vars'') : vars.AgreeOn names vars'' :=
  fun name hname => (h name hname).trans (h' name hname)

/-- Setting one variable on both sides. -/
theorem AgreeOn.insert (h : vars.AgreeOn names vars') (key : String) (value : Json) :
    AgreeOn names (Fields.insert key value vars) (Fields.insert key value vars') := by
  intro name hname
  by_cases heq : name = key
  · rw [heq, Fields.get?_insert_self, Fields.get?_insert_self]
  · rw [Fields.get?_insert_of_ne heq, Fields.get?_insert_of_ne heq]
    exact h name hname

/-- Setting several variables on both sides. -/
theorem AgreeOn.merge (h : vars.AgreeOn names vars') (more : Fields Json) :
    AgreeOn names (Fields.merge vars more) (Fields.merge vars' more) := by
  unfold Fields.merge
  induction more generalizing vars vars' with
  | nil => exact h
  | cons entry more ih => exact ih (h.insert entry.1 entry.2)

/-! ## Paths -/

/-- The variable that a path starts with. -/
def root? (path : String) : Option String :=
  (segments path).head?

/-- What a path leads to depends on its root alone. -/
theorem path?_congr {path : String}
    (h : ∀ root ∈ root? path, vars.get? root = vars'.get? root) :
    vars.path? path = vars'.path? path := by
  unfold path?
  unfold root? at h
  cases hsegments : segments path with
  | nil => rfl
  | cons root rest =>
    have hroot : vars.get? root = vars'.get? root := h root (by rw [hsegments]; rfl)
    simp only [hroot]

end Variables

/-! ## Placeholders -/

namespace Template

/-- The placeholders of a text: what stands between their braces. -/
def placeholders : List Char → List (List Char)
  | [] => []
  | '\x7b' :: '\x7b' :: rest =>
    match h : body? rest with
    | none => placeholders ('\x7b' :: rest)
    | some (body, behind) =>
      have := length_of_body? h
      body :: placeholders behind
  | _ :: rest => placeholders rest
termination_by cs => cs.length
decreasing_by all_goals simp only [List.length_cons]; omega

/-- The variables that a template names. -/
def roots (template : String) : List String :=
  (placeholders template.toList).filterMap fun body => Variables.root? (String.ofList (key body))

variable {vars vars' : Variables}

/-- What takes the place of a placeholder depends on the root of its path alone. -/
theorem replacement?_congr {body : List Char}
    (h : ∀ root ∈ Variables.root? (String.ofList (key body)), vars.get? root = vars'.get? root) :
    replacement? vars body = replacement? vars' body := by
  rw [replacement?, replacement?, Variables.path?_congr h]

/-- Braces that open no placeholder stay. -/
theorem expand_of_body?_eq_none (vars : Variables) {rest : List Char} (h : body? rest = none) :
    expand vars ('\x7b' :: '\x7b' :: rest) = '\x7b' :: expand vars ('\x7b' :: rest) := by
  rw [expand]
  split
  next => rfl
  next heq => cases h.symm.trans heq

/-- Whether a placeholder is replaced or stays, expansion goes on behind it. -/
theorem expand_of_body?_eq_some (vars : Variables) {rest body behind : List Char}
    (h : body? rest = some (body, behind)) :
    expand vars ('\x7b' :: '\x7b' :: rest) =
      (match replacement? vars body with
        | some text => text.toList
        | none => '\x7b' :: '\x7b' :: body ++ ['\x7d', '\x7d']) ++ expand vars behind := by
  rw [expand]
  split
  next heq => cases h.symm.trans heq
  next body' behind' heq =>
    cases h.symm.trans heq
    cases replacement? vars body with
    | some text => rfl
    | none => simp

/-- A template depends on its placeholders alone. -/
theorem expand_congr (cs : List Char)
    (h : ∀ body ∈ placeholders cs, replacement? vars body = replacement? vars' body) :
    expand vars cs = expand vars' cs := by
  fun_induction placeholders cs with
  | case1 => rw [expand, expand]
  | case2 rest hbody ih =>
    rw [expand_of_body?_eq_none vars hbody, expand_of_body?_eq_none vars' hbody, ih h]
  | case3 rest body behind hbody _ ih =>
    have hreplacement := h body List.mem_cons_self
    have hbehind := ih fun body hmem => h body (List.mem_cons_of_mem _ hmem)
    rw [expand_of_body?_eq_some vars hbody, expand_of_body?_eq_some vars' hbody, hreplacement,
      hbehind]
  | case4 c rest hc ih => rw [expand.eq_3 _ _ _ hc, expand.eq_3 _ _ _ hc, ih h]

/-- The text of a template depends on the variables that it names. -/
theorem interpolate_congr {template : String} (h : vars.AgreeOn (· ∈ roots template) vars') :
    interpolate template vars = interpolate template vars' := by
  have hbodies : ∀ body ∈ placeholders template.toList,
      replacement? vars body = replacement? vars' body := by
    intro body hbody
    apply replacement?_congr
    intro root hroot
    exact h root (List.mem_filterMap.mpr ⟨body, hbody, hroot⟩)
  rw [interpolate, interpolate, expand_congr _ hbodies]

end Template

end AgentFlow
