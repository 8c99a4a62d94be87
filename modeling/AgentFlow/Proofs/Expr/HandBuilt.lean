import AgentFlow.Proofs.Expr.Sandbox

/-!
# Trees built by hand

A tree that was read from a text names nothing on the deny-list. A tree that was built by hand may,
and then evaluation has to keep watch itself. It does so for properties: a path through a denied
property is `undefined`, wherever the property stands and whatever the environment holds. It does
not for the variable at which a path starts, so such a tree can see a denied variable.

What evaluation looks up are the variables at which those paths start that go through no denied
property (`followed`). Denied variables make no difference to a tree and to all trees in it exactly
if none of them is followed (`Guarded`). That the tree alone is not affected says less, since an
operator may throw away what its operand has seen.
-/

namespace AgentFlow

namespace Expr

/-- The variables that evaluation looks up to some effect: those at which a path starts that goes
through no denied property. -/
def followed (e : Expr) : List String :=
  (e.paths.filter fun path => !path.2.any isDenied).map Prod.fst

/-- No denied variable is followed. -/
def Guarded (e : Expr) : Prop :=
  ∀ root ∈ e.followed, isDenied root = false

instance (e : Expr) : Decidable e.Guarded :=
  inferInstanceAs (Decidable (∀ root ∈ e.followed, isDenied root = false))

/-- Denied variables make no difference to the value. -/
def Insensitive (e : Expr) : Prop :=
  ∀ vars vars' : Variables, vars.AgreeOn (isDenied · = false) vars' → e.eval vars = e.eval vars'

/-- The tree itself and all trees in it. -/
def parts : Expr → List Expr
  | .literal value => [.literal value]
  | .path root properties => [.path root properties]
  | .unary op operand => .unary op operand :: operand.parts
  | .binary op left right => .binary op left right :: (left.parts ++ right.parts)

variable {vars vars' : Variables} {root : String} {properties : List String}

/-! ## Denied properties -/

/-- Nothing is found behind what is missing. -/
theorem foldl_guardedProperty_undefined (names : List String) :
    names.foldl guardedProperty .undefined = .undefined := by
  induction names with
  | nil => rfl
  | cons name names ih =>
    have hname : guardedProperty .undefined name = .undefined := by
      rw [guardedProperty, Value.isNullish, Bool.or_true, if_pos rfl]
    rw [List.foldl_cons, hname, ih]

/-- A path with a denied property leads to `undefined`, whatever it starts from. -/
theorem foldl_guardedProperty_of_denied {names : List String} (h : names.any isDenied = true)
    (value : Value) : names.foldl guardedProperty value = .undefined := by
  induction names generalizing value with
  | nil => cases h
  | cons name names ih =>
    rw [List.foldl_cons]
    rw [List.any_cons, Bool.or_eq_true] at h
    rcases h with hname | hnames
    · rw [guardedProperty, hname, Bool.true_or, if_pos rfl, foldl_guardedProperty_undefined]
    · exact ih hnames _

/-- A path through a denied property leads nowhere. -/
theorem eval_path_of_denied (h : properties.any isDenied = true) (vars : Variables) :
    eval vars (.path root properties) = .undefined := by
  rw [eval, resolvePath]
  exact foldl_guardedProperty_of_denied h _

/-! ## Denied variables -/

/-- A path is followed unless one of its properties is denied. -/
theorem followed_path : (path root properties).followed =
    if properties.any isDenied then [] else [root] := by
  cases h : properties.any isDenied <;> simp [followed, paths, h]

theorem followed_binary (op : BinaryOp) (left right : Expr) :
    (binary op left right).followed = left.followed ++ right.followed := by
  rw [followed, paths, List.filter_append, List.map_append]
  rfl

/-- The value of a tree depends on the variables that are followed. -/
theorem eval_congr_followed (e : Expr) (h : vars.AgreeOn (· ∈ e.followed) vars') :
    e.eval vars = e.eval vars' := by
  induction e with
  | literal value => rfl
  | path root properties =>
    by_cases hdenied : properties.any isDenied = true
    · rw [eval_path_of_denied hdenied, eval_path_of_denied hdenied]
    · rw [followed_path, if_neg hdenied] at h
      exact eval_congr _ h
  | unary op operand ih => cases op <;> rw [eval, eval, ih h]
  | binary op left right ihLeft ihRight =>
    rw [followed_binary] at h
    rw [eval, eval, ihLeft fun name hname => h name (List.mem_append_left _ hname),
      ihRight fun name hname => h name (List.mem_append_right _ hname)]

/-- Without denied roots, the denied variables do not matter. -/
theorem Guarded.insensitive {e : Expr} (h : e.Guarded) : e.Insensitive := fun _ _ hagree =>
  e.eval_congr_followed fun root hroot => hagree root (h root hroot)

/-- Trees that were read are guarded. -/
theorem guarded_of_parse {source : String} {e : Expr} (h : parse source = .ok e) : e.Guarded := by
  intro root hroot
  obtain ⟨path, hpath, rfl⟩ := List.mem_map.mp hroot
  exact not_denied_of_mem_roots h _ (List.mem_map_of_mem (List.mem_filter.mp hpath).1)

/-! ## What is not guarded -/

/-- The value with `null` at the end of the way that the names lead. -/
def nullAt (names : List String) : Json :=
  names.foldr (fun name value => .object [(name, value)]) .null

/-- An object built along the properties of a path has `null` at its end. -/
theorem foldl_guardedProperty_nullAt {names : List String} (h : names.any isDenied = false) :
    names.foldl guardedProperty (.ofJson (nullAt names)) = .null := by
  induction names with
  | nil => rfl
  | cons name names ih =>
    rw [List.any_cons, Bool.or_eq_false_iff] at h
    have hname : guardedProperty (.ofJson (nullAt (name :: names))) name =
        .ofJson (nullAt names) := by
      rw [guardedProperty, h.1]
      show (Value.object [(name, nullAt names)]).property name = _
      rw [Value.property, Fields.get?, if_pos rfl]
      rfl
    rw [List.foldl_cons, hname, ih h.2]

/-- A denied variable that is followed is seen: where it is missing the path is `undefined`, and
where it holds enough to follow the path, it may be `null`. -/
theorem not_insensitive_path (hroot : isDenied root = true)
    (hproperties : properties.any isDenied = false) : ¬ (path root properties).Insensitive := by
  intro h
  have hagree : Variables.AgreeOn (isDenied · = false) [(root, nullAt properties)] [] := by
    intro name hname
    have hne : root ≠ name := by
      rintro rfl
      rw [hroot] at hname
      cases hname
    exact if_neg hne
  have hnull : eval [(root, nullAt properties)] (.path root properties) = .null := by
    rw [eval, resolvePath, Fields.get?, if_pos rfl]
    exact foldl_guardedProperty_nullAt hproperties
  have hundefined : eval [] (.path root properties) = .undefined := by
    rw [eval, resolvePath]
    exact foldl_guardedProperty_undefined properties
  have heq := h _ _ hagree
  rw [hnull, hundefined] at heq
  cases heq

/-- If the denied variables matter to no part of a tree, no denied root is followed. -/
theorem guarded_of_insensitive_parts {e : Expr} (h : ∀ part ∈ e.parts, part.Insensitive) :
    e.Guarded := by
  induction e with
  | literal value => exact fun root hroot => nomatch hroot
  | path root properties =>
    intro name hname
    rw [followed_path] at hname
    split at hname
    next => cases hname
    next hproperties =>
      rw [List.mem_singleton.mp hname, Bool.eq_false_iff]
      exact fun hroot => not_insensitive_path hroot (Bool.eq_false_iff.mpr hproperties)
        (h _ List.mem_cons_self)
  | unary op operand ih => exact ih fun part hpart => h part (List.mem_cons_of_mem _ hpart)
  | binary op left right ihLeft ihRight =>
    have hleft := ihLeft fun part hpart =>
      h part (List.mem_cons_of_mem _ (List.mem_append_left _ hpart))
    have hright := ihRight fun part hpart =>
      h part (List.mem_cons_of_mem _ (List.mem_append_right _ hpart))
    intro root hroot
    rw [followed_binary] at hroot
    exact (List.mem_append.mp hroot).elim (hleft root) (hright root)

/-- What is in a guarded tree is guarded. -/
theorem Guarded.parts {e : Expr} (h : e.Guarded) : ∀ part ∈ e.parts, part.Guarded := by
  induction e with
  | literal value => exact List.forall_mem_singleton.mpr h
  | path root properties => exact List.forall_mem_singleton.mpr h
  | unary op operand ih => exact List.forall_mem_cons.mpr ⟨h, ih h⟩
  | binary op left right ihLeft ihRight =>
    have hboth := h
    rw [Guarded, followed_binary, List.forall_mem_append] at hboth
    exact List.forall_mem_cons.mpr
      ⟨h, List.forall_mem_append.mpr ⟨ihLeft hboth.1, ihRight hboth.2⟩⟩

/-- A tree is guarded exactly if a path that starts at a denied variable goes through a denied
property. -/
theorem guarded_iff {e : Expr} : e.Guarded ↔
    ∀ path ∈ e.paths, isDenied path.1 = true → ∃ name ∈ path.2, isDenied name = true := by
  simp only [Guarded, followed, List.mem_map, List.mem_filter, ← List.any_eq_true]
  constructor
  · intro h path hpath hroot
    cases hproperties : path.2.any isDenied with
    | true => rfl
    | false =>
      rw [h path.1 ⟨path, ⟨hpath, by rw [hproperties, Bool.not_false]⟩, rfl⟩] at hroot
      cases hroot
  · rintro h _ ⟨path, ⟨hpath, hproperties⟩, rfl⟩
    rw [Bool.eq_false_iff]
    intro hroot
    rw [h path hpath hroot] at hproperties
    cases hproperties

/-- **How far the deny-list guards evaluation.** A path through a denied property is `undefined` in
every environment. Denied variables make no difference to the value of a tree and of each tree in it
exactly if every path that starts at a denied variable goes through a denied property. All trees
that were read are of this kind. -/
theorem insensitive_parts_iff (e : Expr) :
    (∀ (root : String) (properties : List String) (vars : Variables),
      (∃ name ∈ properties, isDenied name = true) →
        eval vars (.path root properties) = .undefined) ∧
    ((∀ part ∈ e.parts, part.Insensitive) ↔
      ∀ path ∈ e.paths, isDenied path.1 = true → ∃ name ∈ path.2, isDenied name = true) ∧
    (∀ source, parse source = .ok e → ∀ part ∈ e.parts, part.Insensitive) := by
  have hguarded (h : e.Guarded) : ∀ part ∈ e.parts, part.Insensitive := fun part hpart =>
    (h.parts part hpart).insensitive
  refine ⟨fun root properties vars h => ?_, ?_, fun source h => hguarded (guarded_of_parse h)⟩
  · exact eval_path_of_denied (List.any_eq_true.mpr h) vars
  · rw [← guarded_iff]
    exact ⟨guarded_of_insensitive_parts, hguarded⟩

/-- The path starts at `process`, but goes through `constructor`. Whatever `process` holds, nothing
of it is seen in this comparison. -/
theorem insensitive_parts_of_constructor :
    let e : Expr := .binary .or
      (.binary .eq (.path "process" ["env", "constructor", "name"]) (.path "user" ["name"]))
      (.unary .not (.path "user" ["active"]))
    (∀ part ∈ e.parts, part.Insensitive) ∧
      (∃ name ∈ ["env", "constructor", "name"], isDenied name = true) ∧
      eval [("process", .object [("env", .object [])])]
        (.path "process" ["env", "constructor", "name"]) = .undefined := by
  intro e
  obtain ⟨hdenied, hinsensitive, -⟩ := insensitive_parts_iff e
  have hpaths : ∀ path ∈ e.paths, isDenied path.1 = true →
      ∃ name ∈ path.2, isDenied name = true := by decide
  have hname : ∃ name ∈ ["env", "constructor", "name"], isDenied name = true := by decide
  exact ⟨hinsensitive.mpr hpaths, hname, hdenied _ _ _ hname⟩

/-- A path that starts at `process` and has no properties shows what `process` holds. -/
theorem eval_path_of_process :
    let vars : Variables := [("process", .string "root")]
    vars.AgreeOn (isDenied · = false) [] ∧ eval vars (.path "process" []) = .string "root" ∧
      eval [] (.path "process" []) = .undefined := by
  refine ⟨fun name hname => ?_, rfl, rfl⟩
  have hne : "process" ≠ name := by
    rintro rfl
    cases hname
  exact if_neg hne

end Expr

end AgentFlow
