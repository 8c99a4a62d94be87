import AgentFlow.Proofs.Decode.Written
import AgentFlow.Proofs.Execution.ValidFlow

/-!
# Checked conditions

Whether a condition can be evaluated depends on its text only. What can be wrong with it is found
while an expression is read or while the segments of a shorthand's path are held against the
deny-list, and no variable has a part in either. So a check that looks at no variables comes to the
same as evaluating the condition, but for the value (`Condition.check_eq_map_eval`).

Validation checks the text that a condition step evaluates: both are found in the same setting
(`Step.condition_eq_ok_iff`). A condition step of a valid flow therefore goes the way that the value
of its condition tells, and never one because there was no value.
-/

namespace AgentFlow

namespace Shorthand

/-- Whether the path of a shorthand is allowed depends on no variable. -/
theorem map_resolve_eq (path : String) (vars vars' : Variables) :
    (resolve path vars).map (fun _ => ()) = (resolve path vars').map fun _ => () := by
  unfold resolve
  cases Variables.segments path with
  | nil => rfl
  | cons root properties =>
    by_cases hroot : isDenied root = true
    · simp only [hroot, if_true]
    · simp only [hroot]
      cases properties.find? isDenied with
      | some property => rfl
      | none => rfl

end Shorthand

namespace Condition

/-- The check of a condition is its evaluation without the value. -/
theorem check_eq_map_eval (condition : String) (vars : Variables) :
    check condition = (eval condition vars).map fun _ => () := by
  unfold check eval
  cases Shorthand.recognize? condition with
  | some shorthand =>
    simp only [Shorthand.eval]
    rw [Shorthand.map_resolve_eq shorthand.path [] vars]
    cases Shorthand.resolve shorthand.path vars with
    | error cause => rfl
    | ok value => rfl
  | none =>
    simp only [evaluate]
    cases Expr.parse condition with
    | error cause => rfl
    | ok e => rfl

/-- A condition passes the check exactly if it has a value, with whatever variables. -/
theorem check_eq_ok_iff {condition : String} (vars : Variables) :
    check condition = .ok () ↔ ∃ b, eval condition vars = .ok b := by
  rw [check_eq_map_eval condition vars, map_eq_ok]
  exact exists_congr fun b => and_iff_left rfl

/-- The check fails for the reason that the evaluation fails for, with whatever variables. -/
theorem check_eq_error_iff {condition : String} {cause : ExprError} (vars : Variables) :
    check condition = .error cause ↔ eval condition vars = .error cause := by
  rw [check_eq_map_eval condition vars]
  cases eval condition vars with
  | error other => exact ⟨fun h => by cases h; rfl, fun h => by cases h; rfl⟩
  | ok b => exact ⟨nofun, nofun⟩

end Condition

/-! ## The condition of a step -/

namespace Step

/-- The condition is what stands in the settings under `condition`, if that is a text. -/
theorem condition_of_readConfig {step : Step} {config : ConditionConfig}
    (h : step.readConfig ConditionConfig.read = .ok config) :
    config.condition = (step.config.get? "condition").bind Json.text? := by
  obtain ⟨text, hfield, rfl⟩ := Checked.map_eq_ok.mp (build_of_readConfig h)
  exact RecordType.eq_of_optional_text hfield

/-- Settings that have each key once, and a text as their condition, can be read. -/
theorem readConfig_of_condition {step : Step} (hkeys : step.config.keys.Nodup) {text : String}
    (htext : step.config.get? "condition" = some (.string text)) :
    step.readConfig ConditionConfig.read = .ok ⟨some text⟩ := by
  have hread : ConditionConfig.read.Reads (.object step.config) ⟨some text⟩ :=
    RecordType.reads_object_of_nodup hkeys fun _ =>
      Checked.map_ok_of (RecordType.optional_of_get? Decode.reads_optional_text htext)
  rw [readConfig, hread]
  rfl

/-- What a condition step evaluates stands in its settings. -/
theorem configText?_of_condition {step : Step} {text : String} (h : step.condition = .ok text) :
    step.configText? "condition" = some text := by
  unfold condition at h
  cases hconfig : step.readConfig ConditionConfig.read with
  | error cause =>
    simp only [hconfig] at h
    cases h
  | ok config =>
    simp only [hconfig, condition_of_readConfig hconfig] at h
    unfold configText?
    split at h
    next htext =>
      cases h
      exact htext
    next => cases h

/-- A condition step evaluates the text that validation checks. -/
theorem condition_eq_ok_iff {step : Step} (hkeys : step.config.keys.Nodup) {text : String} :
    step.condition = .ok text ↔ step.configText? "condition" = some text := by
  refine ⟨configText?_of_condition, fun h => ?_⟩
  obtain ⟨hstored, hnotBlank⟩ := Option.filter_eq_some_iff.mp h
  obtain ⟨value, hvalue, hstring⟩ := Option.bind_eq_some_iff.mp hstored
  cases value with
  | string s =>
    cases hstring
    have hnonBlank : nonBlank? (some text) = some text :=
      Option.filter_eq_some_iff.mpr ⟨rfl, hnotBlank⟩
    simp only [condition, readConfig_of_condition hkeys hvalue, hnonBlank]
  | null | bool | number | array | object => cases hstring

end Step

/-- In a valid flow the conditions of all condition steps can be evaluated. -/
theorem Flow.check_of_valid {flow : Flow} (hvalid : flow.validate.valid = true) {step : Step}
    (hstep : step ∈ flow) (hkind : step.kind = .condition) {text : String}
    (htext : step.configText? "condition" = some text) : Condition.check text = .ok () := by
  obtain ⟨-, -, hsteps⟩ := validate_valid_iff.mp hvalid
  have hsetting := (hsteps step hstep).2
  rw [Step.settingErrors, hkind] at hsetting
  simp only [htext] at hsetting
  cases hcheck : Condition.check text with
  | ok => rfl
  | error cause =>
    rw [hcheck] at hsetting
    cases hsetting

/-! ## The way of a step -/

/-- A condition step goes the way that its condition tells. -/
theorem Walk.turn_of_condition {σ : Type} (collaborators : Collaborators σ) {step : Step}
    (hkind : step.kind = .condition) {text : String} (hcondition : step.condition = .ok text)
    (walk : Walk σ) :
    (turn collaborators .builtin step walk).1 =
      (StepResult.ok (if Condition.holds text walk.execution.context.vars then
        step.connections.onTrue else step.connections.onFalse)).turn step.id := by
  have hhandler : Handlers.builtin step.kind = some (Handler.condition (σ := σ)) := by
    rw [hkind]
    rfl
  simp only [turn, hhandler, Handler.condition_of_ok hcondition]

/-- A run stays within its flow. -/
theorem Task.mem_flow_of_mem_itinerary {σ : Type} {collaborators : Collaborators σ}
    {handlers : Handlers σ} {task : Task} {world : σ} {visit : Step × Walk σ}
    (h : visit ∈ task.itinerary collaborators handlers world) : visit.1 ∈ task.flow := by
  unfold itinerary at h
  cases hentry : task.flow.entry? with
  | none =>
    rw [hentry] at h
    cases h
  | some entry =>
    simp only [hentry] at h
    exact Walk.mem_flow_of_mem_itinerary _ _ (Flow.mem_of_entry?_eq_some hentry) visit h

namespace Condition

/-- **The check of conditions is exact.** The check of a text passes exactly if the text can be
evaluated in every environment, and if it finds a cause, then evaluation fails over this cause in
every environment, and the condition does not hold. The text that validation checks is the one that
a condition step evaluates. So whenever a condition step with a condition is reached in a run of a
valid flow, its condition has a value, and the step goes the way that this value tells. -/
theorem check_exact (condition : String) :
    (check condition = .ok () ↔ ∀ vars, ∃ b, eval condition vars = .ok b) ∧
    (∀ cause, check condition = .error cause →
      ∀ vars, eval condition vars = .error cause ∧ holds condition vars = false) ∧
    (∀ step : Step, step.config.keys.Nodup →
      (step.condition = .ok condition ↔ step.configText? "condition" = some condition)) ∧
    ∀ (σ : Type) (collaborators : Collaborators σ) (task : Task) (world : σ),
      task.flow.validate.valid = true →
      ∀ visit ∈ task.itinerary collaborators .builtin world,
        visit.1.kind = .condition → visit.1.condition = .ok condition →
        ∃ b, eval condition visit.2.execution.context.vars = .ok b ∧
          (Walk.turn collaborators .builtin visit.1 visit.2).1 =
            (StepResult.ok (if b then visit.1.connections.onTrue
              else visit.1.connections.onFalse)).turn visit.1.id := by
  refine ⟨⟨fun h vars => (check_eq_ok_iff vars).mp h, fun h => (check_eq_ok_iff []).mpr (h [])⟩,
    fun cause h vars => ?_, fun step hkeys => Step.condition_eq_ok_iff hkeys,
    fun σ collaborators task world hvalid visit hvisit hkind hcondition => ?_⟩
  · have heval := (check_eq_error_iff vars).mp h
    exact ⟨heval, holds_of_eval_eq_error heval⟩
  · have hmem := Task.mem_flow_of_mem_itinerary hvisit
    have hcheck := Flow.check_of_valid hvalid hmem hkind (Step.configText?_of_condition hcondition)
    obtain ⟨b, heval⟩ := (check_eq_ok_iff visit.2.execution.context.vars).mp hcheck
    refine ⟨b, heval, ?_⟩
    rw [Walk.turn_of_condition collaborators hkind hcondition, holds_of_eval_eq_ok heval]

/-- A condition over a variable that is missing has a truth value, which the step follows. One with
a denied property has none, whatever the variable holds. -/
theorem check_exact_of_missing_variable :
    let branch : Step :=
      { id := "branch", kind := .condition
        config := [("condition", .string "reply.items is not empty")]
        connections := { onTrue := some "out", onFalse := some "in" } }
    let task : Task :=
      { agent := {}
        flow :=
          [{ id := "in", kind := .start, connections := { next := some "branch" } }, branch,
            { id := "out", kind := .output }]
        input := {}
        options := {} }
    (branch.config.keys.Nodup ∧ branch.condition = .ok "reply.items is not empty") ∧
      task.flow.validate.valid = true ∧
      (∃ walk, (branch, walk) ∈ task.itinerary Playback.scripted .builtin {} ∧
        eval "reply.items is not empty" walk.execution.context.vars = .ok false ∧
        (Walk.turn Playback.scripted .builtin branch walk).1 = .goOn "in") ∧
      check "reply.constructor exists" = .error (.blockedProperty "constructor") ∧
      eval "reply.constructor exists" [("reply", .null)] =
        .error (.blockedProperty "constructor") ∧
      holds "reply.constructor exists" [("reply", .null)] = false := by
  intro branch task
  obtain ⟨-, -, hsteps, hvisits⟩ := check_exact "reply.items is not empty"
  obtain ⟨-, hcause, -, -⟩ := check_exact "reply.constructor exists"
  have hkeys : branch.config.keys.Nodup := by decide
  have hcondition : branch.condition = .ok "reply.items is not empty" :=
    (hsteps branch hkeys).mpr (by decide +kernel)
  have hvalid : task.flow.validate.valid = true := by decide +kernel
  have hblocked : check "reply.constructor exists" = .error (.blockedProperty "constructor") := by
    decide +kernel
  obtain ⟨walk, hsecond, heval⟩ : ∃ walk,
      (task.itinerary Playback.scripted .builtin {})[1]? = some (branch, walk) ∧
      eval "reply.items is not empty" walk.execution.context.vars = .ok false :=
    ⟨_, rfl, by decide +kernel⟩
  have hvisit := List.mem_of_getElem? hsecond
  obtain ⟨b, hb, hturn⟩ :=
    hvisits Playback Playback.scripted task {} hvalid _ hvisit rfl hcondition
  obtain rfl : b = false := Except.ok.inj (hb.symm.trans heval)
  exact ⟨⟨hkeys, hcondition⟩, hvalid, ⟨walk, hvisit, heval, hturn⟩, hblocked,
    hcause _ hblocked [("reply", .null)]⟩

end Condition

end AgentFlow
