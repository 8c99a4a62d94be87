import AgentFlow.Execution.Playback
import AgentFlow.Proofs.Execution.Service
import AgentFlow.Proofs.Flow.Graph
import AgentFlow.Proofs.Template

/-!
# What the input does not reach

A start step puts the input of an execution into two variables. A flow of start, condition, loop and
output steps whose settings name neither of them goes the same way and gives the same answer on
every input: two runs differ in these two variables, in what is traced, and in what the
collaborators have seen, and in nothing else.

The proof keeps two runs side by side. Contexts are alike if they have the same variables but for
these two, and the same loops (`Context.Alike`); each handler reports the same on contexts that are
alike and leaves them alike, so do a turn and, by induction on the steps that are left, a walk.

A flow without steps is another matter: if there is a system prompt, the input itself is the prompt.
-/

namespace AgentFlow

/-- The variables that hold the input of an execution. -/
def inputNames : List String := ["input", "sessionContext"]

/-! ## What settings name -/

/-- The variable that the list of a loop starts with. -/
def LoopConfig.roots (config : LoopConfig) : List String :=
  (config.itemsVariable.bind Variables.root?).toList

/-- The variables that an output names: in its template, and where it finds the answer. -/
def OutputConfig.roots (config : OutputConfig) : List String :=
  (config.template.map Template.roots).getD [] ++ (config.path.bind Variables.root?).toList

namespace Step

/-- The variables that the settings of a step name. -/
def roots (step : Step) : List String :=
  match step.kind with
  | .condition => (step.condition.toOption.map Condition.roots).getD []
  | .loop => ((step.readConfig LoopConfig.read).toOption.map LoopConfig.roots).getD []
  | .output => ((step.readConfig OutputConfig.read).toOption.map OutputConfig.roots).getD []
  | _ => []

/-- A step that starts, branches, loops or answers, without naming the input. -/
structure LeavesInput (step : Step) : Prop where
  kind : step.kind ∈ [StepKind.start, .condition, .loop, .output]
  roots : ∀ root ∈ step.roots, root ∉ inputNames

instance (step : Step) : Decidable step.LeavesInput :=
  decidable_of_iff (step.kind ∈ [StepKind.start, .condition, .loop, .output] ∧
      ∀ root ∈ step.roots, root ∉ inputNames)
    ⟨fun h => ⟨h.1, h.2⟩, fun h => ⟨h.kind, h.roots⟩⟩

end Step

/-! ## Contexts -/

/-- Variables of the input may be set. -/
theorem Variables.agreeOn_insert_of_mem_inputNames {name : String} (h : name ∈ inputNames)
    (value : Json) (vars : Variables) :
    Variables.AgreeOn (· ∉ inputNames) (vars.insert name value) vars :=
  agreeOn_insert (not_not_intro h) value vars

namespace Context

/-- Two contexts have the same variables, but for the input, and the same loops. -/
structure Alike (context context' : Context) : Prop where
  vars : context.vars.AgreeOn (· ∉ inputNames) context'.vars
  loops : context.loops = context'.loops

variable {context context' : Context}

/-- Setting a variable on both sides. -/
theorem Alike.set (h : context.Alike context') (name : String) (value : Json) :
    (context.set name value).Alike (context'.set name value) :=
  ⟨h.vars.insert name value, h.loops⟩

/-- The input goes into its variables and into no others. -/
theorem exists_vars_seed (given : Option (Fields Json)) (context : Context) :
    ∃ vars : Variables, vars.AgreeOn (· ∉ inputNames) context.vars ∧
      (context.seed given).vars = vars.merge (given.getD []) := by
  have hinput := Variables.agreeOn_insert_of_mem_inputNames (by decide : "input" ∈ inputNames)
    (.string context.input.content) context.vars
  unfold seed
  cases context.input.context with
  | none => exact ⟨_, hinput, rfl⟩
  | some session =>
    have hsession := Variables.agreeOn_insert_of_mem_inputNames
      (by decide : "sessionContext" ∈ inputNames) (.string session)
      (context.vars.insert "input" (.string context.input.content))
    exact ⟨_, hsession.trans hinput, rfl⟩

/-- Both sides are seeded with their own input, which is not looked at. -/
theorem Alike.seed (h : context.Alike context') (given : Option (Fields Json)) :
    (context.seed given).Alike (context'.seed given) := by
  obtain ⟨vars, hvars, heq⟩ := exists_vars_seed given context
  obtain ⟨vars', hvars', heq'⟩ := exists_vars_seed given context'
  have hagree : vars.AgreeOn (· ∉ inputNames) vars' := (hvars.trans h.vars).trans hvars'.symm
  refine ⟨?_, h.loops⟩
  rw [heq, heq']
  exact hagree.merge _

/-- Entering a round on both sides. -/
theorem Alike.enterLoop (h : context.Alike context') (id : String) (state : LoopState) :
    (context.enterLoop id state).Alike (context'.enterLoop id state) := by
  have hindex := h.set "loopIndex" (.ofNat state.index)
  unfold Context.enterLoop
  split
  next name item _ _ =>
    exact ⟨(hindex.set name item).vars, congrArg (Fields.insert id _) h.loops⟩
  next => exact ⟨hindex.vars, congrArg (Fields.insert id _) h.loops⟩

theorem Alike.leaveLoop (h : context.Alike context') (id : String) :
    (context.leaveLoop id).Alike (context'.leaveLoop id) :=
  ⟨h.vars, congrArg (Fields.erase id) h.loops⟩

/-- A loop whose list is not the input goes through the same. -/
theorem Alike.loopState_eq (h : context.Alike context') (id : String) {config : LoopConfig}
    (hroots : ∀ root ∈ config.roots, root ∉ inputNames) :
    context.loopState id config = context'.loopState id config := by
  have hinitial : config.initialState context.vars = config.initialState context'.vars := by
    unfold LoopConfig.initialState
    unfold LoopConfig.roots at hroots
    cases hitems : config.itemsVariable with
    | none => rfl
    | some path =>
      have hpath : context.vars.path? path = context'.vars.path? path := by
        apply Variables.path?_congr
        intro root hroot
        apply h.vars
        apply hroots
        rw [hitems]
        exact Option.mem_toList.mpr hroot
      simp only [hpath]
  rw [loopState, loopState, h.loops, hinitial]

/-- An output that does not name the input gives the same answer. -/
theorem Alike.answer_eq (h : context.Alike context') {config : OutputConfig}
    (hroots : ∀ root ∈ config.roots, root ∉ inputNames) :
    config.answer context.vars = config.answer context'.vars := by
  unfold OutputConfig.roots at hroots
  have hlast : context.vars.get? "lastOutput" = context'.vars.get? "lastOutput" :=
    h.vars "lastOutput" (by decide)
  have hpath : config.path.bind context.vars.path? = config.path.bind context'.vars.path? := by
    cases hconfig : config.path with
    | none => rfl
    | some path =>
      apply Variables.path?_congr
      intro root hroot
      apply h.vars
      apply hroots
      rw [hconfig]
      exact List.mem_append_right _ (Option.mem_toList.mpr hroot)
  unfold OutputConfig.answer
  rw [hpath, hlast]
  split
  next template htemplate =>
    have hinterpolate : Template.interpolate template context.vars =
        Template.interpolate template context'.vars := by
      apply Template.interpolate_congr
      intro root hroot
      apply h.vars
      apply hroots
      rw [(Option.filter_eq_some_iff.mp htemplate).1]
      exact List.mem_append_left _ hroot
    rw [hinterpolate]
  next => rfl

/-- A condition that does not mention the input holds on both sides or on neither. -/
theorem Alike.holds_eq (h : context.Alike context') {condition : String}
    (hroots : ∀ root ∈ Condition.roots condition, root ∉ inputNames) :
    Condition.holds condition context.vars = Condition.holds condition context'.vars := by
  have heval : Condition.eval condition context.vars = Condition.eval condition context'.vars :=
    Condition.eval_congr condition fun root hroot => h.vars root (hroots root hroot.1)
  rw [Condition.holds, Condition.holds, heval]

end Context

/-! ## Handlers -/

namespace Handler

variable {σ : Type}

/-- A handler reports the same on contexts that are alike, and leaves them alike. -/
def KeepsAlike (handler : Handler σ) (collaborators : Collaborators σ) (step : Step) : Prop :=
  ∀ execution execution' : Execution σ, execution.context.Alike execution'.context →
    (handler collaborators step execution).1 = (handler collaborators step execution').1 ∧
      (handler collaborators step execution).2.context.Alike
        (handler collaborators step execution').2.context

variable {collaborators : Collaborators σ} {step : Step}

/-- Start steps do not tell inputs apart. -/
theorem keepsAlike_start : start.KeepsAlike collaborators step := by
  intro execution execution' h
  cases hconfig : step.readConfig StartConfig.read with
  | error error =>
    rw [start_of_readConfig_error hconfig, start_of_readConfig_error hconfig]
    exact ⟨rfl, h⟩
  | ok config =>
    have hseed := h.seed config.vars
    rw [start_of_readConfig hconfig, start_of_readConfig hconfig]
    exact ⟨rfl, hseed.vars, hseed.loops⟩

/-- Condition steps tell no inputs apart if their conditions do not mention them. -/
theorem keepsAlike_condition (hroots : ∀ text, step.condition = .ok text →
    ∀ root ∈ Condition.roots text, root ∉ inputNames) :
    condition.KeepsAlike collaborators step := by
  intro execution execution' h
  cases hcondition : step.condition with
  | error error =>
    rw [condition_of_error hcondition, condition_of_error hcondition]
    exact ⟨rfl, h.vars, h.loops⟩
  | ok text =>
    have hholds := h.holds_eq (hroots text hcondition)
    rw [condition_of_ok hcondition, condition_of_ok hcondition, hholds]
    exact ⟨rfl, h.vars, h.loops⟩

/-- Loop steps tell no inputs apart if their paths do not mention them. -/
theorem keepsAlike_loop (hroots : ∀ config, step.readConfig LoopConfig.read = .ok config →
    ∀ root ∈ config.roots, root ∉ inputNames) : loop.KeepsAlike collaborators step := by
  intro execution execution' h
  cases hconfig : step.readConfig LoopConfig.read with
  | error error =>
    rw [loop_of_readConfig_error hconfig, loop_of_readConfig_error hconfig]
    exact ⟨rfl, h⟩
  | ok config =>
    have hstate := h.loopState_eq step.id (hroots config hconfig)
    cases hdone : (execution.context.loopState step.id config).isExhausted with
    | true =>
      have hleave := h.leaveLoop step.id
      rw [loop_of_isExhausted hconfig hdone, loop_of_isExhausted hconfig (hstate ▸ hdone)]
      exact ⟨rfl, hleave.vars, hleave.loops⟩
    | false =>
      have henter := h.enterLoop step.id (execution.context.loopState step.id config)
      rw [loop_of_not_isExhausted hconfig hdone,
        loop_of_not_isExhausted hconfig (hstate ▸ hdone), ← hstate]
      exact ⟨rfl, henter.vars, henter.loops⟩

/-- Output steps tell no inputs apart if their templates do not mention them. -/
theorem keepsAlike_output (hroots : ∀ config, step.readConfig OutputConfig.read = .ok config →
    ∀ root ∈ config.roots, root ∉ inputNames) : output.KeepsAlike collaborators step := by
  intro execution execution' h
  cases hconfig : step.readConfig OutputConfig.read with
  | error error =>
    rw [output_of_readConfig_error hconfig, output_of_readConfig_error hconfig]
    exact ⟨rfl, h⟩
  | ok config =>
    have hanswer := h.answer_eq (hroots config hconfig)
    rw [output_of_readConfig hconfig, output_of_readConfig hconfig, hanswer]
    exact ⟨rfl, h.vars, h.loops⟩

/-- A step that leaves the input alone has a handler, which keeps contexts alike. -/
theorem exists_keepsAlike_of_leavesInput (collaborators : Collaborators σ)
    (h : step.LeavesInput) :
    ∃ handler, Handlers.builtin step.kind = some handler ∧
      handler.KeepsAlike collaborators step := by
  obtain ⟨hkind, hroots⟩ := h
  unfold Step.roots at hroots
  simp only [List.mem_cons, List.not_mem_nil, or_false] at hkind
  rcases hkind with hkind | hkind | hkind | hkind
  · rw [hkind]
    exact ⟨start, rfl, keepsAlike_start⟩
  · rw [hkind] at hroots ⊢
    refine ⟨condition, rfl, keepsAlike_condition fun text hcondition root hroot => ?_⟩
    rw [hcondition] at hroots
    exact hroots root hroot
  · rw [hkind] at hroots ⊢
    refine ⟨loop, rfl, keepsAlike_loop fun config hconfig root hroot => ?_⟩
    rw [hconfig] at hroots
    exact hroots root hroot
  · rw [hkind] at hroots ⊢
    refine ⟨output, rfl, keepsAlike_output fun config hconfig root hroot => ?_⟩
    rw [hconfig] at hroots
    exact hroots root hroot

end Handler

/-! ## Walks -/

namespace Walk

variable {σ : Type}

/-- Two walks have contexts that are alike, as many steps taken and the same last output. -/
structure Alike (walk walk' : Walk σ) : Prop where
  context : walk.execution.context.Alike walk'.execution.context
  stepsTaken : walk.stepsTaken = walk'.stepsTaken
  output : walk.output = walk'.output

variable {flow : Flow} {step : Step} (collaborators : Collaborators σ)

/-- An error is caught alike on both sides. -/
theorem alike_catchError (step : Step) (error : FlowError) {execution execution' : Execution σ}
    (h : execution.context.Alike execution'.context) :
    (catchError collaborators step error execution).1 =
        (catchError collaborators step error execution').1 ∧
      (catchError collaborators step error execution).2.context.Alike
        (catchError collaborators step error execution').2.context := by
  unfold catchError
  cases step.connections.onError with
  | none => exact ⟨rfl, h.vars, h.loops⟩
  | some next =>
    have hset := h.set "error" (.string error.message)
    exact ⟨rfl, hset.vars, hset.loops⟩

/-- A turn ends the same way on walks that are alike, and leaves them alike. -/
theorem Alike.turn {walk walk' : Walk σ} (h : walk.Alike walk') (hstep : step.LeavesInput) :
    (turn collaborators .builtin step walk).1 = (turn collaborators .builtin step walk').1 ∧
      (turn collaborators .builtin step walk).2.Alike
        (turn collaborators .builtin step walk').2 := by
  obtain ⟨handler, hhandler, hkeeps⟩ :=
    Handler.exists_keepsAlike_of_leavesInput collaborators hstep
  obtain ⟨hreport, hcontext⟩ := hkeeps walk.execution walk'.execution h.context
  unfold Walk.turn
  simp only [hhandler]
  rcases hserved : handler collaborators step walk.execution with ⟨report, after⟩
  rcases hserved' : handler collaborators step walk'.execution with ⟨report', after'⟩
  rw [hserved, hserved'] at hreport hcontext
  simp only at hreport hcontext
  subst hreport
  have hsteps : walk.stepsTaken + 1 = walk'.stepsTaken + 1 := congrArg (· + 1) h.stepsTaken
  cases report with
  | error error =>
    obtain ⟨hturn, hcaught⟩ := alike_catchError collaborators step error hcontext
    exact ⟨hturn, hcaught, hsteps, h.output⟩
  | ok result => exact ⟨rfl, hcontext, hsteps, congrArg result.output.or h.output⟩

/-- Walks that are alike stay so to their end, which is the same. -/
theorem Alike.onward (hflow : ∀ step ∈ flow, step.LeavesInput) (limit left : Nat)
    {walk walk' : Walk σ} (h : walk.Alike walk') (hstep : step.LeavesInput) :
    (onward collaborators .builtin flow limit left step walk).1 =
        (onward collaborators .builtin flow limit left step walk').1 ∧
      (onward collaborators .builtin flow limit left step walk).2.Alike
        (onward collaborators .builtin flow limit left step walk').2 := by
  induction left generalizing step walk walk' with
  | zero => exact ⟨rfl, h⟩
  | succ left ih =>
    obtain ⟨hturn, halike⟩ := h.turn collaborators hstep
    unfold Walk.onward
    rcases htaken : Walk.turn collaborators .builtin step walk with ⟨t, after⟩
    rcases htaken' : Walk.turn collaborators .builtin step walk' with ⟨t', after'⟩
    rw [htaken, htaken'] at hturn halike
    simp only at hturn halike
    subst hturn
    cases t with
    | complete => exact ⟨rfl, halike⟩
    | fail error => exact ⟨rfl, halike⟩
    | goOn id =>
      dsimp only
      cases hnext : flow.step? id with
      | none => exact ⟨rfl, halike⟩
      | some next => exact ih halike (hflow next (Flow.mem_of_step?_eq_some hnext).1)

end Walk

/-! ## Runs -/

/-- Without a system prompt a flow without steps fails before anything is asked. -/
theorem Execution.singlePrompt_of_no_system {σ : Type} (collaborators : Collaborators σ)
    {execution : Execution σ} (h : nonBlank? execution.context.agent.systemPrompt = none) :
    execution.singlePrompt collaborators = (.error .emptyFlow, execution) := by
  unfold singlePrompt
  simp only [h]

namespace Task

variable {σ : Type} {agent : AgentConfig} {flow : Flow}

/-- The walks of two runs through a flow that leaves the input alone are alike. -/
theorem alike_walk (hflow : ∀ step ∈ flow, step.LeavesInput)
    (hempty : flow = [] → nonBlank? agent.systemPrompt = none) (collaborators : Collaborators σ)
    (options : ExecutionOptions) (input input' : ExecutionInput) (world world' : σ) :
    ((Task.mk agent flow input options).walk collaborators .builtin world).1 =
        ((Task.mk agent flow input' options).walk collaborators .builtin world').1 ∧
      ((Task.mk agent flow input options).walk collaborators .builtin world).2.Alike
        ((Task.mk agent flow input' options).walk collaborators .builtin world').2 := by
  have hbegin : ((Task.mk agent flow input options).begin world).Alike
      ((Task.mk agent flow input' options).begin world') :=
    ⟨⟨fun _ _ => rfl, rfl⟩, rfl, rfl⟩
  unfold walk
  cases hentry : flow.entry? with
  | none =>
    have hsystem := hempty (Flow.eq_nil_of_entry?_eq_none hentry)
    have hfails : ∀ (input : ExecutionInput) (world : σ),
        ((Task.mk agent flow input options).begin world).execution.singlePrompt collaborators =
          (.error .emptyFlow, ((Task.mk agent flow input options).begin world).execution) :=
      fun _ _ => Execution.singlePrompt_of_no_system collaborators hsystem
    simp only [hfails]
    exact ⟨trivial, hbegin⟩
  | some entry =>
    exact hbegin.onward collaborators hflow _ _ (hflow entry (Flow.mem_of_entry?_eq_some hentry))

/-- **The input is kept out.** Two runs through a flow that leaves the input alone, on any inputs
and whatever the collaborators have seen before, end the same way, with the same output after as
many steps, and with the same variables but for those that hold the input. -/
theorem run_of_leavesInput (hflow : ∀ step ∈ flow, step.LeavesInput)
    (hempty : flow = [] → nonBlank? agent.systemPrompt = none) (collaborators : Collaborators σ)
    (options : ExecutionOptions) (input input' : ExecutionInput) (world world' : σ) :
    let result := ((Task.mk agent flow input options).run collaborators .builtin world).1.result
    let result' := ((Task.mk agent flow input' options).run collaborators .builtin world').1.result
    result.success = result'.success ∧ result.error = result'.error ∧
      result.output = result'.output ∧ result.stepsExecuted = result'.stepsExecuted ∧
      Variables.AgreeOn (· ∉ inputNames) result.vars result'.vars := by
  obtain ⟨herror, halike⟩ := alike_walk hflow hempty collaborators options input input' world world'
  unfold run Walk.outcome
  dsimp only
  rw [herror, halike.output]
  exact ⟨rfl, rfl, rfl, halike.stepsTaken, halike.context.vars⟩

/-- A greeting does not depend on what is said. -/
theorem run_of_leavesInput_of_greeting :
    let flow : Flow :=
      [{ id := "start", kind := .start
         config := [("variables", .object [("user", .string "Ada")])]
         connections := { next := some "known" } },
        { id := "known", kind := .condition, config := [("condition", .string "user exists")]
          connections := { onTrue := some "hello" } },
        { id := "hello", kind := .output
          config := [("template", .string "Hello \x7b\x7buser\x7d\x7d")] }]
    let said : ExecutionInput := { content := "Who am I?" }
    let other : ExecutionInput := { content := "Goodbye", context := some "earlier" }
    let result := ((Task.mk {} flow said {}).run Playback.scripted .builtin {}).1.result
    let result' := ((Task.mk {} flow other {}).run Playback.scripted .builtin {}).1.result
    (∀ step ∈ flow, step.LeavesInput) ∧ (flow = [] → nonBlank? none = none) ∧
      result.output = "Hello Ada" ∧ result'.output = "Hello Ada" ∧
      Variables.AgreeOn (· ∉ inputNames) result.vars result'.vars := by
  intro flow said other result result'
  have hflow : ∀ step ∈ flow, step.LeavesInput := by decide +kernel
  have hempty : flow = [] → nonBlank? none = none := nofun
  have houtput : result.output = "Hello Ada" := by decide +kernel
  obtain ⟨-, -, hsame, -, hvars⟩ :=
    @run_of_leavesInput _ {} flow hflow hempty Playback.scripted {} said other {} {}
  exact ⟨hflow, hempty, houtput, hsame.symm.trans houtput, hvars⟩

/-- In a flow without steps the input is the prompt, so it reaches the answer. -/
theorem run_of_no_steps_gives_input :
    let agent : AgentConfig := { systemPrompt := some "Be brief" }
    (∀ step ∈ ([] : Flow), step.LeavesInput) ∧
      ((Task.mk agent [] { content := "a" } {}).run Playback.scripted .builtin {}).1.result.output =
        "echo: a" ∧
      ((Task.mk agent [] { content := "b" } {}).run Playback.scripted .builtin {}).1.result.output =
        "echo: b" :=
  ⟨nofun, rfl, rfl⟩

end Task

end AgentFlow
