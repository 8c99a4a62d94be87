import AgentFlow.Execution.Playback
import AgentFlow.Proofs.Execution.Itinerary

/-!
# The way of errors

A step that fails is left by its way of errors, if it has one. What has gone wrong is then in the
variable `error`, for the steps that deal with it — but not if it is a condition step that has
failed: a condition that is missing sends the run on and leaves the variable as it was, unset or
with the text of an earlier failure.
-/

namespace AgentFlow

variable {σ : Type}

/-- A handler fails if it reports a failure or throws an error. -/
def Handler.Fails : Except FlowError StepResult → Prop
  | .ok result => result.success = false
  | .error _ => True

/-- What has gone wrong with a step whose handler has answered so. A thrown error is given by its
own text; of the failures that handlers report, a prompt step has the message of the generator, a
tool step that of the tool or a stand-in, and a condition step the text of the error over its
condition. -/
inductive Step.FailsWith (collaborators : Collaborators σ) (step : Step) (execution : Execution σ) :
    Except FlowError StepResult → String → Prop where
  | thrown (error : FlowError) : FailsWith collaborators step execution (.error error) error.message
  | unanswered {result : StepResult} {config : PromptConfig} {message : String}
    (hkind : step.kind = .prompt) (hconfig : step.readConfig PromptConfig.read = .ok config)
    (hask : (execution.generate collaborators (config.system execution.context.agent)
      (config.prompt execution.context)).1 = .error message) :
    FailsWith collaborators step execution (.ok result) message
  | calledInVain {result : StepResult} {config : ToolConfig} {name : String} {outcome : ToolOutcome}
    (hkind : step.kind = .tool) (hconfig : step.readConfig ToolConfig.read = .ok config)
    (hname : nonBlank? config.toolName = some name)
    (hcall : (execution.callTool collaborators (config.request name execution.context)).1 = outcome)
    (hfailure : outcome.result.success = false) :
    FailsWith collaborators step execution (.ok result)
      (outcome.result.error.getD "tool reported failure")
  | undecided {result : StepResult} {error : FlowError} (hkind : step.kind = .condition)
    (hcondition : step.condition = .error error) :
    FailsWith collaborators step execution (.ok result) error.message

/-- A failure has one text. -/
theorem Step.FailsWith.unique {collaborators : Collaborators σ} {step : Step}
    {execution : Execution σ} {answer : Except FlowError StepResult} {text other : String}
    (h : step.FailsWith collaborators execution answer text)
    (hother : step.FailsWith collaborators execution answer other) : other = text := by
  cases h with
  | thrown error =>
    cases hother with
    | thrown => rfl
  | unanswered hkind hconfig hask =>
    cases hother with
    | unanswered _ hconfig' hask' =>
      rw [hconfig] at hconfig'
      cases hconfig'
      rw [hask] at hask'
      cases hask'
      rfl
    | calledInVain hkind' => exact nomatch hkind.symm.trans hkind'
    | undecided hkind' => exact nomatch hkind.symm.trans hkind'
  | calledInVain hkind hconfig hname hcall _ =>
    cases hother with
    | calledInVain _ hconfig' hname' hcall' _ =>
      rw [hconfig] at hconfig'
      cases hconfig'
      rw [hname] at hname'
      cases hname'
      rw [← hcall', hcall]
    | unanswered hkind' => exact nomatch hkind.symm.trans hkind'
    | undecided hkind' => exact nomatch hkind.symm.trans hkind'
  | undecided hkind hcondition =>
    cases hother with
    | undecided _ hcondition' =>
      rw [hcondition] at hcondition'
      cases hcondition'
      rfl
    | unanswered hkind' => exact nomatch hkind.symm.trans hkind'
    | calledInVain hkind' => exact nomatch hkind.symm.trans hkind'

/-- How a failure leaves the variables: with its text in `error`, or as they were if it is that of a
condition step. -/
inductive Step.Reports (step : Step) (before after : Variables) (text : String) : Prop where
  | written (hkind : step.kind ≠ .condition) (h : after.get? "error" = some (.string text))
  | silent (hkind : step.kind = .condition) (h : after = before)

namespace Execution

variable {collaborators : Collaborators σ}

/-- A report is stored if there is a way of errors. -/
theorem get?_error_reportError {step : Step} {id : String} (h : step.connections.onError = some id)
    (text : String) (execution : Execution σ) :
    (execution.reportError step text).context.vars.get? "error" = some (.string text) := by
  simp only [reportError, h]
  exact Fields.get?_insert_self _ _ _

/-- Recording a call changes no variable. -/
theorem vars_traceCall (step : Step) (request : ToolRequest) (outcome : ToolOutcome)
    (execution : Execution σ) :
    (execution.traceCall collaborators step request outcome).context.vars =
      execution.context.vars := by
  unfold traceCall
  split <;> rfl

end Execution

/-- A failed result leaves its text as the error. -/
theorem Context.get?_error_storeResult {result : ToolResult} (h : result.success = false)
    (outputVariable : Option String) (context : Context) :
    (context.storeResult outputVariable result).vars.get? "error" =
      some (.string (result.error.getD "tool reported failure")) := by
  simp only [storeResult, h, Bool.false_eq_true, if_false]
  exact Fields.get?_insert_self _ _ _

namespace Handler

variable {collaborators : Collaborators σ} {step : Step} {execution : Execution σ}

/-- No condition step throws. -/
theorem Served.kind_ne_condition {error : FlowError} {after : Execution σ}
    (h : Served collaborators step execution (.error error, after)) : step.kind ≠ .condition := by
  intro hkind
  cases h with
  | refused hunreadable =>
    rw [Step.Unreadable, hkind] at hunreadable
    exact hunreadable
  | unnamed hkind' =>
    rw [hkind] at hkind'
    cases hkind'

/-- A handler that reports a failure chooses the way of errors. -/
theorem Served.reports {result : StepResult} {after : Execution σ} {id : String}
    (h : Served collaborators step execution (.ok result, after))
    (hfailure : result.success = false) (honError : step.connections.onError = some id) :
    result.next = some id ∧ ∃ text, step.FailsWith collaborators execution (.ok result) text ∧
      step.Reports execution.context.vars after.context.vars text := by
  cases h with
  | started => cases hfailure
  | answered => cases hfailure
  | called => cases hfailure
  | decided => cases hfailure
  | entered => cases hfailure
  | exhausted => cases hfailure
  | concluded => cases hfailure
  | @unanswered config message after hkind hconfig hask =>
    refine ⟨honError, message, .unanswered hkind hconfig (by rw [hask]), .written ?_ ?_⟩
    · rw [hkind]
      exact nofun
    · exact Execution.get?_error_reportError honError _ _
  | calledInVain hkind hconfig hname hcall hfailed =>
    refine ⟨honError, _, .calledInVain hkind hconfig hname (by rw [hcall]) hfailed, .written ?_ ?_⟩
    · rw [hkind]
      exact nofun
    · rw [Execution.vars_traceCall]
      exact Context.get?_error_storeResult hfailed _ _
  | undecided hkind hcondition =>
    refine ⟨?_, _, .undecided hkind hcondition, .silent hkind rfl⟩
    simp only [StepResult.failed, honError, Option.some_or]

end Handler

namespace Walk

/-- A caught error goes the way of errors, and its text is stored. -/
theorem catchError_of_onError (collaborators : Collaborators σ) {step : Step} {id : String}
    (h : step.connections.onError = some id) (error : FlowError) (execution : Execution σ) :
    (catchError collaborators step error execution).1 = .goOn id ∧
      (catchError collaborators step error execution).2.context.vars.get? "error" =
        some (.string error.message) := by
  rw [catchError_snd]
  refine ⟨?_, Execution.get?_error_reportError h _ _⟩
  simp only [catchError, h]

/-- A step that fails and has a way of errors is left by it. -/
theorem turn_of_fails {collaborators : Collaborators σ} {step : Step} {walk : Walk σ}
    {handler : Handler σ} {id : String}
    (hhandler : Handlers.builtin step.kind = some handler)
    (hfails : Handler.Fails (handler collaborators step walk.execution).1)
    (honError : step.connections.onError = some id) :
    ∃ text after, turn collaborators .builtin step walk = (.goOn id, after) ∧
      step.FailsWith collaborators walk.execution
        (handler collaborators step walk.execution).1 text ∧
      step.Reports walk.execution.context.vars after.execution.context.vars text := by
  have hserved : Handler.Served collaborators step walk.execution _ :=
    Handler.served_of_builtin hhandler
  unfold turn
  simp only [hhandler]
  rcases hcall : handler collaborators step walk.execution with ⟨error | result, execution⟩
  · rw [hcall] at hserved
    obtain ⟨hturn, hvars⟩ := catchError_of_onError collaborators honError error execution
    refine ⟨error.message,
      ⟨(catchError collaborators step error execution).2, walk.stepsTaken + 1, walk.output⟩,
      ?_, .thrown error, .written hserved.kind_ne_condition hvars⟩
    simp only [hturn]
  · rw [hcall] at hserved hfails
    obtain ⟨hnext, text, hfailsWith, hreports⟩ := hserved.reports hfails honError
    refine ⟨text, ⟨execution, walk.stepsTaken + 1, result.output.or walk.output⟩, ?_, hfailsWith,
      hreports⟩
    simp only [StepResult.turn, hnext]

/-- The step that a walk goes on to finds the walk as it was left. -/
theorem eq_of_turn_of_itinerary {collaborators : Collaborators σ} {handlers : Handlers σ}
    {flow : Flow} {left i : Nat} {entry step next : Step} {start walk after found : Walk σ}
    {id : String} (hturn : turn collaborators handlers step walk = (.goOn id, after))
    (hvisit : (itinerary collaborators handlers flow left entry start)[i]? = some (step, walk))
    (hnext : (itinerary collaborators handlers flow left entry start)[i + 1]? =
      some (next, found)) :
    next.id = id ∧ found = after := by
  obtain ⟨hi, hnext⟩ := List.getElem?_eq_some_iff.mp hnext
  obtain ⟨_, hvisit⟩ := List.getElem?_eq_some_iff.mp hvisit
  have hmoves := (List.isChain_iff_getElem.mp (isChain_itinerary left entry start)) i hi
  rw [hnext, hvisit] at hmoves
  obtain ⟨other, hother, hstep⟩ := hmoves.leads
  rw [hturn] at hother
  cases hother
  exact ⟨(Flow.mem_of_step?_eq_some hstep).2, rfl⟩

end Walk

namespace Task

/-- **Errors on the way of errors.** A step of a run that fails and has a way of errors is left by
it, and the step there finds the run as it was left. The variable `error` then has the text of this
failure exactly if it was not a condition step that failed, or had it before. A condition step that
fails changes no variable. -/
theorem error_on_way_of_errors (collaborators : Collaborators σ) (task : Task) (world : σ)
    {i : Nat} {step : Step} {walk : Walk σ}
    (hvisit : (task.itinerary collaborators .builtin world)[i]? = some (step, walk))
    {handler : Handler σ} (hhandler : Handlers.builtin step.kind = some handler)
    (hfails : Handler.Fails (handler collaborators step walk.execution).1)
    {id : String} (honError : step.connections.onError = some id) :
    ∃ text after,
      (∀ other, step.FailsWith collaborators walk.execution
        (handler collaborators step walk.execution).1 other ↔ other = text) ∧
      Walk.turn collaborators .builtin step walk = (.goOn id, after) ∧
      (∀ next found, (task.itinerary collaborators .builtin world)[i + 1]? = some (next, found) →
        next.id = id ∧ found = after) ∧
      (after.execution.context.vars.get? "error" = some (.string text) ↔
        step.kind ≠ .condition ∨
          walk.execution.context.vars.get? "error" = some (.string text)) ∧
      (step.kind = .condition → after.execution.context.vars = walk.execution.context.vars) := by
  obtain ⟨text, after, hturn, hfailsWith, hreports⟩ :=
    Walk.turn_of_fails hhandler hfails honError
  refine ⟨text, after, fun other => ⟨hfailsWith.unique, fun h => h ▸ hfailsWith⟩, hturn,
    fun next found hnext => ?_, ?_, ?_⟩
  · unfold itinerary at hvisit hnext
    cases hentry : task.flow.entry? with
    | none =>
      rw [hentry] at hvisit
      cases hvisit
    | some entry =>
      simp only [hentry] at hvisit hnext
      exact Walk.eq_of_turn_of_itinerary hturn hvisit hnext
  · cases hreports with
    | written hkind hvars => simp only [hvars, hkind, ne_eq, not_false_eq_true, true_or]
    | silent hkind hvars => simp only [hvars, hkind, ne_eq, not_true_eq_false, false_or]
  · intro hkind
    cases hreports with
    | written hne => exact absurd hkind hne
    | silent _ hvars => exact hvars

/-- A prompt step is refused after a tool step has failed: behind it `error` has the new text, and
no longer that of the tool. -/
theorem error_on_way_of_errors_of_second_failure :
    let ask : Step := { id := "ask", kind := .prompt, connections := { onError := some "out" } }
    let task : Task :=
      { agent := {}
        flow :=
          [{ id := "call", kind := .tool, config := [("toolName", .string "search")],
             connections := { onError := some "ask" } },
            ask, { id := "out", kind := .output }]
        input := {}
        options := {} }
    let world : Playback := { outcomes := [.error "down"], replies := [.error "busy"] }
    ∃ walk after,
      (task.itinerary Playback.scripted .builtin world)[1]? = some (ask, walk) ∧
      Handler.Fails (Handler.prompt Playback.scripted ask walk.execution).1 ∧
      walk.execution.context.vars.get? "error" = some (.string "down") ∧
      Walk.turn Playback.scripted .builtin ask walk = (.goOn "out", after) ∧
      after.execution.context.vars.get? "error" = some (.string "busy") := by
  intro ask task world
  obtain ⟨walk, hvisit, hfails, hdown, hbusy⟩ : ∃ walk,
      (task.itinerary Playback.scripted .builtin world)[1]? = some (ask, walk) ∧
      Handler.Fails (Handler.prompt Playback.scripted ask walk.execution).1 ∧
      walk.execution.context.vars.get? "error" = some (.string "down") ∧
      ask.FailsWith Playback.scripted walk.execution
        (Handler.prompt Playback.scripted ask walk.execution).1 "busy" := by
    refine ⟨_, rfl, ?_, rfl, .unanswered rfl rfl rfl⟩
    rfl
  obtain ⟨text, after, htext, hturn, -, herror, -⟩ :=
    error_on_way_of_errors Playback.scripted task world hvisit rfl hfails rfl
  obtain rfl := (htext "busy").mp hbusy
  exact ⟨walk, after, hvisit, hfails, hdown, hturn, herror.mpr (.inl nofun)⟩

/-- A condition step without a condition leads to its way of errors, and nothing is in `error`
there. -/
theorem no_error_behind_missing_condition :
    let task : Task :=
      { agent := {}
        flow :=
          [{ id := "decide", kind := .condition, connections := { onError := some "out" } },
            { id := "out", kind := .output }]
        input := {}
        options := {} }
    let visits := task.itinerary Playback.scripted .builtin {}
    visits.map (fun visit => visit.1.id) = ["decide", "out"] ∧
      (∀ visit, visits[0]? = some visit → visit.1.kind = .condition ∧
        visit.1.connections.onError = some "out" ∧
        Handler.Fails (Handler.condition Playback.scripted visit.1 visit.2.execution).1 ∧
        visit.1.FailsWith Playback.scripted visit.2.execution
          (Handler.condition Playback.scripted visit.1 visit.2.execution).1
          "Step 'decide' is missing required config 'condition'") ∧
      ∀ visit, visits[1]? = some visit → visit.2.execution.context.vars.get? "error" = none := by
  intro task visits
  refine ⟨rfl, fun visit hvisit => ?_, fun visit hvisit => ?_⟩
  · cases hvisit
    refine ⟨rfl, rfl, rfl, ?_⟩
    exact @Step.FailsWith.undecided _ _ _ _ _ (.missingConfig "decide" "condition") rfl rfl
  · cases hvisit
    rfl

end Task

end AgentFlow
