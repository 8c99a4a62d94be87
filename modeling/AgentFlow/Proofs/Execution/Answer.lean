import AgentFlow.Execution.Playback
import AgentFlow.Proofs.Execution.SpanContent

/-!
# The answer of a run

The output of a run is the last value that one of its steps has produced (`Walk.output_onward`).
The engine keeps it beside the trace, into which every handler writes on its own account; the two
agree, since the steps that produce values are the successful generations, calls and outputs
(`Step.isSome_value?`), and their spans show these values (`Task.output_run`).
-/

namespace AgentFlow

variable {σ : Type}

/-- The value that a step produces, if it produces one. -/
def Step.value? (collaborators : Collaborators σ) (step : Step) (execution : Execution σ) :
    Option Json :=
  match step.answer? collaborators execution with
  | some (.ok result) => result.output
  | some (.error _) => none
  | none => none

/-- The step generates, calls a tool or puts out a value, and succeeds in that. -/
def Step.answers (collaborators : Collaborators σ) (step : Step) (execution : Execution σ) : Bool :=
  decide (step.kind ∈ [StepKind.prompt, .tool, .output]) &&
    match step.answer? collaborators execution with
    | some (.ok result) => result.success
    | some (.error _) => false
    | none => false

/-- The spans in the trace of a run that belong to successful generations, calls of tools and
outputs. A flow without steps is a single generation, which succeeds if the run does. -/
def Task.answeringSpans (collaborators : Collaborators σ) (task : Task) (world : σ) : List Span :=
  match task.flow with
  | [] =>
    let result := (task.run collaborators .builtin world).1.result
    if result.success then result.spans else []
  | _ :: _ =>
    ((task.itinerary collaborators .builtin world).filter fun visit =>
      visit.1.answers collaborators visit.2.execution).filterMap
      (Walk.addedSpan? collaborators .builtin)

/-! ## Values of steps -/

/-- A handler reports a value exactly if it generates, calls a tool or puts out, with success. -/
theorem Handler.Served.isSome_output {collaborators : Collaborators σ} {step : Step}
    {execution after : Execution σ} {result : StepResult}
    (h : Served collaborators step execution (.ok result, after)) :
    result.output.isSome =
      (decide (step.kind ∈ [StepKind.prompt, .tool, .output]) && result.success) := by
  cases h with
  | started hkind => simp [hkind, StepResult.ok]
  | answered hkind => simp [hkind, StepResult.ok]
  | unanswered hkind => simp [StepResult.failed]
  | called hkind => simp [hkind, StepResult.ok]
  | calledInVain hkind => simp [StepResult.failed]
  | decided hkind => simp [hkind, StepResult.ok]
  | undecided hkind => simp [StepResult.failed]
  | entered hkind => simp [hkind, StepResult.ok]
  | exhausted hkind => simp [hkind, StepResult.ok]
  | concluded hkind => simp [hkind, StepResult.ok]

/-- The steps with a value are those that answer. -/
theorem Step.isSome_value? (collaborators : Collaborators σ) (step : Step)
    (execution : Execution σ) :
    (step.value? collaborators execution).isSome = step.answers collaborators execution := by
  cases hanswer : step.answer? collaborators execution with
  | none => simp only [value?, answers, hanswer, Option.isSome_none, Bool.and_false]
  | some answer =>
    obtain ⟨handler, hhandler, hcall⟩ := Option.map_eq_some_iff.mp hanswer
    have hserved : Handler.Served collaborators step execution _ :=
      Handler.served_of_builtin hhandler
    rcases hresult : handler collaborators step execution with ⟨error | result, after⟩
    · rw [hresult] at hcall
      subst hcall
      simp only [value?, answers, hanswer, Option.isSome_none, Bool.and_false]
    · rw [hresult] at hcall hserved
      subst hcall
      simp only [value?, answers, hanswer, hserved.isSome_output]

namespace Walk

variable {collaborators : Collaborators σ} {flow : Flow}

/-- A value that a step produces takes the place of the one before. -/
theorem output_turn (collaborators : Collaborators σ) (step : Step) (walk : Walk σ) :
    (turn collaborators .builtin step walk).2.output =
      (step.value? collaborators walk.execution).or walk.output := by
  cases hhandler : (Handlers.builtin step.kind : Option (Handler σ)) with
  | none =>
    simp only [turn, Step.value?, Step.answer?, hhandler, Option.map_none, Option.none_or]
  | some handler =>
    rcases hresult : handler collaborators step walk.execution with ⟨error | result, execution⟩
    · simp only [turn, Step.value?, Step.answer?, hhandler, hresult, Option.map_some,
        Option.none_or]
    · simp only [turn, Step.value?, Step.answer?, hhandler, hresult, Option.map_some]

/-- The output of a walk is the last value that one of its steps produces. -/
theorem output_onward (limit left : Nat) (step : Step) (walk : Walk σ) :
    (onward collaborators .builtin flow limit left step walk).2.output =
      ((itinerary collaborators .builtin flow left step walk).filterMap fun visit =>
        visit.1.value? collaborators visit.2.execution).getLast?.or walk.output := by
  induction left generalizing step walk with
  | zero => rfl
  | succ left ih =>
    have hturn := output_turn collaborators step walk
    rcases moves_or_ends step walk with ⟨next, after, hmove⟩ | ⟨error, after, hends⟩
    · obtain ⟨id, hgoOn, -⟩ := hmove.leads
      rw [hgoOn] at hturn
      rw [onward_of_moves hmove, itinerary_of_moves hmove, ih, hturn, List.filterMap_cons]
      -- What is produced later hides the value of this step.
      cases step.value? collaborators walk.execution with
      | none => rfl
      | some value =>
        rw [List.getLast?_cons, ← Option.or_assoc]
        simp
    · rw [hends.turn_snd] at hturn
      rw [onward_of_ends hends, itinerary_of_ends hends, hturn, List.filterMap_cons]
      cases step.value? collaborators walk.execution <;> rfl

/-- A value is shown by the span of the step that produces it. -/
theorem shownText_value? (hrecord : collaborators.RecordsAsDrafted) {visit : Step × Walk σ}
    (hsupplied : visit.2.execution.suppliedSpan? collaborators visit.1 = none) :
    (visit.1.value? collaborators visit.2.execution).map Json.shownText =
      (if visit.1.answers collaborators visit.2.execution then
        addedSpan? collaborators .builtin visit else none).map Span.output := by
  obtain ⟨step, walk⟩ := visit
  rw [← Step.isSome_value?]
  cases hvalue : step.value? collaborators walk.execution with
  | none => rfl
  | some value =>
    simp only [Step.value?] at hvalue
    split at hvalue
    case h_1 result hanswer =>
      obtain ⟨span, hspan, htells⟩ := tells_of_addedSpan? hrecord hsupplied hanswer
      rw [hspan, Option.isSome_some, if_pos rfl, Option.map_some, Option.map_some,
        htells.output result value rfl hvalue]
    case h_2 => cases hvalue
    case h_3 => cases hvalue

end Walk

namespace Task

/-- The output of a flow with steps, of which none has produced a value at first. -/
theorem output_walk {collaborators : Collaborators σ} {task : Task} (world : σ)
    (hflow : task.flow ≠ []) :
    (task.walk collaborators .builtin world).2.output =
      ((task.itinerary collaborators .builtin world).filterMap fun visit =>
        visit.1.value? collaborators visit.2.execution).getLast? := by
  obtain ⟨entry, hentry⟩ := Flow.exists_entry? hflow
  simp only [walk, itinerary, hentry]
  rw [Walk.output_onward]
  exact Option.or_none

/-- **The trace and the result agree on the answer.** In a run with the built-in handlers, a
recorder that takes drafts as they are and tools that supply no spans, the output is that of the
last span that belongs to a successful generation, call of a tool or output, and empty if there is
none — however the run ends. -/
theorem output_run (collaborators : Collaborators σ) (hrecord : collaborators.RecordsAsDrafted)
    (task : Task) (world : σ)
    (hsupplied : ∀ visit ∈ task.itinerary collaborators .builtin world,
      visit.2.execution.suppliedSpan? collaborators visit.1 = none) :
    let result := (task.run collaborators .builtin world).1.result
    let answering := task.answeringSpans collaborators world
    answering.Sublist result.spans ∧
      (task.flow ≠ [] → result.spans = (task.itinerary collaborators .builtin world).filterMap
        (Walk.addedSpan? collaborators .builtin)) ∧
      result.output = (answering.getLast?.map Span.output).getD "" := by
  intro result answering
  cases hflow : task.flow with
  | nil =>
    have hanswering : answering = if result.success then result.spans else [] := by
      simp only [answering, answeringSpans, hflow, result]
    refine ⟨?_, fun hne => absurd rfl hne, ?_⟩
    · rw [hanswering]
      split
      · exact List.Sublist.refl _
      · exact List.nil_sublist _
    · rcases run_of_no_steps hrecord world hflow with
        ⟨hsuccess, houtput, -⟩ | ⟨hsuccess, span, hspans, houtput, -⟩
      · rw [hanswering, if_neg (hsuccess ▸ Bool.false_ne_true)]
        exact houtput
      · rw [hanswering, if_pos hsuccess]
        exact hspans ▸ houtput.symm
  | cons first rest =>
    have hne : task.flow ≠ [] := hflow ▸ List.cons_ne_nil first rest
    have hspans : result.spans = _ := spans_run collaborators world hne
    have hanswering : answering = ((task.itinerary collaborators .builtin world).filter fun visit =>
        visit.1.answers collaborators visit.2.execution).filterMap
        (Walk.addedSpan? collaborators .builtin) := by
      simp only [answering, answeringSpans, hflow]
    refine ⟨?_, fun _ => hspans, ?_⟩
    · rw [hanswering, hspans]
      exact List.filter_sublist.filterMap _
    · -- Value by value and span by span: the last of the values is that of the last span.
      have hvalues : ((task.itinerary collaborators .builtin world).filterMap fun visit =>
          visit.1.value? collaborators visit.2.execution).map Json.shownText =
          answering.map Span.output := by
        rw [hanswering, List.filterMap_filter, List.map_filterMap, List.map_filterMap]
        exact List.filterMap_congr fun visit hvisit =>
          Walk.shownText_value? hrecord (hsupplied visit hvisit)
      rw [← List.getLast?_map, ← hvalues, List.getLast?_map, ← output_walk world hne]
      rfl

/-- A call gives an answer, the condition step behind it none, and the call after that fails. The
answer is that of the first call, though the failed one has left a span with an output. -/
theorem output_run_of_failed_call :
    let call : Step := { id := "call", kind := .tool, config := [("toolName", .string "search")],
                         connections := { next := some "between" } }
    let task : Task :=
      { agent := {}
        flow :=
          [call,
            { id := "between", kind := .condition, connections := { onError := some "again" } },
            { call with id := "again" }]
        input := {}
        options := {} }
    let world : Playback :=
      { outcomes := [.ok { result := ⟨true, .string "found", none⟩ },
          .ok { result := ⟨false, .string "partial", none⟩ }] }
    let result := (task.run Playback.scripted .builtin world).1.result
    let answering := task.answeringSpans Playback.scripted world
    result.spans.map Span.output = ["found", "", "partial"] ∧
      (∃ span, answering = [span] ∧ span.stepId = some "call") ∧ result.output = "found" := by
  intro call task world result answering
  have hvisits : task.itinerary Playback.scripted .builtin world = [_, _, _] := rfl
  have hsupplied : ∀ visit ∈ task.itinerary Playback.scripted .builtin world,
      visit.2.execution.suppliedSpan? Playback.scripted visit.1 = none := by
    rw [hvisits, List.forall_mem_cons, List.forall_mem_cons, List.forall_mem_singleton]
    exact ⟨rfl, rfl, rfl⟩
  obtain ⟨-, -, houtput⟩ :=
    output_run Playback.scripted (fun _ _ _ => ⟨_, rfl⟩) task world hsupplied
  exact ⟨rfl, ⟨_, rfl, rfl⟩, houtput.trans rfl⟩

end Task

end AgentFlow
