import AgentFlow.Proofs.Execution.Handler
import AgentFlow.Proofs.Execution.Journey

/-!
# The trace of a run

With the built-in handlers every step that a handler serves leaves exactly one span, whichever way
it goes. A run that fails within its limit does so over a step of an unknown kind, over the settings
of a step, because a step reports a failure and leads nowhere, or because it leads to no step.
-/

namespace AgentFlow

/-- A result that ends the walk with an error says which step has failed. -/
theorem StepResult.eq_stepFailed_of_turn {id : String} {result : StepResult} {error : FlowError}
    (h : result.turn id = .fail error) : ∃ message, error = .stepFailed id message := by
  unfold turn at h
  split at h <;> cases h
  exact ⟨_, rfl⟩

/-- A result that goes on leads where it says. -/
theorem StepResult.next_of_turn {id target : String} {result : StepResult}
    (h : result.turn id = .goOn target) : result.next = some target := by
  unfold turn at h
  split at h <;> cases h
  assumption

namespace Walk

variable {σ : Type} {collaborators : Collaborators σ} {flow : Flow}

/-! ## Turns -/

/-- Catching an error has a span recorded that tells of it, and leaves its text to the way of
errors. -/
theorem catchError_snd (step : Step) (error : FlowError) (execution : Execution σ) :
    (catchError collaborators step error execution).2 =
      (execution.record collaborators
        { step.draft .reasoning with error := some error.message }).reportError step
          error.message := by
  unfold catchError Execution.reportError
  cases step.connections.onError with
  | none => rfl
  | some next => rfl

/-- The error that is caught is the one that the run fails with, if it does. -/
theorem eq_of_catchError_eq_fail {step : Step} {error cause : FlowError} {execution : Execution σ}
    (h : (catchError collaborators step error execution).1 = .fail cause) : cause = error := by
  unfold catchError at h
  cases honError : step.connections.onError with
  | none =>
    rw [honError] at h
    cases h
    rfl
  | some next =>
    rw [honError] at h
    cases h

/-- The run goes on behind an error by the way of errors only. -/
theorem onError_of_catchError_eq_goOn {step : Step} {error : FlowError} {id : String}
    {execution : Execution σ}
    (h : (catchError collaborators step error execution).1 = .goOn id) :
    step.connections.onError = some id := by
  unfold catchError at h
  cases honError : step.connections.onError with
  | none =>
    rw [honError] at h
    cases h
  | some next =>
    rw [honError] at h
    cases h
    rfl

/-- A step that is served leaves one span, whether it succeeds, fails or throws. -/
theorem Takes.leaves {step : Step} {walk after : Walk σ} {t : Turn} {handler : Handler σ}
    (h : Takes collaborators .builtin step walk t after)
    (hserved : Handlers.builtin step.kind = some handler) :
    walk.execution.Leaves collaborators step after.execution := by
  cases h with
  | unknown hhandler =>
    rw [hhandler] at hserved
    cases hserved
  | returned hhandler hcall =>
    have htidy : Handler.Tidy collaborators step walk.execution _ :=
      Handler.tidy_of_builtin hhandler
    rw [hcall] at htidy
    cases htidy with
    | served hleaves _ => exact hleaves
  | thrown hhandler hcall =>
    have htidy : Handler.Tidy collaborators step walk.execution _ :=
      Handler.tidy_of_builtin hhandler
    rw [hcall] at htidy
    cases htidy with
    | refused _ hsupplied =>
      rw [catchError_snd]
      exact .keeps (Execution.leaves_record (Context.keeps_refl _) hsupplied rfl rfl)
        (Execution.keeps_reportError _ _ _)

/-- A step leads only to what it is connected to. -/
theorem Takes.mem_successors {step : Step} {walk after : Walk σ} {id : String}
    (h : Takes collaborators .builtin step walk (.goOn id) after) : id ∈ step.successors := by
  generalize ht : Turn.goOn id = t at h
  cases h with
  | unknown => cases ht
  | returned hhandler hcall =>
    have htidy : Handler.Tidy collaborators step walk.execution _ :=
      Handler.tidy_of_builtin hhandler
    rw [hcall] at htidy
    cases htidy with
    | served _ hnext => exact hnext id (StepResult.next_of_turn ht.symm)
  | thrown =>
    exact Step.mem_successors_iff.mpr (.inr (.inr (.inr (onError_of_catchError_eq_goOn ht.symm))))

/-- A step of an unknown kind leaves no trace. -/
theorem Takes.execution_eq {handlers : Handlers σ} {step : Step} {walk after : Walk σ} {t : Turn}
    (h : Takes collaborators handlers step walk t after) (hunknown : handlers step.kind = none) :
    after.execution = walk.execution := by
  cases h with
  | unknown => rfl
  | returned hhandler =>
    rw [hunknown] at hhandler
    cases hhandler
  | thrown hhandler =>
    rw [hunknown] at hhandler
    cases hhandler

/-- What a turn can fail with. -/
theorem Takes.error_cases {step : Step} {walk after : Walk σ} {error : FlowError}
    (h : Takes collaborators .builtin step walk (.fail error) after) :
    ((Handlers.builtin step.kind : Option (Handler σ)) = none ∧
        error = .unknownStepKind step.kind.name) ∨
      error.OfSettings step ∨ ∃ message, error = .stepFailed step.id message := by
  generalize ht : Turn.fail error = t at h
  cases h with
  | unknown hhandler =>
    cases ht
    exact .inl ⟨hhandler, rfl⟩
  | returned => exact .inr (.inr (StepResult.eq_stepFailed_of_turn ht.symm))
  | thrown hhandler hcall =>
    have htidy : Handler.Tidy collaborators step walk.execution _ :=
      Handler.tidy_of_builtin hhandler
    rw [hcall] at htidy
    cases htidy with
    | refused hsettings _ =>
      rw [eq_of_catchError_eq_fail ht.symm]
      exact .inr (.inl hsettings)

/-! ## Runs -/

/-- A walk stays within the flow. -/
theorem Moves.mem_flow {handlers : Handlers σ} {step next : Step} {walk after : Walk σ}
    (h : Moves collaborators handlers flow step walk next after) : next ∈ flow := by
  obtain ⟨id, -, hnext⟩ := h.leads
  exact (Flow.mem_of_step?_eq_some hnext).1

/-- A walk goes from a step to one that the step is connected to. -/
theorem Moves.id_mem_successors {step next : Step} {walk after : Walk σ}
    (h : Moves collaborators .builtin flow step walk next after) :
    next.id ∈ step.successors := by
  obtain ⟨id, hturn, hnext⟩ := h.leads
  rw [(Flow.mem_of_step?_eq_some hnext).2]
  exact (takes_of_turn_eq hturn).mem_successors

/-- What a walk can end with. -/
theorem Ends.error_cases {step : Step} {walk after : Walk σ} {error : FlowError}
    (h : Ends collaborators .builtin flow step walk (some error) after) :
    ((Handlers.builtin step.kind : Option (Handler σ)) = none ∧
        error = .unknownStepKind step.kind.name) ∨
      error.OfSettings step ∨ (∃ message, error = .stepFailed step.id message) ∨
      ∃ id ∈ step.successors, flow.step? id = none ∧ error = .stepNotFound id := by
  cases h with
  | failed hturn =>
    rcases (takes_of_turn_eq hturn).error_cases with hunknown | hsettings | hfailed
    · exact .inl hunknown
    · exact .inr (.inl hsettings)
    · exact .inr (.inr (.inl hfailed))
  | astray hturn hid =>
    exact .inr (.inr (.inr ⟨_, (takes_of_turn_eq hturn).mem_successors, hid, rfl⟩))

/-- A walk that ends by itself does not blame the limit. -/
theorem Ends.ne_maxStepsExceeded {step : Step} {walk after : Walk σ} {error : FlowError}
    (h : Ends collaborators .builtin flow step walk (some error) after) (limit : Nat) :
    error ≠ .maxStepsExceeded limit := by
  rintro rfl
  rcases h.error_cases with ⟨-, h⟩ | h | ⟨message, h⟩ | ⟨id, -, -, h⟩ <;> cases h

/-- A journey leaves one span for each step. -/
theorem Journey.exists_spans {step last : Step} {walk final : Walk σ} {visited : List Step}
    (h : Journey collaborators .builtin flow step walk visited last final) :
    ∃ spans, spans.length = visited.length ∧ final.execution.context.spans.toList =
      walk.execution.context.spans.toList ++ spans := by
  induction h with
  | nil => exact ⟨[], rfl, (List.append_nil _).symm⟩
  | cons hmoves _ ih =>
    obtain ⟨spans, hlength, hspans⟩ := ih
    obtain ⟨id, htakes⟩ := hmoves.takes
    obtain ⟨handler, hserved⟩ := hmoves.served
    obtain ⟨span, -, hadds⟩ := htakes.leaves hserved
    refine ⟨span :: spans, ?_, ?_⟩
    · rw [List.length_cons, List.length_cons, hlength]
    · rw [hspans, hadds.spans_eq, Array.toList_push, List.append_assoc, List.singleton_append]

/-- The step that a walk ends with leaves one more span, or none if no handler serves it. -/
theorem Ends.exists_spans {step : Step} {walk after : Walk σ} {error : Option FlowError}
    (h : Ends collaborators .builtin flow step walk error after) :
    ∃ spans, after.execution.context.spans.toList =
      walk.execution.context.spans.toList ++ spans := by
  obtain ⟨t, htakes⟩ := h.takes
  cases hhandler : (Handlers.builtin step.kind : Option (Handler σ)) with
  | none => exact ⟨[], by rw [htakes.execution_eq hhandler, List.append_nil]⟩
  | some handler =>
    obtain ⟨span, -, hadds⟩ := htakes.leaves hhandler
    exact ⟨[span], by rw [hadds.spans_eq, Array.toList_push]⟩

/-- A walk only ever adds to the trace. -/
theorem exists_spans_onward (limit left : Nat) (step : Step) (walk : Walk σ) :
    ∃ spans,
      (onward collaborators .builtin flow limit left step walk).2.execution.context.spans.toList =
        walk.execution.context.spans.toList ++ spans := by
  rcases onward_cases limit left step walk with
    ⟨visited, last, final, hjourney, -, hrun⟩ |
    ⟨visited, last, final, error, after, hjourney, -, hends, hrun⟩
  · obtain ⟨spans, -, hspans⟩ := hjourney.exists_spans
    exact ⟨spans, by rw [hrun, hspans]⟩
  · obtain ⟨spans, -, hspans⟩ := hjourney.exists_spans
    obtain ⟨more, hmore⟩ := hends.exists_spans
    exact ⟨spans ++ more, by rw [hrun, hmore, hspans, List.append_assoc]⟩

end Walk

end AgentFlow
