import AgentFlow.Proofs.Execution.Itinerary

/-!
# Sequences of events

What happens to an execution, apart from the order in which a flow makes it happen: steps are
served by the built-in handlers, errors that they throw are caught, and variables are set from
elsewhere. A run is one such sequence (`Walk.Moves.exists_events`), but there are more: any steps
may follow on one another.
-/

namespace AgentFlow

/-- What may happen to an execution. -/
inductive Event where
  /-- A step is served by the handler of its kind. -/
  | serve (step : Step)
  /-- An error that the handler of a step has thrown is recorded, as in a run. -/
  | catchError (step : Step) (error : FlowError)
  /-- Variables are set to whatever else. -/
  | assign (vars : Variables)

variable {σ : Type}

/-- What an event does. -/
def Event.perform (collaborators : Collaborators σ) (execution : Execution σ) :
    Event → Execution σ
  | serve step =>
    match Handlers.builtin step.kind with
    | none => execution
    | some handler => (handler collaborators step execution).2
  | catchError step error => (Walk.catchError collaborators step error execution).2
  | assign vars => execution.modify fun context => { context with vars }

/-- What events do one after the other. -/
def Execution.perform (collaborators : Collaborators σ) (events : List Event)
    (execution : Execution σ) : Execution σ :=
  events.foldl (Event.perform collaborators) execution

namespace Event

/-- A step is served, in one of the ways of its handler, or has none and is left alone. -/
theorem perform_serve_cases (collaborators : Collaborators σ) (execution : Execution σ)
    (step : Step) :
    (Handlers.builtin step.kind : Option (Handler σ)) = none ∧
        (serve step).perform collaborators execution = execution ∨
      ∃ outcome, Handler.Served collaborators step execution outcome ∧
        (serve step).perform collaborators execution = outcome.2 := by
  cases hhandler : (Handlers.builtin step.kind : Option (Handler σ)) with
  | none => exact .inl ⟨rfl, by simp only [perform, hhandler]⟩
  | some handler =>
    exact .inr ⟨_, Handler.served_of_builtin hhandler, by simp only [perform, hhandler]⟩

end Event

/-- A move of a run is the event that the step is served, followed by the event that its error is
caught if it has thrown one. -/
theorem Walk.Moves.exists_events {collaborators : Collaborators σ} {flow : Flow}
    {step next : Step} {walk after : Walk σ}
    (h : Moves collaborators .builtin flow step walk next after) :
    ∃ events, (events = [.serve step] ∨ ∃ error, events = [.serve step, .catchError step error]) ∧
      after.execution = walk.execution.perform collaborators events := by
  obtain ⟨id, htakes⟩ := h.takes
  generalize Turn.goOn id = t at htakes
  cases htakes with
  | unknown hhandler =>
    obtain ⟨handler, hserved⟩ := h.served
    rw [hhandler] at hserved
    cases hserved
  | returned hhandler hcall =>
    refine ⟨_, .inl rfl, ?_⟩
    simp only [Execution.perform, List.foldl_cons, List.foldl_nil, Event.perform, hhandler, hcall]
  | @thrown handler error execution hhandler hcall =>
    refine ⟨_, .inr ⟨error, rfl⟩, ?_⟩
    simp only [Execution.perform, List.foldl_cons, List.foldl_nil, Event.perform, hhandler, hcall]

/-- Each step of a run is reached by events. -/
theorem Task.exists_events (task : Task) (collaborators : Collaborators σ) (world : σ) :
    ∀ reached ∈ task.itinerary collaborators .builtin world, ∃ events,
      reached.2.execution = (task.begin world).execution.perform collaborators events := by
  unfold itinerary
  cases task.flow.entry? with
  | none => exact fun _ hreached => absurd hreached List.not_mem_nil
  | some entry =>
    have hmoves : ∀ step walk next after,
        (∃ events, walk.execution = (task.begin world).execution.perform collaborators events) →
        Walk.Moves collaborators .builtin task.flow step walk next after →
        ∃ events, after.execution = (task.begin world).execution.perform collaborators events := by
      rintro step walk next after ⟨before, hbefore⟩ hmove
      obtain ⟨events, -, hafter⟩ := hmove.exists_events
      refine ⟨before ++ events, ?_⟩
      rw [hafter, hbefore, Execution.perform, Execution.perform, Execution.perform,
        List.foldl_append]
    exact Walk.forall_mem_itinerary hmoves task.options.maxSteps ⟨[], rfl⟩

end AgentFlow
