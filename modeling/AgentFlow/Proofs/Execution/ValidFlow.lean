import AgentFlow.Execution.Playback
import AgentFlow.Proofs.Execution.Itinerary
import AgentFlow.Proofs.Flow.Validation

/-!
# Running a valid flow

Validation looks at a flow without running it. What it promises holds at every step of every run:
the run stays within the flow, because a step leads only where it is connected to and every
connection leads to a step; and no step throws over a setting that is missing, because a tool step
is the only one that would, and it names its tool.
-/

namespace AgentFlow

/-- The causes that a run of a valid flow can fail with. -/
inductive FlowError.OfValidFlow : FlowError → Prop where
  | unknownStepKind (name : String) : OfValidFlow (.unknownStepKind name)
  | maxStepsExceeded (limit : Nat) : OfValidFlow (.maxStepsExceeded limit)
  | invalidConfig (stepId message : String) : OfValidFlow (.invalidConfig stepId message)
  | stepFailed (stepId message : String) : OfValidFlow (.stepFailed stepId message)

/-- The settings of a step of a valid flow can be unreadable, but nothing is missing in them. -/
theorem FlowError.OfSettings.exists_eq_invalidConfig {flow : Flow}
    (hvalid : flow.validate.valid = true) {step : Step} (hstep : step ∈ flow) {error : FlowError}
    (h : error.OfSettings step) : ∃ message, error = .invalidConfig step.id message := by
  cases h with
  | invalid message => exact ⟨message, rfl⟩
  | missing hkind hconfig hname =>
    obtain ⟨name, htext⟩ := Flow.configText?_toolName_of_valid hvalid hstep hkind
    rw [Step.nonBlank?_toolName_of_readConfig hconfig, htext] at hname
    cases hname

/-- No step of a valid flow throws over a setting that is missing. -/
theorem Handler.ne_missingConfig_of_valid {σ : Type} {collaborators : Collaborators σ} {flow : Flow}
    (hvalid : flow.validate.valid = true) {step : Step} (hstep : step ∈ flow)
    {execution : Execution σ} {handler : Handler σ}
    (hhandler : Handlers.builtin step.kind = some handler) (id field : String) :
    (handler collaborators step execution).1 ≠ .error (.missingConfig id field) := by
  have htidy : Tidy collaborators step execution _ := tidy_of_builtin hhandler
  generalize handler collaborators step execution = outcome at htidy
  cases htidy with
  | refused hsettings _ =>
    obtain ⟨message, rfl⟩ := hsettings.exists_eq_invalidConfig hvalid hstep
    rintro ⟨⟩
  | served => rintro ⟨⟩

namespace Walk

variable {σ : Type} {collaborators : Collaborators σ} {handlers : Handlers σ} {flow : Flow}

/-- A journey that starts in a flow stays in it. -/
theorem Journey.mem_flow {step last : Step} {walk final : Walk σ} {visited : List Step}
    (h : Journey collaborators handlers flow step walk visited last final) (hstep : step ∈ flow) :
    last ∈ flow := by
  induction h with
  | nil => exact hstep
  | cons hmoves _ ih => exact ih hmoves.mem_flow

/-- All steps that are visited are steps of the flow. -/
theorem mem_flow_of_mem_itinerary (left : Nat) {step : Step} (walk : Walk σ) (hstep : step ∈ flow) :
    ∀ visit ∈ itinerary collaborators handlers flow left step walk, visit.1 ∈ flow :=
  forall_mem_itinerary (P := fun reached _ => reached ∈ flow)
    (fun _ _ _ _ _ hmoves => hmoves.mem_flow) left hstep

/-- A valid flow ends with none but the errors that are no fault of its settings. -/
theorem Ends.ofValidFlow (hvalid : flow.validate.valid = true) {step : Step} (hstep : step ∈ flow)
    {walk after : Walk σ} {error : FlowError}
    (h : Ends collaborators .builtin flow step walk (some error) after) : error.OfValidFlow := by
  rcases h.error_cases with ⟨-, rfl⟩ | hsettings | ⟨message, rfl⟩ | ⟨id, hid, hnone, -⟩
  · exact .unknownStepKind _
  · obtain ⟨message, rfl⟩ := hsettings.exists_eq_invalidConfig hvalid hstep
    exact .invalidConfig _ _
  · exact .stepFailed _ _
  · obtain ⟨next, hnext⟩ := Flow.exists_step?_of_valid hvalid hstep hid
    rw [hnone] at hnext
    cases hnext

end Walk

namespace Task

variable {σ : Type}

/-- **A valid flow runs safely.** Whatever agent, input and options it is run with, and whatever
generator, tools and recorder do, a run of a flow without errors succeeds, or fails over a step of
an unknown kind, over its limit, over settings of the wrong types, or because a step fails that
leads nowhere. No step that it takes throws over a setting that is missing. -/
theorem run_of_valid (collaborators : Collaborators σ) (task : Task) (world : σ)
    (hvalid : task.flow.validate.valid = true) :
    let outcome := (task.run collaborators .builtin world).1
    ((outcome.error = none ∧ outcome.result.success = true) ∨
      ∃ error, outcome.error = some error ∧ outcome.result.success = false ∧ error.OfValidFlow) ∧
    ∀ visit ∈ task.itinerary collaborators .builtin world, ∀ handler,
      Handlers.builtin visit.1.kind = some handler → ∀ id field,
        (handler collaborators visit.1 visit.2.execution).1 ≠ .error (.missingConfig id field) := by
  intro outcome
  obtain ⟨entry, hentry⟩ := Flow.exists_entry? (Flow.ne_nil_of_valid hvalid)
  have hmem := Flow.mem_of_entry?_eq_some hentry
  refine ⟨?_, fun visit hvisit handler hhandler id field => ?_⟩
  · rcases Walk.onward_cases task.options.maxSteps task.options.maxSteps entry
        (task.begin world) with
      ⟨visited, last, final, -, -, hrun⟩ |
      ⟨visited, last, final, error, after, hjourney, -, hends, hrun⟩
    · have houtcome : outcome = final.outcome _ := congrArg Prod.fst (run_eq_of_onward hentry hrun)
      rw [houtcome]
      exact .inr ⟨_, rfl, rfl, .maxStepsExceeded _⟩
    · have houtcome : outcome = after.outcome _ := congrArg Prod.fst (run_eq_of_onward hentry hrun)
      rw [houtcome]
      cases error with
      | none => exact .inl ⟨rfl, rfl⟩
      | some error =>
        exact .inr ⟨error, rfl, rfl, hends.ofValidFlow hvalid (hjourney.mem_flow hmem)⟩
  · simp only [itinerary, hentry] at hvisit
    have hstep := Walk.mem_flow_of_mem_itinerary _ _ hmem visit hvisit
    exact Handler.ne_missingConfig_of_valid hvalid hstep hhandler id field

/-- A tool that cannot be called leads over an error edge to a generator that refuses. -/
theorem run_of_valid_over_error_edge :
    let task : Task :=
      { agent := {}
        flow :=
          [{ id := "in", kind := .start, connections := { next := some "call" } },
            { id := "call", kind := .tool, config := [("toolName", .string "search")]
              connections := { next := some "in", onError := some "ask" } },
            { id := "ask", kind := .prompt, connections := { next := some "call" } }]
        input := {}
        options := {} }
    let world : Playback := { outcomes := [.error "down"], replies := [.error "busy"] }
    let outcome := (task.run Playback.scripted .builtin world).1
    task.flow.validate.valid = true ∧
      outcome.error = some (.stepFailed "ask" "Generation failed: busy") ∧
      (∃ error, outcome.error = some error ∧ outcome.result.success = false ∧ error.OfValidFlow) ∧
      ∀ visit ∈ task.itinerary Playback.scripted .builtin world, ∀ handler,
        Handlers.builtin visit.1.kind = some handler → ∀ id field,
          (handler Playback.scripted visit.1 visit.2.execution).1 ≠
            .error (.missingConfig id field) := by
  intro task world outcome
  have hvalid : task.flow.validate.valid = true := by decide +kernel
  have herror : outcome.error = some (.stepFailed "ask" "Generation failed: busy") := rfl
  obtain ⟨houtcome, hthrown⟩ := run_of_valid Playback.scripted task world hvalid
  refine ⟨hvalid, herror, houtcome.resolve_left fun h => ?_, hthrown⟩
  exact nomatch herror.symm.trans h.1

end Task

end AgentFlow
