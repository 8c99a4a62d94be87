import AgentFlow.Execution.Playback
import AgentFlow.Proofs.Execution.Journey
import AgentFlow.Proofs.Flow.Reachability

/-!
# The order of declaration

A flow is a list of steps, but it is meant as a graph: where identifiers are distinct and there is
one start step, nothing depends on the order in which the steps are listed. An identifier then means
the one step that has it (`Flow.step?_eq_some_iff`), and the flow is entered at its one start step
(`Flow.exists_start?_perm`); a run looks at a flow in no other way. Validation goes through the
steps in order, and reports what it finds of each in this order, but what it finds of a step depends
on the steps that there are and not on where they stand.
-/

namespace AgentFlow

namespace Flow

variable {flow flow' : Flow}

/-! ## Looking up -/

/-- If identifiers are distinct, each means the one step that has it. -/
theorem step?_eq_some_iff (hids : (flow.map Step.id).Nodup) {id : String} {step : Step} :
    flow.step? id = some step ↔ step ∈ flow ∧ step.id = id := by
  constructor
  · exact mem_of_step?_eq_some
  · rintro ⟨hstep, rfl⟩
    obtain ⟨found, hfound⟩ := exists_step?_eq_some hstep
    obtain ⟨hmem, hid⟩ := mem_of_step?_eq_some hfound
    rw [hfound, eq_of_id_eq hids hmem hstep hid]

/-- Identifiers stay unique. -/
theorem nodup_ids_perm (hperm : flow.Perm flow') (hids : (flow.map Step.id).Nodup) :
    (flow'.map Step.id).Nodup :=
  (hperm.map Step.id).nodup_iff.mp hids

/-- An identifier leads to the same step, since only one has it. -/
theorem step?_perm (hperm : flow.Perm flow') (hids : (flow.map Step.id).Nodup) (id : String) :
    flow.step? id = flow'.step? id := by
  apply Option.ext
  intro step
  rw [step?_eq_some_iff hids, step?_eq_some_iff (nodup_ids_perm hperm hids), hperm.mem_iff]

/-- The one start step is found wherever it stands. -/
theorem exists_start?_perm (hperm : flow.Perm flow')
    (hstart : (flow.countP fun step => step.kind = .start) = 1) :
    ∃ start, flow.start? = some start ∧ flow'.start? = some start := by
  rw [List.countP_eq_length_filter, List.length_eq_one_iff] at hstart
  obtain ⟨start, hone⟩ := hstart
  have hone' : (flow'.filter fun step => step.kind = .start) = [start] := by
    rw [← List.perm_singleton, ← hone]
    exact (hperm.filter _).symm
  refine ⟨start, ?_, ?_⟩
  · rw [start?, ← List.head?_filter, hone]
    rfl
  · rw [start?, ← List.head?_filter, hone']
    rfl

/-- With one start step, a flow is entered there. -/
theorem exists_entry?_perm (hperm : flow.Perm flow')
    (hstart : (flow.countP fun step => step.kind = .start) = 1) :
    ∃ entry, flow.entry? = some entry ∧ flow'.entry? = some entry := by
  obtain ⟨start, hfound, hfound'⟩ := exists_start?_perm hperm hstart
  refine ⟨start, ?_, ?_⟩
  · unfold entry?
    rw [hfound, Option.some_or]
  · unfold entry?
    rw [hfound', Option.some_or]

/-! ## What validation finds -/

/-- The connections are the same. -/
theorem connects_perm (hperm : flow.Perm flow') : flow.Connects = flow'.Connects := by
  funext step next
  rw [Connects, Connects, hperm.mem_iff]

/-- No identifier is declared again where all are distinct. -/
theorem duplicates_eq_nil {seen : List String} (hids : (flow.map Step.id).Nodup)
    (hseen : ∀ step ∈ flow, step.id ∉ seen) : flow.duplicates seen = [] := by
  induction flow generalizing seen with
  | nil => rfl
  | cons step rest ih =>
    rw [List.map_cons, List.nodup_cons] at hids
    have hnew : seen.contains step.id = false := by
      rw [List.contains_eq_mem]
      exact decide_eq_false (hseen step List.mem_cons_self)
    rw [duplicates, hnew]
    refine ih hids.2 fun later hlater hmem => ?_
    rcases List.mem_cons.mp hmem with hid | hmem
    · exact hids.1 (hid ▸ List.mem_map_of_mem hlater)
    · exact hseen later (List.mem_cons_of_mem _ hlater) hmem

/-- Which connections lead astray does not depend on the order. -/
theorem danglingTargets_perm (hperm : flow.Perm flow') (step : Step) :
    step.danglingTargets flow = step.danglingTargets flow' := by
  unfold Step.danglingTargets
  simp only [hperm.any_eq]

/-- The same steps cannot be reached. -/
theorem unreachable_perm (hperm : flow.Perm flow') (hids : (flow.map Step.id).Nodup)
    (hstart : (flow.countP fun step => step.kind = .start) = 1) :
    flow.unreachable.Perm flow'.unreachable := by
  obtain ⟨start, hfound, hfound'⟩ := exists_start?_perm hperm hstart
  have hmem : start ∈ flow := List.mem_of_find?_eq_some hfound
  have hreached : ∀ step ∈ flow,
      (flow.reachable start).contains step.id = (flow'.reachable start).contains step.id := by
    intro step hstep
    rw [Bool.eq_iff_iff, List.contains_iff_mem, List.contains_iff_mem,
      mem_reachable_iff hids hmem hstep,
      mem_reachable_iff (nodup_ids_perm hperm hids) (hperm.subset hmem) (hperm.subset hstep),
      Reaches, Reaches, connects_perm hperm]
  simp only [unreachable, hfound, hfound']
  rw [List.filterMap_congr fun step hstep => by rw [hreached step hstep]]
  exact hperm.filterMap _

/-- The same errors are found. -/
theorem errors_perm (hperm : flow.Perm flow') (hids : (flow.map Step.id).Nodup)
    (hstart : (flow.countP fun step => step.kind = .start) = 1) :
    flow.validate.errors.Perm flow'.validate.errors := by
  obtain ⟨start, hfound, hfound'⟩ := exists_start?_perm hperm hstart
  simp only [validate, hfound, hfound', danglingTargets_perm hperm,
    duplicates_eq_nil hids fun _ _ => List.not_mem_nil,
    duplicates_eq_nil (nodup_ids_perm hperm hids) fun _ _ => List.not_mem_nil]
  exact (hperm.flatMap_right _).append_left _

/-- The same warnings are found. -/
theorem warnings_perm (hperm : flow.Perm flow') (hids : (flow.map Step.id).Nodup)
    (hstart : (flow.countP fun step => step.kind = .start) = 1) :
    flow.validate.warnings.Perm flow'.validate.warnings := by
  simp only [validate, hperm.any_eq]
  exact ((hperm.flatMap_right _).append_left _).append (unreachable_perm hperm hids hstart)

end Flow

/-! ## Runs -/

/-- A walk looks at a flow only for what its identifiers mean. -/
theorem Walk.onward_congr {σ : Type} (collaborators : Collaborators σ) (handlers : Handlers σ)
    {flow flow' : Flow} (h : ∀ id, flow.step? id = flow'.step? id) (limit left : Nat) (step : Step)
    (walk : Walk σ) :
    onward collaborators handlers flow limit left step walk =
      onward collaborators handlers flow' limit left step walk := by
  induction left generalizing step walk with
  | zero => rfl
  | succ left ih =>
    unfold onward
    rcases turn collaborators handlers step walk with ⟨_ | id | error, after⟩
    · rfl
    · simp only [h id]
      cases flow'.step? id with
      | none => rfl
      | some next => exact ih next after
    · rfl

/-- **The order of declaration does not matter.** Let the steps of a flow be listed in two orders,
their identifiers be distinct and one of them be a start step. Then validation calls both flows
valid or neither, with the same errors and the same warnings up to their order; and a run of the one
comes to what a run of the other comes to, whatever the handlers are: the same result with the same
spans, the same error, and the collaborators in the same state. -/
theorem Flow.validate_and_run_of_perm {flow flow' : Flow} (hperm : flow.Perm flow')
    (hids : (flow.map Step.id).Nodup)
    (hstart : (flow.countP fun step => step.kind = .start) = 1) :
    flow.validate.valid = flow'.validate.valid ∧
      flow.validate.errors.Perm flow'.validate.errors ∧
      flow.validate.warnings.Perm flow'.validate.warnings ∧
      ∀ {σ : Type} (collaborators : Collaborators σ) (handlers : Handlers σ) (agent : AgentConfig)
        (input : ExecutionInput) (options : ExecutionOptions) (world : σ),
        (Task.mk agent flow input options).run collaborators handlers world =
          (Task.mk agent flow' input options).run collaborators handlers world := by
  have herrors : flow.validate.errors.Perm flow'.validate.errors := errors_perm hperm hids hstart
  refine ⟨herrors.isEmpty_eq, herrors, warnings_perm hperm hids hstart, ?_⟩
  intro σ collaborators handlers agent input options world
  obtain ⟨entry, hentry, hentry'⟩ := exists_entry?_perm hperm hstart
  have honward := Walk.onward_congr collaborators handlers (step?_perm hperm hids)
    options.maxSteps options.maxSteps entry ((Task.mk agent flow input options).begin world)
  rw [Task.run_eq_of_onward hentry honward, Task.run_eq_of_onward hentry' rfl]
  rfl

/-- A flow that is listed backwards, with a step that nothing leads to and a connection to no
step. -/
theorem Flow.validate_and_run_of_perm_of_reverse :
    let flow : Flow :=
      [{ id := "start", kind := .start, connections := { next := some "ask" } },
        { id := "ask", kind := .prompt
          connections := { next := some "out", onError := some "nowhere" } },
        { id := "aside", kind := .loop },
        { id := "out", kind := .output }]
    let backwards : Flow := flow.reverse
    let said : ExecutionInput := { content := "Hello" }
    let world : Playback := { replies := [.ok ⟨"Hi", none⟩] }
    flow.Perm backwards ∧ (flow.map Step.id).Nodup ∧
      (flow.countP fun step => step.kind = .start) = 1 ∧
      flow.validate.errors = [.unknownTarget "ask" "onError" "nowhere"] ∧
      flow.validate.warnings = [.noBody "aside", .unreachable "aside"] ∧
      backwards.validate.valid = false ∧
      flow.validate.warnings.Perm backwards.validate.warnings ∧
      ((Task.mk {} backwards said {}).run Playback.scripted .builtin world).1.result.output =
        "Hi" := by
  intro flow backwards said world
  have hperm : flow.Perm backwards := (List.reverse_perm flow).symm
  have hids : (flow.map Step.id).Nodup := by decide
  have hstart : (flow.countP fun step => step.kind = .start) = 1 := by decide
  have herrors : flow.validate.errors = [.unknownTarget "ask" "onError" "nowhere"] := by
    decide +kernel
  have houtput :
      ((Task.mk {} flow said {}).run Playback.scripted .builtin world).1.result.output = "Hi" := rfl
  obtain ⟨hvalid, -, hwarnings, hrun⟩ := validate_and_run_of_perm hperm hids hstart
  refine ⟨hperm, hids, hstart, herrors, by decide +kernel, ?_, hwarnings, ?_⟩
  · rw [← hvalid, ValidationReport.valid, herrors]
    rfl
  · rw [← hrun, houtput]

end AgentFlow
