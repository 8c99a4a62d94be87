import AgentFlow.Execution.Playback
import AgentFlow.Proofs.Execution.Itinerary
import AgentFlow.Proofs.Flow.Reachability

/-!
# A run stays within reach

Validation follows the connections of a flow without running it; a run follows some of them, one at
a time, as its conditions and failures have it. So whatever a run comes to, a chain of connections
leads there, and no run comes to a step that the report calls unreachable.
-/

namespace AgentFlow

namespace Walk

variable {σ : Type} {collaborators : Collaborators σ} {flow : Flow}

/-- A move of a walk follows a connection of the flow. -/
theorem Moves.connects {step next : Step} {walk after : Walk σ}
    (h : Moves collaborators .builtin flow step walk next after) : flow.Connects step next :=
  ⟨h.mem_flow, h.id_mem_successors⟩

/-- The steps of a walk are within reach of the one that it starts from. -/
theorem reaches_of_mem_itinerary (left : Nat) (start : Step) (walk : Walk σ) :
    ∀ visit ∈ itinerary collaborators .builtin flow left start walk,
      flow.Reaches start visit.1 := by
  refine forall_mem_itinerary (P := fun step _ => flow.Reaches start step) ?_ left .refl
  intro step walk next after hreaches hmoves
  exact hreaches.tail hmoves.connects

end Walk

namespace Task

variable {σ : Type}

/-- A run of a flow with a start step takes steps only that the first one reaches. -/
theorem reaches_of_mem_itinerary (task : Task) {start : Step}
    (hstart : task.flow.start? = some start) (collaborators : Collaborators σ) (world : σ) :
    ∀ visit ∈ task.itinerary collaborators .builtin world, task.flow.Reaches start visit.1 := by
  have hentry : task.flow.entry? = some start := by
    rw [Flow.entry?, hstart, Option.some_or]
  intro visit hvisit
  simp only [itinerary, hentry] at hvisit
  exact Walk.reaches_of_mem_itinerary _ start _ visit hvisit

end Task

/-- **Warnings about reachability are exact, and runs keep to them.** In a flow with distinct
identifiers and a start step, the report warns that a step is unreachable exactly if no chain of
connections, however long, leads to it from the first start step. And whatever agent, input and
options the flow is run with, and whatever generator, tools and recorder do, no run of it takes a
step that the report warns of. -/
theorem Flow.warned_iff_and_not_taken {flow : Flow} (hids : (flow.map Step.id).Nodup)
    {start : Step} (hfirst : flow.find? (fun step => step.kind = .start) = some start) :
    (∀ step ∈ flow,
      (Finding.unreachable step.id).message ∈ flow.validate.warnings.map Finding.message ↔
        ¬flow.Reaches start step) ∧
    ∀ {σ : Type} (collaborators : Collaborators σ) (world : σ) (agent : AgentConfig)
      (input : ExecutionInput) (options : ExecutionOptions),
      ∀ visit ∈ (Task.mk agent flow input options).itinerary collaborators .builtin world,
        (Finding.unreachable visit.1.id).message ∉ flow.validate.warnings.map Finding.message := by
  have hstart : flow.start? = some start := hfirst
  have hwarned : ∀ step ∈ flow,
      (Finding.unreachable step.id).message ∈ flow.validate.warnings.map Finding.message ↔
        ¬flow.Reaches start step :=
    fun _ hstep => warns_unreachable_iff hids hstart hstep
  refine ⟨hwarned, ?_⟩
  intro σ collaborators world agent input options visit hvisit hwarning
  have hreaches : flow.Reaches start visit.1 :=
    Task.reaches_of_mem_itinerary ⟨agent, flow, input, options⟩ hstart collaborators world visit
      hvisit
  have hmem : visit.1 ∈ flow := hreaches.mem (List.mem_of_find?_eq_some hstart)
  exact (hwarned visit.1 hmem).mp hwarning hreaches

/-- A cycle with an error edge to nowhere, and behind it two steps that lead into the cycle, one of
them a start step as well, but that nothing leads to. -/
theorem Flow.warned_iff_and_not_taken_of_second_start :
    let first : Step := { id := "in", kind := .start, connections := { next := some "check" } }
    let second : Step := { id := "again", kind := .start, connections := { next := some "island" } }
    let island : Step := { id := "island", kind := .prompt, connections := { next := some "in" } }
    let flow : Flow :=
      [first,
        { id := "check", kind := .condition, config := [("condition", .string "done exists")]
          connections :=
            { onTrue := some "out", onFalse := some "in", onError := some "nowhere" } },
        second, island, { id := "out", kind := .output }]
    (flow.map Step.id).Nodup ∧ flow.find? (fun step => step.kind = .start) = some first ∧
      flow.validate.warnings.map Finding.message =
        ["Step 'again' is unreachable from the start step",
          "Step 'island' is unreachable from the start step"] ∧
      ¬flow.Reaches first island ∧ ¬flow.Reaches first second ∧
      ∀ visit ∈ (Task.mk {} flow {} {}).itinerary Playback.scripted .builtin {},
        (Finding.unreachable visit.1.id).message ∉ flow.validate.warnings.map Finding.message := by
  intro first second island flow
  have hids : (flow.map Step.id).Nodup := by decide
  have hfirst : flow.find? (fun step => step.kind = .start) = some first := rfl
  have hwarnings : flow.validate.warnings.map Finding.message =
      ["Step 'again' is unreachable from the start step",
        "Step 'island' is unreachable from the start step"] := by decide +kernel
  obtain ⟨hwarned, htaken⟩ := warned_iff_and_not_taken hids hfirst
  have hisland := hwarned island (by simp [flow])
  have hsecond := hwarned second (by simp [flow])
  rw [hwarnings] at hisland hsecond
  exact ⟨hids, hfirst, hwarnings, hisland.mp (by decide +kernel), hsecond.mp (by decide +kernel),
    htaken Playback.scripted {} {} {} {}⟩

end AgentFlow
