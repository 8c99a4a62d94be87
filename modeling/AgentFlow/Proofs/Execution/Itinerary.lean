import AgentFlow.Proofs.Execution.Trace
import Mathlib.Data.List.Chain

/-!
# The steps of a run

A run takes one step after the other. Its itinerary lists them all, in order, each together with
the walk as the step found it. The itinerary is as long as the count of steps says, it starts where
the flow is entered, and it is a chain: what follows on a step is where the turn of that step has
led (`isChain_itinerary`).

What is to be shown of every step of a run is shown of the first one and along moves
(`forall_mem_itinerary`).
-/

namespace AgentFlow

namespace Walk

variable {σ : Type} {collaborators : Collaborators σ} {handlers : Handlers σ} {flow : Flow}

/-- The steps that a walk takes, each with the walk as the step finds it. `left` is how many steps
may still be taken. -/
def itinerary (collaborators : Collaborators σ) (handlers : Handlers σ) (flow : Flow) :
    (left : Nat) → Step → Walk σ → List (Step × Walk σ)
  | 0, _, _ => []
  | left + 1, step, walk =>
    (step, walk) ::
      match turn collaborators handlers step walk with
      | (.goOn id, after) =>
        match flow.step? id with
        | none => []
        | some next => itinerary collaborators handlers flow left next after
      | (.complete, _) => []
      | (.fail _, _) => []

/-- A step that moves on is visited, and then the itinerary of the next one. -/
theorem itinerary_of_moves {step next : Step} {walk after : Walk σ}
    (h : Moves collaborators handlers flow step walk next after) (left : Nat) :
    itinerary collaborators handlers flow (left + 1) step walk =
      (step, walk) :: itinerary collaborators handlers flow left next after := by
  obtain ⟨id, hturn, hnext⟩ := h.leads
  simp only [itinerary, hturn, hnext]

/-- A step that ends the walk is the last one visited. -/
theorem itinerary_of_ends {step : Step} {walk after : Walk σ} {error : Option FlowError}
    (h : Ends collaborators handlers flow step walk error after) (left : Nat) :
    itinerary collaborators handlers flow (left + 1) step walk = [(step, walk)] := by
  cases h with
  | complete hturn => simp only [itinerary, hturn]
  | failed hturn => simp only [itinerary, hturn]
  | astray hturn hnext => simp only [itinerary, hturn, hnext]

/-- A walk with a step left takes the step that it stands at first. -/
theorem exists_itinerary_eq_cons (left : Nat) (step : Step) (walk : Walk σ) :
    ∃ rest, itinerary collaborators handlers flow (left + 1) step walk = (step, walk) :: rest :=
  ⟨_, rfl⟩

/-- What holds at the first step and is kept by every move holds at every step. -/
theorem forall_mem_itinerary {P : Step → Walk σ → Prop}
    (hmoves : ∀ step walk next after, P step walk →
      Moves collaborators handlers flow step walk next after → P next after)
    (left : Nat) {step : Step} {walk : Walk σ} (h : P step walk) :
    ∀ visit ∈ itinerary collaborators handlers flow left step walk, P visit.1 visit.2 := by
  induction left generalizing step walk with
  | zero => exact fun _ hvisit => absurd hvisit (List.not_mem_nil)
  | succ left ih =>
    rcases moves_or_ends step walk with ⟨next, after, hmove⟩ | ⟨error, after, hends⟩
    · rw [itinerary_of_moves hmove]
      intro visit hvisit
      rcases List.mem_cons.mp hvisit with rfl | hvisit
      · exact h
      · exact ih (hmoves _ _ _ _ h hmove) visit hvisit
    · rw [itinerary_of_ends hends]
      intro visit hvisit
      rw [List.mem_singleton.mp hvisit]
      exact h

/-- On a step follows the one that its turn has led to. -/
theorem isChain_itinerary (left : Nat) (step : Step) (walk : Walk σ) :
    (itinerary collaborators handlers flow left step walk).IsChain fun visit next =>
      Moves collaborators handlers flow visit.1 visit.2 next.1 next.2 := by
  induction left generalizing step walk with
  | zero => exact .nil
  | succ left ih =>
    rcases moves_or_ends step walk with ⟨next, after, hmove⟩ | ⟨error, after, hends⟩
    · rw [itinerary_of_moves hmove]
      have hrest := ih next after
      cases left with
      | zero => exact .singleton _
      | succ left =>
        obtain ⟨rest, hcons⟩ := exists_itinerary_eq_cons left next after
        rw [hcons] at hrest ⊢
        exact .cons_cons hmove hrest
    · rw [itinerary_of_ends hends]
      exact .singleton _

/-- A walk counts the steps that it takes. -/
theorem stepsTaken_onward (limit left : Nat) (step : Step) (walk : Walk σ) :
    (onward collaborators handlers flow limit left step walk).2.stepsTaken =
      walk.stepsTaken + (itinerary collaborators handlers flow left step walk).length := by
  induction left generalizing step walk with
  | zero => rfl
  | succ left ih =>
    rcases moves_or_ends step walk with ⟨next, after, hmove⟩ | ⟨error, after, hends⟩
    · obtain ⟨id, htakes⟩ := hmove.takes
      rw [onward_of_moves hmove, itinerary_of_moves hmove, ih, htakes.stepsTaken,
        List.length_cons]
      omega
    · rw [onward_of_ends hends, itinerary_of_ends hends, hends.stepsTaken, List.length_singleton]

end Walk

namespace Task

variable {σ : Type}

/-- The steps that the run of a flow takes, each with the walk as the step finds it. -/
def itinerary (task : Task) (collaborators : Collaborators σ) (handlers : Handlers σ) (world : σ) :
    List (Step × Walk σ) :=
  match task.flow.entry? with
  | none => []
  | some entry =>
    Walk.itinerary collaborators handlers task.flow task.options.maxSteps entry (task.begin world)

end Task

end AgentFlow
