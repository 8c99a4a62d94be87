import AgentFlow.Execution.Run

/-!
# Runs as journeys

The walk through a flow is a loop with a limit. Here it is taken apart into what the limit has no
say in: single moves from step to step, journeys, which are sequences of moves, and endings, which
are turns that lead nowhere. A walk with so many steps left is a journey of that length that the
limit cuts off, or a shorter journey and an ending (`onward_cases`).

What holds of a single turn is proved of `Takes`, which says once what a turn can come to; what
holds of a whole run follows along journeys.
-/

namespace AgentFlow

namespace Walk

variable {σ : Type}

section

variable (collaborators : Collaborators σ) (handlers : Handlers σ) (flow : Flow)

/-- What taking a step comes to. The step is counted first; if a handler serves its kind, that is
called, once. -/
inductive Takes (step : Step) (walk : Walk σ) : Turn → Walk σ → Prop where
  | unknown (h : handlers step.kind = none) :
    Takes step walk (.fail (.unknownStepKind step.kind.name))
      { walk with stepsTaken := walk.stepsTaken + 1 }
  | returned {handler : Handler σ} {result : StepResult} {execution : Execution σ}
    (h : handlers step.kind = some handler)
    (hcall : handler collaborators step walk.execution = (.ok result, execution)) :
    Takes step walk (result.turn step.id)
      ⟨execution, walk.stepsTaken + 1, result.output.or walk.output⟩
  | thrown {handler : Handler σ} {error : FlowError} {execution : Execution σ}
    (h : handlers step.kind = some handler)
    (hcall : handler collaborators step walk.execution = (.error error, execution)) :
    Takes step walk (catchError collaborators step error execution).1
      ⟨(catchError collaborators step error execution).2, walk.stepsTaken + 1, walk.output⟩

/-- A walk goes from a step to the next one. -/
structure Moves (step : Step) (walk : Walk σ) (next : Step) (after : Walk σ) : Prop where
  /-- A handler serves the step. -/
  served : ∃ handler, handlers step.kind = some handler
  /-- The turn leads to the next step. -/
  leads : ∃ id, turn collaborators handlers step walk = (.goOn id, after) ∧
    flow.step? id = some next

/-- A walk ends with a step. -/
inductive Ends (step : Step) (walk : Walk σ) : Option FlowError → Walk σ → Prop where
  | complete {after : Walk σ} (h : turn collaborators handlers step walk = (.complete, after)) :
    Ends step walk none after
  | failed {error : FlowError} {after : Walk σ}
    (h : turn collaborators handlers step walk = (.fail error, after)) :
    Ends step walk (some error) after
  | astray {id : String} {after : Walk σ}
    (h : turn collaborators handlers step walk = (.goOn id, after)) (hid : flow.step? id = none) :
    Ends step walk (some (.stepNotFound id)) after

/-- A walk goes from step to step. The steps that are left behind are listed; the last one has been
reached, but not taken. -/
inductive Journey : Step → Walk σ → List Step → Step → Walk σ → Prop where
  | nil (step : Step) (walk : Walk σ) : Journey step walk [] step walk
  | cons {step next last : Step} {walk after final : Walk σ} {visited : List Step}
    (h : Moves collaborators handlers flow step walk next after)
    (rest : Journey next after visited last final) :
    Journey step walk (step :: visited) last final

end

variable {collaborators : Collaborators σ} {handlers : Handlers σ} {flow : Flow}

/-! ## Turns -/

/-- Every turn is taken. -/
theorem takes_turn (step : Step) (walk : Walk σ) :
    Takes collaborators handlers step walk (turn collaborators handlers step walk).1
      (turn collaborators handlers step walk).2 := by
  unfold turn
  cases hhandler : handlers step.kind with
  | none => exact .unknown hhandler
  | some handler =>
    rcases hcall : handler collaborators step walk.execution with ⟨error | result, execution⟩
    · simp only [hcall]
      exact .thrown hhandler hcall
    · simp only [hcall]
      exact .returned hhandler hcall

/-- What a turn comes to is what it takes. -/
theorem takes_of_turn_eq {step : Step} {walk after : Walk σ} {t : Turn}
    (h : turn collaborators handlers step walk = (t, after)) :
    Takes collaborators handlers step walk t after := by
  have htakes : Takes collaborators handlers step walk (turn collaborators handlers step walk).1
    (turn collaborators handlers step walk).2 := takes_turn step walk
  rw [h] at htakes
  exact htakes

/-- A turn counts one step. -/
theorem Takes.stepsTaken {step : Step} {walk after : Walk σ} {t : Turn}
    (h : Takes collaborators handlers step walk t after) :
    after.stepsTaken = walk.stepsTaken + 1 := by
  cases h <;> rfl

/-- Only a step that a handler serves leads on. -/
theorem Takes.served {step : Step} {walk after : Walk σ} {id : String}
    (h : Takes collaborators handlers step walk (.goOn id) after) :
    ∃ handler, handlers step.kind = some handler := by
  generalize ht : Turn.goOn id = t at h
  cases h with
  | unknown => cases ht
  | returned hhandler => exact ⟨_, hhandler⟩
  | thrown hhandler => exact ⟨_, hhandler⟩

/-- To move on is to take a turn that goes on. -/
theorem Moves.takes {step next : Step} {walk after : Walk σ}
    (h : Moves collaborators handlers flow step walk next after) :
    ∃ id, Takes collaborators handlers step walk (.goOn id) after := by
  obtain ⟨id, hturn, -⟩ := h.leads
  exact ⟨id, takes_of_turn_eq hturn⟩

/-- To end is to take a turn. -/
theorem Ends.takes {step : Step} {walk after : Walk σ} {error : Option FlowError}
    (h : Ends collaborators handlers flow step walk error after) :
    ∃ t, Takes collaborators handlers step walk t after := by
  cases h with
  | complete hturn => exact ⟨_, takes_of_turn_eq hturn⟩
  | failed hturn => exact ⟨_, takes_of_turn_eq hturn⟩
  | astray hturn _ => exact ⟨_, takes_of_turn_eq hturn⟩

/-- The walk that a step ends is as the turn has left it. -/
theorem Ends.turn_snd {step : Step} {walk after : Walk σ} {error : Option FlowError}
    (h : Ends collaborators handlers flow step walk error after) :
    (turn collaborators handlers step walk).2 = after := by
  cases h with
  | complete hturn => rw [hturn]
  | failed hturn => rw [hturn]
  | astray hturn _ => rw [hturn]

/-- From every step a walk either goes on or ends. -/
theorem moves_or_ends (step : Step) (walk : Walk σ) :
    (∃ next after, Moves collaborators handlers flow step walk next after) ∨
      ∃ error after, Ends collaborators handlers flow step walk error after := by
  rcases hturn : turn collaborators handlers step walk with ⟨_ | id | error, after⟩
  · exact .inr ⟨_, _, .complete hturn⟩
  · cases hnext : flow.step? id with
    | none => exact .inr ⟨_, _, .astray hturn hnext⟩
    | some next => exact .inl ⟨next, after, (takes_of_turn_eq hturn).served, id, hturn, hnext⟩
  · exact .inr ⟨_, _, .failed hturn⟩

/-! ## Runs -/

/-- A walk that moves on goes on from there, with one step less. -/
theorem onward_of_moves {step next : Step} {walk after : Walk σ}
    (h : Moves collaborators handlers flow step walk next after) (limit left : Nat) :
    onward collaborators handlers flow limit (left + 1) step walk =
      onward collaborators handlers flow limit left next after := by
  obtain ⟨id, hturn, hnext⟩ := h.leads
  simp only [onward, hturn, hnext]

/-- A walk that ends is at its end. -/
theorem onward_of_ends {step : Step} {walk after : Walk σ} {error : Option FlowError}
    (h : Ends collaborators handlers flow step walk error after) (limit left : Nat) :
    onward collaborators handlers flow limit (left + 1) step walk = (error, after) := by
  cases h with
  | complete hturn => simp only [onward, hturn]
  | failed hturn => simp only [onward, hturn]
  | astray hturn hnext => simp only [onward, hturn, hnext]

/-- A walk that has enough steps left to make a journey goes on behind it with what it has left
then. -/
theorem onward_of_journey {step last : Step} {walk final : Walk σ} {visited : List Step}
    (h : Journey collaborators handlers flow step walk visited last final) (limit left : Nat) :
    onward collaborators handlers flow limit (visited.length + left) step walk =
      onward collaborators handlers flow limit left last final := by
  induction h with
  | nil => rw [List.length_nil, Nat.zero_add]
  | cons hmoves _ ih => rw [List.length_cons, Nat.succ_add, onward_of_moves hmoves, ih]

/-- A walk is a journey that the limit cuts off, or a journey within the limit and an ending. -/
theorem onward_cases (limit left : Nat) (step : Step) (walk : Walk σ) :
    (∃ visited last final, Journey collaborators handlers flow step walk visited last final ∧
      visited.length = left ∧
      onward collaborators handlers flow limit left step walk =
        (some (.maxStepsExceeded limit), final)) ∨
    ∃ visited last final error after,
      Journey collaborators handlers flow step walk visited last final ∧
      visited.length < left ∧ Ends collaborators handlers flow last final error after ∧
      onward collaborators handlers flow limit left step walk = (error, after) := by
  induction left generalizing step walk with
  | zero => exact .inl ⟨[], step, walk, .nil step walk, rfl, rfl⟩
  | succ left ih =>
    rcases moves_or_ends step walk with ⟨next, after, hmoves⟩ | ⟨error, after, hends⟩
    · rw [onward_of_moves hmoves]
      rcases ih next after with ⟨visited, last, final, hjourney, hlength, hrun⟩ |
        ⟨visited, last, final, error, stop, hjourney, hlength, hends, hrun⟩
      · refine .inl ⟨step :: visited, last, final, .cons hmoves hjourney, ?_, hrun⟩
        rw [List.length_cons, hlength]
      · refine .inr ⟨step :: visited, last, final, error, stop, .cons hmoves hjourney, ?_, hends,
          hrun⟩
        exact Nat.succ_lt_succ hlength
    · exact .inr ⟨[], step, walk, error, after, .nil step walk, Nat.succ_pos left, hends,
        onward_of_ends hends limit left⟩

/-! ## Counting steps -/

/-- Every step of a journey has been counted. -/
theorem Journey.stepsTaken {step last : Step} {walk final : Walk σ} {visited : List Step}
    (h : Journey collaborators handlers flow step walk visited last final) :
    final.stepsTaken = walk.stepsTaken + visited.length := by
  induction h with
  | nil => rfl
  | cons hmoves _ ih =>
    obtain ⟨id, htakes⟩ := hmoves.takes
    rw [ih, htakes.stepsTaken, List.length_cons]
    omega

/-- The step that a walk ends with has been counted, too. -/
theorem Ends.stepsTaken {step : Step} {walk after : Walk σ} {error : Option FlowError}
    (h : Ends collaborators handlers flow step walk error after) :
    after.stepsTaken = walk.stepsTaken + 1 := by
  obtain ⟨t, htakes⟩ := h.takes
  exact htakes.stepsTaken

/-- A walk takes no more steps than are left. -/
theorem stepsTaken_onward_le (limit left : Nat) (step : Step) (walk : Walk σ) :
    (onward collaborators handlers flow limit left step walk).2.stepsTaken ≤
      walk.stepsTaken + left := by
  rcases onward_cases limit left step walk with ⟨visited, last, final, hjourney, rfl, hrun⟩ |
    ⟨visited, last, final, error, after, hjourney, hlength, hends, hrun⟩
  · rw [hrun]
    exact Nat.le_of_eq hjourney.stepsTaken
  · rw [hrun, hends.stepsTaken, hjourney.stepsTaken]
    omega

/-- A walk with a step left takes one more. -/
theorem lt_stepsTaken_onward (limit left : Nat) (step : Step) (walk : Walk σ) :
    walk.stepsTaken <
      (onward collaborators handlers flow limit (left + 1) step walk).2.stepsTaken := by
  rcases onward_cases limit (left + 1) step walk with
    ⟨visited, last, final, hjourney, hlength, hrun⟩ |
    ⟨visited, last, final, error, after, hjourney, hlength, hends, hrun⟩
  · rw [hrun, hjourney.stepsTaken]
    omega
  · rw [hrun, hends.stepsTaken, hjourney.stepsTaken]
    omega

end Walk

namespace Task

variable {σ : Type} {collaborators : Collaborators σ} {handlers : Handlers σ}

/-- The run of a flow with steps is what its walk comes to. -/
theorem run_eq_of_onward {task : Task} {entry : Step} {world : σ} {error : Option FlowError}
    {after : Walk σ} (hentry : task.flow.entry? = some entry)
    (h : Walk.onward collaborators handlers task.flow task.options.maxSteps task.options.maxSteps
      entry (task.begin world) = (error, after)) :
    task.run collaborators handlers world = (after.outcome error, after.execution.world) := by
  simp only [run, walk, hentry, h]

end Task

end AgentFlow
