import AgentFlow.Execution.Run
import Mathlib.Order.Bounds.Basic

/-!
# Retrying

To run a flow with retries is to run it again and again, each time from the beginning, and to keep
the first run that settles the matter. Nothing is carried from one run to the next but the state of
the collaborators.

Put beside the program are the runs that could follow on one another without end (`attempts`), and
the runs that are performed (`performed`); the law says that the second is the shortest beginning of
the first that ends with a run that settles, or with the last retry.
-/

namespace AgentFlow

/-- A run settles its task if it succeeds, or if it runs into the limit of steps, which the next run
would do as well. -/
def Outcome.Settles (outcome : Outcome) : Prop :=
  outcome.result.success = true ∨ ∃ limit, outcome.error = some (.maxStepsExceeded limit)

/-- Only running out of steps is final. -/
theorem FlowError.isRetryable_eq_false_iff {error : FlowError} :
    error.isRetryable = false ↔ ∃ limit, error = .maxStepsExceeded limit := by
  cases error <;> simp [isRetryable]

namespace Task

variable {σ : Type} (task : Task) (collaborators : Collaborators σ) (handlers : Handlers σ)

/-- The successive runs of a task, each from the beginning and with the collaborators as the one
before has left them. -/
def attempt (world : σ) : Nat → Outcome × σ
  | 0 => task.run collaborators handlers world
  | n + 1 => task.run collaborators handlers (attempt world n).2

/-- The runs that are performed with so many retries, in order. -/
def performed : (retries : Nat) → σ → List (Outcome × σ)
  | 0, world => [task.run collaborators handlers world]
  | retries + 1, world =>
    let first := task.run collaborators handlers world
    if first.1.error.any FlowError.isRetryable then first :: performed retries first.2 else [first]

variable {task collaborators handlers}

/-- All runs but the first are the successive runs from where the first has left the
collaborators. -/
theorem attempt_succ (world : σ) (n : Nat) :
    task.attempt collaborators handlers world (n + 1) =
      task.attempt collaborators handlers (task.run collaborators handlers world).2 n := by
  induction n with
  | zero => rfl
  | succ n ih => rw [attempt, ih, attempt]

/-- A run settles its task exactly if its error, if it has one, is not one to retry. -/
theorem settles_run_iff (world : σ) :
    (task.run collaborators handlers world).1.Settles ↔
      (task.run collaborators handlers world).1.error.any FlowError.isRetryable = false := by
  obtain ⟨error, after, hwalk⟩ : ∃ error after, task.walk collaborators handlers world =
    (error, after) := ⟨_, _, rfl⟩
  have houtcome : (task.run collaborators handlers world).1 = after.outcome error := by
    rw [run, hwalk]
  rw [houtcome, Outcome.Settles]
  cases error with
  | none => simp [Walk.outcome]
  | some error => simp [Walk.outcome, FlowError.isRetryable_eq_false_iff]

/-- A run that does not settle is followed by the runs that are left. -/
theorem runWithRetry_of_not_settles {world : σ}
    (h : ¬(task.run collaborators handlers world).1.Settles) (retries : Nat) :
    task.runWithRetry collaborators handlers (retries + 1) world =
        task.runWithRetry collaborators handlers retries
          (task.run collaborators handlers world).2 ∧
      task.performed collaborators handlers (retries + 1) world =
        task.run collaborators handlers world ::
          task.performed collaborators handlers retries
            (task.run collaborators handlers world).2 := by
  rw [settles_run_iff, Bool.not_eq_false] at h
  constructor
  · rw [runWithRetry]
    exact if_pos h
  · rw [performed]
    exact if_pos h

/-- A run that settles is the last one. -/
theorem runWithRetry_of_settles {world : σ}
    (h : (task.run collaborators handlers world).1.Settles) (retries : Nat) :
    task.runWithRetry collaborators handlers retries world =
        task.run collaborators handlers world ∧
      task.performed collaborators handlers retries world =
        [task.run collaborators handlers world] := by
  have hretry : ¬(task.run collaborators handlers world).1.error.any FlowError.isRetryable = true :=
    Bool.eq_false_iff.mp ((settles_run_iff world).mp h)
  cases retries with
  | zero => exact ⟨rfl, rfl⟩
  | succ retries =>
    constructor
    · rw [runWithRetry]
      exact if_neg hretry
    · rw [performed]
      exact if_neg hretry

/-- **Retrying is running again until it is settled.** Of the successive runs of a task, let `i` be
the number of the first one that succeeds, runs into the limit of steps, or is the last that there
are retries for. A run with retries performs the runs from the first one up to this, in this order
and no others, and what comes of it is what comes of this run alone, its whole result and the state
in which it leaves the collaborators. -/
theorem runWithRetry_eq_attempt (task : Task) (collaborators : Collaborators σ)
    (handlers : Handlers σ) (retries : Nat) (world : σ) :
    ∃ i,
      IsLeast {n | (task.attempt collaborators handlers world n).1.Settles ∨ n = retries} i ∧
      task.performed collaborators handlers retries world =
        (List.range (i + 1)).map (task.attempt collaborators handlers world) ∧
      task.runWithRetry collaborators handlers retries world =
        task.attempt collaborators handlers world i := by
  induction retries generalizing world with
  | zero => exact ⟨0, ⟨.inr rfl, fun n _ => Nat.zero_le n⟩, rfl, rfl⟩
  | succ retries ih =>
    by_cases hsettles : (task.run collaborators handlers world).1.Settles
    · obtain ⟨hrun, hperformed⟩ := runWithRetry_of_settles hsettles (retries + 1)
      exact ⟨0, ⟨.inl hsettles, fun n _ => Nat.zero_le n⟩, hperformed, hrun⟩
    · obtain ⟨hrun, hperformed⟩ := runWithRetry_of_not_settles hsettles retries
      obtain ⟨i, ⟨hlast, hleast⟩, hruns, hresult⟩ := ih (task.run collaborators handlers world).2
      refine ⟨i + 1, ⟨?_, ?_⟩, ?_, ?_⟩
      · rcases hlast with hlast | rfl
        · exact .inl (by rwa [attempt_succ])
        · exact .inr rfl
      · -- The first run does not count, and every later one counts one less from behind the first.
        intro n hn
        cases n with
        | zero =>
          rcases hn with hn | hn
          · exact absurd hn hsettles
          · cases hn
        | succ n =>
          have hlater : (task.attempt collaborators handlers
              (task.run collaborators handlers world).2 n).1.Settles ∨ n = retries := by
            rw [← attempt_succ]
            exact hn.imp_right Nat.succ.inj
          exact Nat.succ_le_succ (hleast hlater)
      · rw [hperformed, hruns, List.range_succ_eq_map (n := i + 1), List.map_cons, List.map_map]
        congr 1
        apply List.map_congr_left
        intro n _
        exact (attempt_succ world n).symm
      · rw [hrun, hresult, attempt_succ]

end Task

end AgentFlow
