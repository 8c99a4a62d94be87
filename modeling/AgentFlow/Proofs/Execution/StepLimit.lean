import AgentFlow.Execution.Playback
import AgentFlow.Proofs.Execution.Trace

/-!
# The limit of steps

The limit of steps cuts a run off and does nothing else: a run that ends by itself is the same under
every limit that leaves it the steps, and a run that is cut off is the beginning of the run under a
higher limit.
-/

namespace AgentFlow

namespace Walk

variable {σ : Type} {collaborators : Collaborators σ} {handlers : Handlers σ} {flow : Flow}

/-- A walk that can end by itself does so under every limit that it can reach its end under. -/
theorem onward_of_journey_of_ends {step last : Step} {walk final after : Walk σ}
    {visited : List Step} {error : Option FlowError}
    (hjourney : Journey collaborators handlers flow step walk visited last final)
    (hends : Ends collaborators handlers flow last final error after) (limit : Nat) {left : Nat}
    (hleft : visited.length < left) :
    onward collaborators handlers flow limit left step walk = (error, after) := by
  obtain ⟨more, rfl⟩ := Nat.exists_eq_add_of_lt hleft
  rw [Nat.add_assoc, onward_of_journey hjourney, onward_of_ends hends]

end Walk

namespace Task

variable {σ : Type} {collaborators : Collaborators σ} {handlers : Handlers σ}

/-- The same task under another limit of steps. -/
def withLimit (limit : Nat) (task : Task) : Task :=
  { task with options := { task.options with maxSteps := limit } }

/-- A run that can end by itself does so under every limit that it can reach its end under. -/
theorem run_withLimit_of_ends {task : Task} {entry last : Step} {world : σ} {visited : List Step}
    {final after : Walk σ} {error : Option FlowError} (hentry : task.flow.entry? = some entry)
    (hjourney : Walk.Journey collaborators handlers task.flow entry (task.begin world) visited last
      final)
    (hends : Walk.Ends collaborators handlers task.flow last final error after) {limit : Nat}
    (hlimit : visited.length < limit) :
    (task.withLimit limit).run collaborators handlers world =
      (after.outcome error, after.execution.world) := by
  have hentry' : (task.withLimit limit).flow.entry? = some entry := hentry
  exact run_eq_of_onward hentry' (Walk.onward_of_journey_of_ends hjourney hends limit hlimit)

/-- A run whose limit allows a journey goes on behind it with the steps that are left. -/
theorem run_withLimit_of_journey {task : Task} {entry last : Step} {world : σ}
    {visited : List Step} {final : Walk σ} (hentry : task.flow.entry? = some entry)
    (hjourney : Walk.Journey collaborators handlers task.flow entry (task.begin world) visited last
      final) {limit : Nat} (hlimit : visited.length ≤ limit) :
    (task.withLimit limit).run collaborators handlers world =
      let rest := Walk.onward collaborators handlers task.flow limit (limit - visited.length) last
        final
      (rest.2.outcome rest.1, rest.2.execution.world) := by
  have hentry' : (task.withLimit limit).flow.entry? = some entry := hentry
  have honward := Walk.onward_of_journey hjourney limit (limit - visited.length)
  rw [Nat.add_sub_cancel' hlimit] at honward
  exact run_eq_of_onward hentry' honward

/-- No run counts more steps than its limit allows. -/
theorem stepsExecuted_run_le (task : Task) (collaborators : Collaborators σ)
    (handlers : Handlers σ) (world : σ) :
    (task.run collaborators handlers world).1.result.stepsExecuted ≤ task.options.maxSteps := by
  cases hentry : task.flow.entry? with
  | none =>
    -- A flow without steps counts none.
    simp only [run, walk, hentry]
    split <;> exact Nat.zero_le _
  | some entry =>
    have hle : (Walk.onward collaborators handlers task.flow task.options.maxSteps
        task.options.maxSteps entry (task.begin world)).2.stepsTaken ≤
        0 + task.options.maxSteps :=
      Walk.stepsTaken_onward_le _ _ entry (task.begin world)
    rw [Nat.zero_add] at hle
    rw [run_eq_of_onward hentry rfl]
    exact hle

/-- The count at the end of a journey that starts where the flow is entered. -/
theorem stepsTaken_of_journey {task : Task} {entry last : Step} {world : σ} {visited : List Step}
    {final : Walk σ} (hjourney : Walk.Journey collaborators handlers task.flow entry
      (task.begin world) visited last final) : final.stepsTaken = visited.length := by
  rw [hjourney.stepsTaken]
  exact Nat.zero_add _

/-- The trace at the end of a journey that starts where the flow is entered. -/
theorem length_spans_of_journey {task : Task} {entry last : Step} {world : σ} {visited : List Step}
    {final : Walk σ} (hjourney : Walk.Journey collaborators .builtin task.flow entry
      (task.begin world) visited last final) :
    final.execution.context.spans.toList.length = visited.length := by
  obtain ⟨spans, hlength, hspans⟩ := hjourney.exists_spans
  rw [hspans, List.length_append, hlength]
  exact Nat.zero_add _

/-- A run whose limit allows a journey has its spans in front of its own. -/
theorem spans_eq_take_of_journey {task : Task} {entry last : Step} {world : σ}
    {visited : List Step} {final : Walk σ} (hentry : task.flow.entry? = some entry)
    (hjourney : Walk.Journey collaborators .builtin task.flow entry (task.begin world) visited last
      final) {limit : Nat} (hlimit : visited.length ≤ limit) :
    final.execution.context.spans.toList =
      ((task.withLimit limit).run collaborators .builtin world).1.result.spans.take
        visited.length := by
  obtain ⟨more, hmore⟩ : ∃ more, (Walk.onward collaborators .builtin task.flow limit
      (limit - visited.length) last final).2.execution.context.spans.toList =
      final.execution.context.spans.toList ++ more := Walk.exists_spans_onward _ _ last final
  rw [run_withLimit_of_journey hentry hjourney hlimit]
  simp only [Walk.outcome]
  rw [hmore, List.take_left' (length_spans_of_journey hjourney)]

/-- A run whose limit is beyond a journey counts more steps than those of the journey. -/
theorem lt_stepsExecuted_of_journey {task : Task} {entry last : Step} {world : σ}
    {visited : List Step} {final : Walk σ} (hentry : task.flow.entry? = some entry)
    (hjourney : Walk.Journey collaborators handlers task.flow entry (task.begin world) visited last
      final) {limit : Nat} (hlimit : visited.length < limit) :
    visited.length <
      ((task.withLimit limit).run collaborators handlers world).1.result.stepsExecuted := by
  obtain ⟨more, rfl⟩ := Nat.exists_eq_add_of_lt hlimit
  rw [run_withLimit_of_journey hentry hjourney (Nat.le_of_lt hlimit), Nat.add_assoc,
    Nat.add_sub_cancel_left, ← stepsTaken_of_journey hjourney]
  exact Walk.lt_stepsTaken_onward _ more last final

/-- **The limit only truncates.** Of two runs of a flow with steps that differ in their limits only,
the one under the higher limit is the same if the other ends by itself. If the other runs into its
limit `m`, it has called exactly `m` handlers, one at each step of a journey that starts where the
flow is entered, has counted `m` steps, and has left `m` spans, which are the first `m` of the run
under the higher limit; and that run counts more steps if its limit is higher indeed. No run
whatever counts more steps than its limit. -/
theorem limit_truncates (collaborators : Collaborators σ) (task : Task) (world : σ) {m m' : Nat}
    (hle : m ≤ m') (hflow : task.flow ≠ []) :
    let short := (task.withLimit m).run collaborators .builtin world
    let long := (task.withLimit m').run collaborators .builtin world
    ((∀ limit, short.1.error ≠ some (.maxStepsExceeded limit)) → long = short) ∧
    (∀ limit, short.1.error = some (.maxStepsExceeded limit) →
      (∃ entry visited last final, task.flow.entry? = some entry ∧
        Walk.Journey collaborators .builtin task.flow entry (task.begin world) visited last final ∧
        visited.length = m ∧
        short = (final.outcome (some (.maxStepsExceeded m)), final.execution.world)) ∧
      short.1.result.stepsExecuted = m ∧
      short.1.result.spans.length = m ∧
      short.1.result.spans = long.1.result.spans.take m ∧
      (m < m' → m < long.1.result.stepsExecuted)) ∧
    ∀ (handlers : Handlers σ) (other : Task) (world : σ),
      (other.run collaborators handlers world).1.result.stepsExecuted ≤
        other.options.maxSteps := by
  intro short long
  obtain ⟨entry, hentry⟩ := Flow.exists_entry? hflow
  have hentry' : (task.withLimit m).flow.entry? = some entry := hentry
  rw [← and_assoc]
  refine ⟨?_, fun handlers other world =>
    other.stepsExecuted_run_le collaborators handlers world⟩
  rcases Walk.onward_cases m m entry (task.begin world) with
    ⟨visited, last, final, hjourney, rfl, hrun⟩ |
    ⟨visited, last, final, error, after, hjourney, hlength, hends, -⟩
  · -- The limit cuts the run off, so the second statement is the one that applies.
    have hshort : short =
        (final.outcome (some (.maxStepsExceeded visited.length)), final.execution.world) :=
      run_eq_of_onward hentry' hrun
    refine ⟨fun herror => ?_, fun limit _ => ?_⟩
    · exact absurd (congrArg (fun run => run.1.error) hshort) (herror _)
    · refine ⟨⟨entry, visited, last, final, hentry, hjourney, rfl, hshort⟩, ?_⟩
      rw [hshort]
      exact ⟨stepsTaken_of_journey hjourney, length_spans_of_journey hjourney,
        spans_eq_take_of_journey hentry hjourney hle, lt_stepsExecuted_of_journey hentry hjourney⟩
  · -- The run ends by itself, and no run that does so blames the limit.
    have hshort : short = (after.outcome error, after.execution.world) :=
      run_withLimit_of_ends hentry hjourney hends hlength
    have hlong : long = (after.outcome error, after.execution.world) :=
      run_withLimit_of_ends hentry hjourney hends (Nat.lt_of_lt_of_le hlength hle)
    refine ⟨fun _ => by rw [hlong, hshort], fun limit herror => ?_⟩
    have herror' : error = some (.maxStepsExceeded limit) := by
      rw [hshort] at herror
      exact herror
    rw [herror'] at hends
    exact absurd rfl (hends.ne_maxStepsExceeded limit)

/-- From a start step to an output step, once with a limit of one step and once with one of five. -/
theorem limit_truncates_to_start :
    let task : Task :=
      { agent := {}
        flow :=
          [{ id := "in", kind := .start, connections := { next := some "out" } },
            { id := "out", kind := .output }]
        input := {}
        options := {} }
    let short := (task.withLimit 1).run Playback.scripted .builtin {}
    let long := (task.withLimit 5).run Playback.scripted .builtin {}
    short.1.error = some (.maxStepsExceeded 1) ∧ short.1.result.stepsExecuted = 1 ∧
      short.1.result.spans = long.1.result.spans.take 1 ∧ 1 < long.1.result.stepsExecuted := by
  intro task short long
  have herror : short.1.error = some (.maxStepsExceeded 1) := rfl
  obtain ⟨-, hcut, -⟩ := limit_truncates Playback.scripted task {} (show 1 ≤ 5 by decide)
    (List.cons_ne_nil _ _)
  obtain ⟨-, hcount, -, hspans, hmore⟩ := hcut 1 herror
  exact ⟨herror, hcount, hspans, hmore (by decide)⟩

end Task

end AgentFlow
