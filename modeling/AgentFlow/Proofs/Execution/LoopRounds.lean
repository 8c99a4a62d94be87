import AgentFlow.Execution.Playback
import AgentFlow.Proofs.Execution.Event

/-!
# The rounds of a loop

A loop that is reached goes into its body, again and again, as many times as was settled when it was
reached first, and then on behind it. Whatever happens in between has no say in that: the state of a
loop is its own, and nothing but a visit of the loop changes it.

A loop is known by its identifier. Whichever step is served as a loop under an identifier visits the
loop of that identifier.
-/

namespace AgentFlow

namespace LoopConfig

/-- What a loop goes through if it is reached with these variables; nothing if it counts. A path
that leads to no list leads to no items. -/
def items? (config : LoopConfig) (vars : Variables) : Option (List Json) :=
  config.itemsVariable.map fun path => ((vars.path? path).bind Json.items?).getD []

/-- How often a loop goes into its body if it is reached with these variables. -/
def rounds (config : LoopConfig) (vars : Variables) : Nat :=
  match config.items? vars with
  | none => config.maxIterations.getD 10
  | some items => items.length

/-- The variable that holds the item. -/
def itemName (config : LoopConfig) : String :=
  config.itemVariable.getD "item"

/-- The state of a loop in front of round `k`, by what was settled when it was reached. -/
def stateAt (config : LoopConfig) (reachedWith : Variables) (k : Nat) : LoopState where
  index := k
  max := config.rounds reachedWith
  items := config.items? reachedWith
  itemVariable := (config.items? reachedWith).map fun _ => config.itemName

/-- The variables in round `k`. The item is set last, so that it wins over the index. -/
def varsOfRound (config : LoopConfig) (reachedWith : Variables) (k : Nat) (vars : Variables) :
    Variables :=
  match (config.items? reachedWith).bind fun items => items[k]? with
  | none => vars.insert "loopIndex" (.ofNat k)
  | some item => (vars.insert "loopIndex" (.ofNat k)).insert config.itemName item

/-- A loop starts in front of its first round. -/
theorem initialState_eq (config : LoopConfig) (vars : Variables) :
    config.initialState vars = config.stateAt vars 0 := by
  unfold initialState stateAt rounds items?
  cases config.itemsVariable with
  | none => rfl
  | some path => rfl

/-- A loop is exhausted when its rounds are over. -/
theorem isExhausted_stateAt {config : LoopConfig} {vars : Variables} {k : Nat} :
    (config.stateAt vars k).isExhausted = true ↔ config.rounds vars ≤ k :=
  decide_eq_true_iff

end LoopConfig

namespace Context

/-- A round sets its index, and its item if there is a name for it. -/
theorem vars_enterLoop_stateAt (id : String) (config : LoopConfig) (reachedWith : Variables)
    (k : Nat) (context : Context) :
    (context.enterLoop id (config.stateAt reachedWith k)).vars =
      config.varsOfRound reachedWith k context.vars := by
  unfold enterLoop LoopConfig.varsOfRound LoopConfig.stateAt LoopState.currentItem?
  cases config.items? reachedWith with
  | none => rfl
  | some items =>
    dsimp only [Option.map_some, Option.bind_some]
    cases items[k]? with
    | none => rfl
    | some item => rfl

/-- A round moves the index of its loop on. -/
theorem loops_enterLoop (id : String) (state : LoopState) (context : Context) :
    (context.enterLoop id state).loops =
      context.loops.insert id { state with index := state.index + 1 } := by
  unfold enterLoop
  split <;> rfl

/-- A result touches no loop. -/
theorem loops_storeResult (outputVariable : Option String) (result : ToolResult)
    (context : Context) : (context.storeResult outputVariable result).loops = context.loops := by
  unfold storeResult
  split
  · split <;> rfl
  · rfl

end Context

/-! ## Who touches the state of a loop -/

/-- What a visit makes of the states of loops: it removes the state of its loop if that has been
through all its rounds, and raises it to the next round otherwise. -/
inductive LoopConfig.Advances (config : LoopConfig) (id : String) (before : Context) :
    Fields LoopState → Prop where
  | exhausted (h : (before.loopState id config).isExhausted = true) :
    Advances config id before (before.loops.erase id)
  | entered (h : (before.loopState id config).isExhausted = false) :
    Advances config id before
      (before.loops.insert id
        { before.loopState id config with index := (before.loopState id config).index + 1 })

/-- While rounds are left, a visit moves the index on. -/
theorem LoopConfig.Advances.get?_of_not_isExhausted {config : LoopConfig} {id : String}
    {before : Context} {loops : Fields LoopState} (h : config.Advances id before loops)
    (hleft : (before.loopState id config).isExhausted = false) :
    loops.get? id =
      some { before.loopState id config with index := (before.loopState id config).index + 1 } := by
  cases h with
  | exhausted hdone =>
    rw [hleft] at hdone
    cases hdone
  | entered => exact Fields.get?_insert_self _ _ _

/-- Entering the body is a visit while rounds are left. -/
theorem Context.advances_enterLoop {config : LoopConfig} {id : String} {context : Context}
    (h : (context.loopState id config).isExhausted = false) :
    config.Advances id context (context.enterLoop id (context.loopState id config)).loops := by
  rw [loops_enterLoop]
  exact .entered h

namespace Execution

variable {σ : Type} {collaborators : Collaborators σ}

/-- A report touches no loop. -/
theorem loops_reportError (step : Step) (text : String) (execution : Execution σ) :
    (execution.reportError step text).context.loops = execution.context.loops := by
  unfold reportError
  split <;> rfl

/-- Recording a call touches no loop. -/
theorem loops_traceCall (step : Step) (request : ToolRequest) (outcome : ToolOutcome)
    (execution : Execution σ) :
    (execution.traceCall collaborators step request outcome).context.loops =
      execution.context.loops := by
  unfold traceCall
  split <;> rfl

end Execution

namespace Handler

variable {σ : Type} {collaborators : Collaborators σ} {step : Step} {execution : Execution σ}

/-- Serving a step changes the states of loops only if the step is a loop. -/
theorem Served.loops_cases {outcome : Except FlowError StepResult × Execution σ}
    (h : Served collaborators step execution outcome) :
    outcome.2.context.loops = execution.context.loops ∨
      ∃ config, step.kind = .loop ∧ step.readConfig LoopConfig.read = .ok config ∧
        config.Advances step.id execution.context outcome.2.context.loops := by
  cases h with
  | refused => exact .inl rfl
  | unnamed => exact .inl rfl
  | started => exact .inl rfl
  | @answered config generation after _ _ hask =>
    have hloops : after.context.loops = execution.context.loops := by
      rw [Execution.context_of_generate hask]
    exact .inl hloops
  | @unanswered config message after _ _ hask =>
    have hloops : after.context.loops = execution.context.loops := by
      rw [Execution.context_of_generate hask]
    exact .inl ((Execution.loops_reportError _ _ _).trans hloops)
  | called _ _ _ hcall =>
    have hcontext := Execution.context_of_callTool hcall
    refine .inl ?_
    rw [Execution.loops_traceCall, Execution.modify, Context.loops_storeResult, hcontext]
  | calledInVain _ _ _ hcall =>
    have hcontext := Execution.context_of_callTool hcall
    refine .inl ?_
    rw [Execution.loops_traceCall, Execution.modify, Context.loops_storeResult, hcontext]
  | decided => exact .inl rfl
  | undecided => exact .inl rfl
  | @entered config hkind hconfig hleft =>
    exact .inr ⟨config, hkind, hconfig, Context.advances_enterLoop hleft⟩
  | @exhausted config hkind hconfig hdone => exact .inr ⟨config, hkind, hconfig, .exhausted hdone⟩
  | concluded => exact .inl rfl

/-- The handler of loop steps makes a visit of the loop. -/
theorem advances_loop (collaborators : Collaborators σ) (execution : Execution σ)
    {config : LoopConfig} (hconfig : step.readConfig LoopConfig.read = .ok config) :
    config.Advances step.id execution.context
      (loop collaborators step execution).2.context.loops := by
  cases hdone : (execution.context.loopState step.id config).isExhausted with
  | true =>
    rw [loop_of_isExhausted hconfig hdone]
    exact .exhausted hdone
  | false =>
    rw [loop_of_not_isExhausted hconfig hdone]
    exact Context.advances_enterLoop hdone

end Handler

namespace Event

variable {σ : Type} {collaborators : Collaborators σ} {execution : Execution σ} {id : String}

/-- An event visits a loop if a step is served as a loop under its identifier, with settings that
can be read. -/
def visits (id : String) : Event → Bool
  | serve step => step.kind = .loop && step.id = id && (step.readConfig LoopConfig.read).isOk
  | catchError _ _ => false
  | assign _ => false

/-- Serving a loop step that can be read visits its loop. -/
theorem visits_serve {step : Step} {config : LoopConfig} (hkind : step.kind = .loop)
    (hconfig : step.readConfig LoopConfig.read = .ok config) :
    (serve step).visits step.id = true := by
  simp [visits, hkind, hconfig, Except.isOk, Except.toBool]

/-- Only a loop step visits a loop, and its settings say how. -/
theorem exists_config_of_visits {event : Event} (h : event.visits id = true) :
    ∃ step config, event = serve step ∧ step.kind = .loop ∧ step.id = id ∧
      step.readConfig LoopConfig.read = .ok config := by
  cases event with
  | assign vars => cases h
  | catchError step error => cases h
  | serve step =>
    simp only [visits, Bool.and_eq_true, decide_eq_true_eq] at h
    obtain ⟨⟨hkind, hid⟩, hok⟩ := h
    cases hconfig : step.readConfig LoopConfig.read with
    | error error =>
      rw [hconfig] at hok
      cases hok
    | ok config => exact ⟨step, config, rfl, hkind, hid, hconfig⟩

/-- An event that visits a loop advances it. -/
theorem exists_advances_of_visits (collaborators : Collaborators σ) (execution : Execution σ)
    {event : Event} (h : event.visits id = true) :
    ∃ config : LoopConfig, config.Advances id execution.context
      (event.perform collaborators execution).context.loops := by
  obtain ⟨step, config, rfl, hkind, rfl, hconfig⟩ := exists_config_of_visits h
  refine ⟨config, ?_⟩
  rw [perform, hkind]
  exact Handler.advances_loop collaborators execution hconfig

/-- An event leaves the states of loops alone unless it visits one. -/
theorem loops_perform_cases (collaborators : Collaborators σ) (execution : Execution σ)
    (event : Event) :
    (event.perform collaborators execution).context.loops = execution.context.loops ∨
      ∃ (id : String) (config : LoopConfig), event.visits id = true ∧
        config.Advances id execution.context
          (event.perform collaborators execution).context.loops := by
  cases event with
  | assign vars => exact .inl rfl
  | catchError step error =>
    refine .inl ?_
    rw [perform, Walk.catchError_snd, Execution.loops_reportError]
    rfl
  | serve step =>
    rcases perform_serve_cases collaborators execution step with
      ⟨-, hperform⟩ | ⟨outcome, hserved, hperform⟩
    · exact .inl (by rw [hperform])
    · rw [hperform]
      rcases hserved.loops_cases with hloops | ⟨config, hkind, hconfig, hadvances⟩
      · exact .inl hloops
      · exact .inr ⟨step.id, config, visits_serve hkind hconfig, hadvances⟩

/-- No event but a visit touches the state of a loop. -/
theorem get?_loops_of_not_visits {event : Event} (h : event.visits id = false) :
    (event.perform collaborators execution).context.loops.get? id =
      execution.context.loops.get? id := by
  rcases loops_perform_cases collaborators execution event with
    hloops | ⟨other, config, hvisits, hadvances⟩
  · rw [hloops]
  · -- Another loop has been visited, and its state is under another key.
    have hne : id ≠ other := by
      rintro rfl
      rw [hvisits] at h
      cases h
    generalize (event.perform collaborators execution).context.loops = loops at hadvances ⊢
    cases hadvances with
    | exhausted => exact Fields.get?_erase_of_ne hne _
    | entered => exact Fields.get?_insert_of_ne hne _ _

/-- A visit with rounds left counts one round, by the state that the loop is in. -/
theorem get?_loops_of_visits {event : Event} {state : LoopState} (h : event.visits id = true)
    (hstate : execution.context.loops.get? id = some state) (hleft : state.isExhausted = false) :
    (event.perform collaborators execution).context.loops.get? id =
      some { state with index := state.index + 1 } := by
  obtain ⟨config, hadvances⟩ :=
    exists_advances_of_visits collaborators execution h
  have hloopState : execution.context.loopState id config = state := by
    rw [Context.loopState, hstate, Option.getD_some]
  rw [hadvances.get?_of_not_isExhausted (hloopState ▸ hleft), hloopState]

end Event

/-! ## Rounds -/

/-- No loop has been entered more often than it may be. -/
def Context.LoopsBounded (context : Context) : Prop :=
  ∀ entry ∈ context.loops, entry.2.index ≤ entry.2.max

namespace Execution

variable {σ : Type} {collaborators : Collaborators σ}

/-- Without visits a loop stays as it is, by induction on the events. -/
theorem get?_loops_perform_of_not_visits {id : String} {events : List Event}
    (h : ∀ event ∈ events, event.visits id = false) (execution : Execution σ) :
    (execution.perform collaborators events).context.loops.get? id =
      execution.context.loops.get? id := by
  induction events generalizing execution with
  | nil => rfl
  | cons event rest ih =>
    obtain ⟨hevent, hrest⟩ := List.forall_mem_cons.mp h
    calc ((event.perform collaborators execution).perform collaborators rest).context.loops.get? id
        = (event.perform collaborators execution).context.loops.get? id := ih hrest _
      _ = execution.context.loops.get? id := Event.get?_loops_of_not_visits hevent

/-- As long as there are rounds left, a loop that has been entered counts its visits. -/
theorem get?_loops_perform (collaborators : Collaborators σ) {id : String} {config : LoopConfig}
    {reachedWith : Variables} {events : List Event} {execution : Execution σ} {k : Nat}
    (hstate : execution.context.loops.get? id = some (config.stateAt reachedWith k))
    (hrounds : k + events.countP (Event.visits id) ≤ config.rounds reachedWith) :
    (execution.perform collaborators events).context.loops.get? id =
      some (config.stateAt reachedWith (k + events.countP (Event.visits id))) := by
  -- `k` rounds have begun before the events; each visit among them moves one over.
  induction events generalizing execution k with
  | nil => exact hstate
  | cons event rest ih =>
    cases hvisits : event.visits id with
    | false =>
      rw [List.countP_cons_of_neg (by rw [hvisits]; decide)] at hrounds ⊢
      exact ih ((Event.get?_loops_of_not_visits hvisits).trans hstate) hrounds
    | true =>
      rw [List.countP_cons_of_pos hvisits, Nat.add_comm _ 1, ← Nat.add_assoc] at hrounds ⊢
      have hleft : (config.stateAt reachedWith k).isExhausted = false := by
        rw [← Bool.not_eq_true, LoopConfig.isExhausted_stateAt]
        omega
      exact ih (Event.get?_loops_of_visits hvisits hstate hleft) hrounds

/-- From its first visit on, the state of a loop is known by the number of visits, while these are
no more than its rounds. -/
theorem loopState_perform {loop : Step} {config : LoopConfig} {start : Execution σ}
    {events : List Event} (hkind : loop.kind = .loop)
    (hconfig : loop.readConfig LoopConfig.read = .ok config)
    (hfresh : start.context.loops.get? loop.id = none)
    (hfirst : ∀ event ∈ events.head?, event = .serve loop)
    (hrounds : events.countP (Event.visits loop.id) ≤ config.rounds start.context.vars) :
    (start.perform collaborators events).context.loopState loop.id config =
      config.stateAt start.context.vars (events.countP (Event.visits loop.id)) := by
  have hinitial : start.context.loopState loop.id config = config.stateAt start.context.vars 0 := by
    rw [Context.loopState, hfresh, Option.getD_none, LoopConfig.initialState_eq]
  cases events with
  | nil => exact hinitial
  | cons event rest =>
    -- The first visit makes the state out of the variables; the others only count.
    obtain rfl := hfirst event rfl
    rw [List.countP_cons_of_pos (Event.visits_serve hkind hconfig), Nat.add_comm _ 1]
      at hrounds ⊢
    have hleft : (start.context.loopState loop.id config).isExhausted = false := by
      rw [hinitial, ← Bool.not_eq_true, LoopConfig.isExhausted_stateAt]
      omega
    have hentered : ((Event.serve loop).perform collaborators start).context.loops.get? loop.id =
        some (config.stateAt start.context.vars 1) := by
      have hadvances := Handler.advances_loop collaborators start hconfig
      simp only [Event.perform, hkind, Handlers.builtin]
      rw [hadvances.get?_of_not_isExhausted hleft, hinitial]
      rfl
    have hafter := get?_loops_perform collaborators hentered hrounds
    exact congrArg (Option.getD · _) hafter

/-! ## No loop is entered too often -/

/-- A visit keeps the indices within their rounds. -/
theorem loopsBounded_of_advances {config : LoopConfig} {id : String} {before after : Context}
    (h : before.LoopsBounded) (hadvances : config.Advances id before after.loops) :
    after.LoopsBounded := by
  unfold Context.LoopsBounded
  generalize after.loops = loops at hadvances
  cases hadvances with
  | exhausted => exact fun entry hentry => h entry ((List.mem_filter.mp hentry).1)
  | entered hleft =>
    intro entry hentry
    rcases Fields.eq_or_mem_of_mem_insert hentry with rfl | hentry
    · have hlt := of_decide_eq_false hleft
      dsimp only
      omega
    · exact h entry hentry

/-- Indices stay within their rounds, by induction on the events. -/
theorem loopsBounded_perform {execution : Execution σ} (h : execution.context.LoopsBounded)
    (events : List Event) : (execution.perform collaborators events).context.LoopsBounded := by
  induction events generalizing execution with
  | nil => exact h
  | cons event rest ih =>
    refine ih ?_
    rcases Event.loops_perform_cases collaborators execution event with
      hloops | ⟨id, config, -, hadvances⟩
    · exact fun entry hentry => h entry (hloops ▸ hentry)
    · exact loopsBounded_of_advances h hadvances

/-- A loop is entered as often as was settled when it was reached, whatever happens between its
visits (`events`, of which the first visit is the first). Each round sets the index and, if the loop
goes through a list, the item of that round in the list as it was when the loop was reached. The
visit after the last round sets nothing and forgets the loop, which then begins afresh.

The states that a run reaches are among those that events lead to, and in none of them has a loop
been entered more often than it may be. -/
theorem loop_rounds (collaborators : Collaborators σ) {loop : Step} {config : LoopConfig}
    (hkind : loop.kind = .loop) (hconfig : loop.readConfig LoopConfig.read = .ok config)
    {start : Execution σ} (hfresh : start.context.loops.get? loop.id = none)
    (events : List Event) (hfirst : ∀ event ∈ events.head?, event = .serve loop) :
    let visit := events.countP (Event.visits loop.id)
    let rounds := config.rounds start.context.vars
    let now := start.perform collaborators events
    let outcome := Handler.loop collaborators loop now
    (visit < rounds →
      outcome.1 = .ok (.ok (loop.connections.onTrue.or loop.connections.next)) ∧
        outcome.2.context.vars =
          config.varsOfRound start.context.vars visit now.context.vars) ∧
    (visit = rounds →
      outcome.1 = .ok (.ok (loop.connections.onFalse.or loop.connections.next)) ∧
        outcome.2.context.vars = now.context.vars ∧
        ∀ later : List Event, (∀ event ∈ later, event.visits loop.id = false) →
          (outcome.2.perform collaborators later).context.loops.get? loop.id = none) ∧
    ∀ (task : Task) (world : σ),
      (∀ reached ∈ task.itinerary collaborators .builtin world, ∃ events,
        reached.2.execution = (task.begin world).execution.perform collaborators events) ∧
      ∀ events,
        ((task.begin world).execution.perform collaborators events).context.LoopsBounded := by
  intro visit rounds now outcome
  have hstate (hle : visit ≤ rounds) :
      now.context.loopState loop.id config = config.stateAt start.context.vars visit :=
    loopState_perform hkind hconfig hfresh hfirst hle
  refine ⟨fun hlt => ?_, fun heq => ?_, fun task world => ⟨?_, fun events => ?_⟩⟩
  · have hleft : (now.context.loopState loop.id config).isExhausted = false := by
      rw [hstate hlt.le, ← Bool.not_eq_true, LoopConfig.isExhausted_stateAt]
      omega
    have houtcome : outcome = _ := Handler.loop_of_not_isExhausted hconfig hleft
    rw [houtcome]
    refine ⟨rfl, ?_⟩
    rw [hstate hlt.le]
    exact Context.vars_enterLoop_stateAt loop.id config start.context.vars visit now.context
  · have hdone : (now.context.loopState loop.id config).isExhausted = true := by
      rw [hstate heq.le, LoopConfig.isExhausted_stateAt]
      omega
    have houtcome : outcome = _ := Handler.loop_of_isExhausted hconfig hdone
    rw [houtcome]
    refine ⟨rfl, rfl, fun later hlater => ?_⟩
    rw [get?_loops_perform_of_not_visits hlater]
    exact Fields.get?_erase_self _ _
  · exact task.exists_events collaborators world
  · exact loopsBounded_perform (fun _ hentry => absurd hentry List.not_mem_nil) events

/-- The items stay what they were although the variables are emptied and another loop is reached in
between, and an item that is to be put where the index is wins over the index. -/
theorem loop_rounds_item_over_index :
    let loop : Step :=
      { id := "each", kind := .loop
        config := [("itemVariable", .string "loopIndex"), ("itemsVariable", .string "list.items")]
        connections := { next := some "out", onTrue := some "body" } }
    let other : Step := { id := "other", kind := .loop }
    let start : Execution Playback :=
      (⟨.initial {} {} {}, {}⟩ : Execution Playback).modify
        (Context.set "list" (.object [("items", .array [.string "a", .string "b"])]))
    let events : List Event := [.serve loop, .assign [], .serve other]
    let now := start.perform Playback.scripted events
    let outcome := Handler.loop Playback.scripted loop now
    let config : LoopConfig := ⟨none, some "list.items", some "loopIndex"⟩
    loop.readConfig LoopConfig.read = .ok config ∧ start.context.loops.get? loop.id = none ∧
      events.countP (Event.visits loop.id) = 1 ∧ config.rounds start.context.vars = 2 ∧
      now.context.vars = [("loopIndex", .ofNat 0)] ∧
      outcome.1 = .ok (.ok (some "body")) ∧
      outcome.2.context.vars = [("loopIndex", .string "b")] := by
  intro loop other start events now outcome config
  have hconfig : loop.readConfig LoopConfig.read = .ok config := rfl
  have hvisit : events.countP (Event.visits loop.id) = 1 := rfl
  have hrounds : config.rounds start.context.vars = 2 := rfl
  have hfirst : ∀ event ∈ events.head?, event = .serve loop := fun event hevent =>
    (Option.some.inj hevent).symm
  obtain ⟨hround, -, -⟩ :=
    @loop_rounds _ Playback.scripted loop config rfl hconfig start rfl events hfirst
  obtain ⟨hnext, hvars⟩ := hround (by rw [hvisit, hrounds]; decide)
  have hindex : now.context.vars = [("loopIndex", .ofNat 0)] := rfl
  have hbody : loop.connections.onTrue.or loop.connections.next = some "body" := rfl
  have hitem : config.varsOfRound start.context.vars 1 [("loopIndex", .ofNat 0)] =
    [("loopIndex", .string "b")] := rfl
  rw [hbody] at hnext
  rw [hvisit, hindex, hitem] at hvars
  refine ⟨hconfig, rfl, hvisit, hrounds, hindex, ?_⟩
  dsimp only [outcome, now]
  exact ⟨hnext, hvars⟩

end Execution

end AgentFlow
