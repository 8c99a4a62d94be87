import AgentFlow.Flow.Graph

/-!
# Looking up steps

An identifier means a step of the flow that has it, and means one as soon as there is such a step.
-/

namespace AgentFlow

/-- The steps that follow one are those that its four connections lead to. -/
theorem Step.mem_successors_iff {step : Step} {id : String} :
    id ∈ step.successors ↔
      step.connections.next = some id ∨ step.connections.onTrue = some id ∨
        step.connections.onFalse = some id ∨ step.connections.onError = some id := by
  simp [successors, Connections.targets, exists_or]

namespace Flow

/-- The step that an identifier leads to is in the flow and has it. -/
theorem mem_of_step?_eq_some {flow : Flow} {id : String} {step : Step}
    (h : flow.step? id = some step) : step ∈ flow ∧ step.id = id := by
  induction flow with
  | nil => cases h
  | cons first rest ih =>
    rw [step?] at h
    cases hrest : step? id rest with
    | some later =>
      rw [hrest, Option.some_or, Option.some.injEq] at h
      subst h
      obtain ⟨hmem, hid⟩ := ih hrest
      exact ⟨List.mem_cons_of_mem _ hmem, hid⟩
    | none =>
      rw [hrest, Option.none_or, Option.ite_none_right_eq_some, Option.some.injEq] at h
      obtain ⟨hid, rfl⟩ := h
      exact ⟨List.mem_cons_self, hid⟩

/-- Every step is found under its identifier, or another one that has it. -/
theorem exists_step?_eq_some {flow : Flow} {step : Step} (h : step ∈ flow) :
    ∃ found, flow.step? step.id = some found := by
  induction flow with
  | nil => cases h
  | cons first rest ih =>
    rw [step?]
    cases hrest : step? step.id rest with
    | some later => exact ⟨later, Option.some_or⟩
    | none =>
      rcases List.mem_cons.mp h with rfl | hmem
      · exact ⟨step, by rw [if_pos rfl, Option.none_or]⟩
      · obtain ⟨found, hfound⟩ := ih hmem
        rw [hrest] at hfound
        cases hfound

/-- A flow is entered at one of its steps. -/
theorem mem_of_entry?_eq_some {flow : Flow} {step : Step} (h : flow.entry? = some step) :
    step ∈ flow := by
  unfold entry? at h
  rw [Option.or_eq_some_iff] at h
  rcases h with hstart | ⟨-, hhead⟩
  · exact List.mem_of_find?_eq_some hstart
  · exact List.mem_of_mem_head? hhead

/-- A flow is entered at its first start step, or at its first step if it has none. -/
theorem entry?_eq_some_iff {flow : Flow} {step : Step} :
    flow.entry? = some step ↔
      flow.find? (fun other => other.kind = .start) = some step ∨
        (∀ other ∈ flow, other.kind ≠ .start) ∧ flow.head? = some step := by
  unfold entry?
  rw [Option.or_eq_some_iff, start?, List.find?_eq_none]
  simp only [decide_eq_true_eq, ne_eq]

/-- A flow with steps has one to enter at. -/
theorem exists_entry? {flow : Flow} (h : flow ≠ []) : ∃ entry, flow.entry? = some entry := by
  cases flow with
  | nil => exact absurd rfl h
  | cons step rest =>
    unfold entry?
    cases start? (step :: rest) with
    | none => exact ⟨step, rfl⟩
    | some start => exact ⟨start, rfl⟩

/-- Only the empty flow is entered nowhere. -/
theorem eq_nil_of_entry?_eq_none {flow : Flow} (h : flow.entry? = none) : flow = [] := by
  cases flow with
  | nil => rfl
  | cons step rest =>
    obtain ⟨entry, hentry⟩ := exists_entry? (List.cons_ne_nil step rest)
    cases h.symm.trans hentry

theorem entry?_of_eq_nil {flow : Flow} (h : flow = []) : flow.entry? = none := by
  rw [h]
  rfl

end Flow

end AgentFlow
