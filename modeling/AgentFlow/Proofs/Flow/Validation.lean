import AgentFlow.Execution.ToolStep
import AgentFlow.Proofs.Decode.Record
import AgentFlow.Proofs.Flow.Graph
import AgentFlow.Validation

/-!
# What validation promises

A flow without errors has a start step, every connection of it leads to a step, and its tool steps
name their tools. The last is checked on the settings as they are stored; here it is shown to agree
with what is read from them when the step is served.
-/

namespace AgentFlow

namespace Flow

/-- A flow is valid if its identifiers are unique, a start step is there, and no step leads astray
or has faulty settings. -/
theorem validate_valid_iff {flow : Flow} :
    flow.validate.valid = true ↔
      flow.duplicates [] = [] ∧ flow.start?.isSome = true ∧
        ∀ step ∈ flow, step.danglingTargets flow = [] ∧ step.settingErrors = [] := by
  simp only [ValidationReport.valid, validate, List.isEmpty_iff, List.append_eq_nil_iff,
    List.flatMap_eq_nil_iff, and_assoc]
  cases flow.start? with
  | none => simp
  | some start => simp

/-- In a valid flow every connection leads to a step. -/
theorem exists_step?_of_valid {flow : Flow} (hvalid : flow.validate.valid = true) {step : Step}
    (hstep : step ∈ flow) {id : String} (hid : id ∈ step.successors) :
    ∃ next, flow.step? id = some next := by
  obtain ⟨-, -, hsteps⟩ := validate_valid_iff.mp hvalid
  obtain ⟨⟨name, target⟩, hmem, rfl⟩ := List.mem_map.mp hid
  have hknown := List.filterMap_eq_nil_iff.mp (hsteps step hstep).1 (name, target) hmem
  dsimp only at hknown
  split at hknown
  · rename_i hany
    obtain ⟨other, hother, hsame⟩ := List.any_eq_true.mp hany
    obtain ⟨found, hfound⟩ := exists_step?_eq_some hother
    rw [of_decide_eq_true hsame] at hfound
    exact ⟨found, hfound⟩
  · cases hknown

/-- In a valid flow every tool step names its tool. -/
theorem configText?_toolName_of_valid {flow : Flow} (hvalid : flow.validate.valid = true)
    {step : Step} (hstep : step ∈ flow) (hkind : step.kind = .tool) :
    ∃ name, step.configText? "toolName" = some name := by
  obtain ⟨-, -, hsteps⟩ := validate_valid_iff.mp hvalid
  have hsetting := (hsteps step hstep).2
  rw [Step.settingErrors, hkind] at hsetting
  cases hname : step.configText? "toolName" with
  | none =>
    rw [hname] at hsetting
    cases hsetting
  | some name => exact ⟨name, rfl⟩

/-- A valid flow has steps. -/
theorem ne_nil_of_valid {flow : Flow} (hvalid : flow.validate.valid = true) : flow ≠ [] := by
  rintro rfl
  cases hvalid

end Flow

namespace Step

/-- Settings that can be read have a field's type in each entry. -/
theorem build_of_readConfig {α : Type} {step : Step} {type : RecordType}
    {build : (String → Slot) → Checked α} {config : α}
    (h : step.readConfig (type.read build) = .ok config) :
    build (type.slotOf Conventions.json.inner step.config) = .ok config := by
  unfold readConfig at h
  cases hread : type.read build .json (.value (.object step.config)) with
  | error cause =>
    rw [hread] at h
    cases h
  | ok read =>
    rw [hread] at h
    cases h
    exact RecordType.build_of_read_object hread

/-- The name of the tool is what stands in the settings under `toolName`, if that is a text. -/
theorem toolName_of_readConfig {step : Step} {config : ToolConfig}
    (h : step.readConfig ToolConfig.read = .ok config) :
    config.toolName = (step.config.get? "toolName").bind Json.text? := by
  -- The name is the first of five fields, so the other four are taken off first.
  obtain ⟨_, outputVariable, hfour, -, hconfig⟩ := Checked.seq_eq_ok.mp (build_of_readConfig h)
  obtain ⟨_, inputMapping, hthree, -, rfl⟩ := Checked.seq_eq_ok.mp hfour
  obtain ⟨_, parameters, htwo, -, rfl⟩ := Checked.seq_eq_ok.mp hthree
  obtain ⟨_, args, hone, -, rfl⟩ := Checked.seq_eq_ok.mp htwo
  obtain ⟨toolName, hfield, rfl⟩ := Checked.map_eq_ok.mp hone
  rw [← hconfig]
  exact RecordType.eq_of_optional_text hfield

/-- The check of a tool's name looks at what a handler reads. -/
theorem nonBlank?_toolName_of_readConfig {step : Step} {config : ToolConfig}
    (h : step.readConfig ToolConfig.read = .ok config) :
    nonBlank? config.toolName = step.configText? "toolName" := by
  rw [toolName_of_readConfig h]
  rfl

end Step

end AgentFlow
