import AgentFlow.Flow.File
import AgentFlow.Proofs.Decode.Written

/-!
# Flow documents read back

A flow document that is written as a value is read back as it was, and this comes down to the kinds
of its steps. A kind is written as its name, so a kind that is not built in but has the name of one
that is (`StepKind.IsDisguised`) comes back as the one that is built in. Nothing else can be lost:
connections that are absent are left out, and what a step is configured with is kept as it is.

Documents that are loaded have no kinds in disguise, because a kind is always read from its name.
-/

namespace AgentFlow

/-! ## Kinds -/

namespace StepKind

/-- A kind that is not built in, with the name of one that is. -/
def IsDisguised (kind : StepKind) : Prop :=
  ∃ builtin ∈ builtins, kind = .other builtin.name

instance (kind : StepKind) : Decidable kind.IsDisguised :=
  inferInstanceAs (Decidable (∃ builtin ∈ builtins, kind = .other builtin.name))

/-- A name gives its kind back, unless the kind is disguised. -/
theorem ofName_name_iff (kind : StepKind) : ofName kind.name = kind ↔ ¬ kind.IsDisguised := by
  cases kind with
  | start | prompt | tool | condition | loop | output => decide
  | other name =>
    have hname : (other name).name = name := rfl
    rw [hname, ofName]
    cases hfound : builtins.find? fun kind => kind.name = name with
    | none =>
      refine iff_of_true rfl ?_
      rintro ⟨builtin, hmem, hother⟩
      have hne := List.find?_eq_none.mp hfound builtin hmem
      exact hne (decide_eq_true (StepKind.other.inj hother).symm)
    | some builtin =>
      have hmem : builtin ∈ builtins := List.mem_of_find?_eq_some hfound
      have hbuiltin : builtin.name = name := by simpa using List.find?_some hfound
      refine iff_of_false ?_ (not_not_intro ⟨builtin, hmem, by rw [hbuiltin]⟩)
      rintro (rfl : builtin = other name)
      exact absurd hmem (by simp [builtins])

/-- A kind that is read from a name is not disguised. -/
theorem not_isDisguised_ofName (name : String) : ¬ (ofName name).IsDisguised :=
  (ofName_name_iff _).mp (congrArg ofName (name_ofName name))

/-- The name of a kind is read as the kind of this name. -/
theorem reads_name (kind : StepKind) : read.Reads (.string kind.name) (ofName kind.name) :=
  fun _ => rfl

end StepKind

/-! ## Steps -/

/-- Connections come back as they were written. -/
theorem Connections.reads_toJson (connections : Connections) :
    Connections.read.Reads connections.toJson connections := by
  cases connections with
  | mk next onTrue onFalse onError =>
    refine RecordType.reads_ofEntries fun conventions => ?_
    refine Checked.seq_ok_of ?_ (RecordType.optional_of_get? Decode.reads_optional_text (by simp))
    refine Checked.seq_ok_of ?_ (RecordType.optional_of_get? Decode.reads_optional_text (by simp))
    refine Checked.seq_ok_of ?_ (RecordType.optional_of_get? Decode.reads_optional_text (by simp))
    exact Checked.map_ok_of (RecordType.optional_of_get? Decode.reads_optional_text (by simp))

namespace Step

/-- The step with the kind that goes by the name of its kind. -/
def undisguised (step : Step) : Step :=
  { step with kind := .ofName step.kind.name }

/-- A step is undisguised exactly if its kind is not disguised. -/
theorem undisguised_eq_iff (step : Step) : step.undisguised = step ↔ ¬ step.kind.IsDisguised := by
  rw [← StepKind.ofName_name_iff]
  exact ⟨fun h => congrArg Step.kind h, fun h => by rw [undisguised, h]⟩

/-- A step comes back undisguised, and otherwise as it was written. -/
theorem reads_toJson (step : Step) : Step.read.Reads step.toJson step.undisguised := by
  refine RecordType.reads_ofEntries fun conventions => ?_
  refine Checked.seq_ok_of ?_
    (RecordType.withDefault_of_get? step.connections.reads_toJson (by simp))
  refine Checked.seq_ok_of ?_
    (RecordType.withDefault_of_get? (Decode.reads_map step.config) (by simp))
  refine Checked.seq_ok_of ?_
    (RecordType.withDefault_of_get? (Decode.reads_text step.name) (by simp))
  refine Checked.seq_ok_of ?_ (RecordType.required_of_get? step.kind.reads_name (by simp))
  exact Checked.map_ok_of (RecordType.required_of_get? (Decode.reads_text step.id) (by simp))

/-- The kind of a step that can be read was read from its name. -/
theorem not_isDisguised_of_yields {step : Step} (h : Step.read.Yields step) :
    ¬ step.kind.IsDisguised := by
  obtain ⟨field, hfields⟩ := RecordType.exists_slots_of_yields h
  obtain ⟨_, connections, htoConfig, -, rfl⟩ := Checked.seq_eq_ok.mp hfields
  obtain ⟨_, config, htoName, -, rfl⟩ := Checked.seq_eq_ok.mp htoConfig
  obtain ⟨_, name, htoKind, -, rfl⟩ := Checked.seq_eq_ok.mp htoName
  obtain ⟨_, kind, hid, hkind, rfl⟩ := Checked.seq_eq_ok.mp htoKind
  obtain ⟨id, -, rfl⟩ := Checked.map_eq_ok.mp hid
  obtain ⟨conventions, node, hkind⟩ := Slot.yields_of_required hkind
  obtain ⟨kindName, -, rfl⟩ := map_eq_ok.mp hkind
  exact StepKind.not_isDisguised_ofName kindName

end Step

/-! ## Documents -/

/-- A single is read back if its shortest decimal, as a double, is nearest to it. -/
theorem reads_ofSingle {x : Float32} (hfinite : x.isFinite = true)
    (hdouble : (shortestDouble x).isFinite = true) (h : singleOf (shortestDouble x) = x) :
    Decode.single.Reads (.ofSingle x) x := by
  intro conventions
  rw [Json.ofSingle, if_pos hfinite, Json.ofFloat, if_pos hdouble]
  exact congrArg Except.ok h

/-- The settings of an agent come back as they were written, if the temperature does. -/
theorem AgentConfig.reads_toJson {agent : AgentConfig}
    (htemperature : Decode.single.Reads (.ofSingle agent.temperature) agent.temperature) :
    AgentConfig.read.Reads agent.toJson agent := by
  cases agent with
  | mk systemPrompt temperature maxTokens model =>
    refine RecordType.reads_ofEntries fun conventions => ?_
    refine Checked.seq_ok_of ?_ (RecordType.withDefault_of_get? (Decode.reads_text model) (by simp))
    refine Checked.seq_ok_of ?_
      (RecordType.withDefault_of_get? (Decode.reads_count32 maxTokens) (by simp))
    refine Checked.seq_ok_of ?_ (RecordType.withDefault_of_get? htemperature (by simp))
    have hsystem := Decode.reads_ofOption Decode.reads_optional_text systemPrompt
    exact Checked.map_ok_of (RecordType.withDefault_of_get? hsystem (by simp))

namespace FlowDocument

/-- A document comes back with all its steps undisguised. -/
theorem reads_toJson {document : FlowDocument}
    (htemperature : Decode.single.Reads (.ofSingle document.agent.temperature)
      document.agent.temperature) :
    FlowDocument.read.Reads document.toJson
      { document with steps := document.steps.map Step.undisguised } := by
  refine RecordType.reads_ofEntries fun conventions => ?_
  have hsteps := Decode.reads_list fun step (_ : step ∈ document.steps) => step.reads_toJson
  refine Checked.seq_ok_of ?_ (RecordType.withDefault_of_get? hsteps (by simp))
  refine Checked.seq_ok_of ?_
    (RecordType.withDefault_of_get? (AgentConfig.reads_toJson htemperature) (by simp))
  refine Checked.seq_ok_of ?_
    (RecordType.withDefault_of_get? (Decode.reads_text document.description) (by simp))
  exact Checked.map_ok_of (RecordType.required_of_get? (Decode.reads_text document.name) (by simp))

/-- A document that is loaded from JSON has been read from a value. -/
theorem yields_of_ofJsonText {text : String} {document : FlowDocument}
    (h : ofJsonText text = .ok document) : FlowDocument.read.Yields document := by
  obtain ⟨found, hread, hbehind⟩ := bind_eq_ok.mp h
  refine ⟨.json, (Json.readText text).1, ?_⟩
  split at hbehind
  · cases hbehind
    exact hread
  · cases hbehind

/-- A document that is loaded from YAML has been read from a node. -/
theorem yields_of_ofYamlText {text : String} {document : FlowDocument}
    (h : ofYamlText text = .ok document) : FlowDocument.read.Yields document := by
  unfold ofYamlText at h
  split at h
  · exact ⟨.yaml, _, h⟩
  · cases h

/-- A document that is loaded from a file has been read from what its text stands for. -/
theorem yields_of_ofFile {path : String} {content : FileContent} {document : FlowDocument}
    (h : ofFile path content = .ok document) : FlowDocument.read.Yields document := by
  unfold ofFile at h
  split at h
  · cases h
  · split at h
    · cases h
    · exact yields_of_ofJsonText (mapError_eq_ok.mp h)
    · exact yields_of_ofYamlText (mapError_eq_ok.mp h)

/-- The kinds in a document that has been read come from names, so none is disguised. -/
theorem not_isDisguised_of_yields {document : FlowDocument} (h : FlowDocument.read.Yields document)
    {step : Step} (hstep : step ∈ document.steps) : ¬ step.kind.IsDisguised := by
  obtain ⟨field, hfields⟩ := RecordType.exists_slots_of_yields h
  obtain ⟨_, steps, htoAgent, hsteps, rfl⟩ := Checked.seq_eq_ok.mp hfields
  obtain ⟨_, agent, htoDescription, -, rfl⟩ := Checked.seq_eq_ok.mp htoAgent
  obtain ⟨_, description, hname, -, rfl⟩ := Checked.seq_eq_ok.mp htoDescription
  obtain ⟨name, -, rfl⟩ := Checked.map_eq_ok.mp hname
  rcases Slot.yields_of_withDefault hsteps with rfl | hsteps
  · exact absurd hstep List.not_mem_nil
  · exact Step.not_isDisguised_of_yields (Decode.yields_of_list hsteps hstep)

end FlowDocument

end AgentFlow
