import AgentFlow.Execution.Playback
import AgentFlow.CommandLine.Report
import AgentFlow.Tool.Shared
import AgentFlow.Proofs.Json.Fields
import AgentFlow.Proofs.Text.ByteOrder

/-!
# The last tool of a name

A registry is what is left of the tools that were registered in it: under each name the last one,
in ascending order of names (`Registry.LastWins`). Whatever happens to the registries and their
handles, the registry of a handle is the one of the tools that came to it through all of its handles
(`Registries.registry_of_performAll`).
-/

namespace AgentFlow

variable {σ : Type}

namespace Tool

/-- The last tool of a name. -/
def last? (name : String) (tools : List (Tool σ)) : Option (Tool σ) :=
  (tools.filter (·.name = name)).getLast?

/-- A tool that is written last is the last of its name. -/
theorem last?_append_singleton (name : String) (tools : List (Tool σ)) (tool : Tool σ) :
    last? name (tools ++ [tool]) = if tool.name = name then some tool else last? name tools := by
  rw [last?, List.filter_append]
  split
  · rename_i h
    simp [h]
  · rename_i h
    simp [last?, h]

/-- The last tool of a name has it. -/
theorem name_of_last?_eq_some {name : String} {tools : List (Tool σ)} {tool : Tool σ}
    (h : last? name tools = some tool) : tool.name = name := by
  have hmem := List.mem_of_getLast? h
  simpa using (List.mem_filter.mp hmem).2

/-- There is a last tool of exactly the names that have been written. -/
theorem isSome_last? {name : String} {tools : List (Tool σ)} :
    (last? name tools).isSome ↔ name ∈ tools.map Tool.name := by
  simp [last?]

/-- The name in a description. -/
def definitionName? (definition : Json) : Option String :=
  (definition.field? "name").bind Json.text?

@[simp] theorem definitionName?_definition (tool : Tool σ) :
    definitionName? tool.definition = some tool.name := by
  simp [definitionName?, definition, Json.ofEntries, Json.field?, Json.text?]

/-- Whether the bytes of a description's name are at most those of another's. A description without
a name comes first. -/
def nameLE (definition other : Json) : Bool :=
  match definitionName? definition, definitionName? other with
  | none, _ => true
  | some _, none => false
  | some name, some otherName => decide (Text.bytes name ≤ Text.bytes otherName)

/-- Definitions are ordered as their tools. -/
theorem nameLE_definition (tool other : Tool σ) :
    nameLE tool.definition other.definition = decide (tool.name ≤ other.name) := by
  simp [nameLE, Text.bytes_le_iff]

end Tool

namespace Registry

/-! ## One registry -/

/-- The tools of a registry, in the order of its entries. -/
def listed (registry : Registry σ) : List (Tool σ) :=
  registry.map Prod.snd

/-- A registry that answers as the last tool of each name among the given ones. -/
structure LastWins (registry : Registry σ) (tools : List (Tool σ)) : Prop where
  /-- A name leads to its last tool. -/
  get?_eq (name : String) : Fields.get? name registry = Tool.last? name tools
  definitions_eq : registry.definitions = registry.listed.map Tool.definition
  /-- The names that are listed are the names of the tools. -/
  mem_names (name : String) : name ∈ registry.listed.map Tool.name ↔ name ∈ tools.map Tool.name
  /-- Each name is listed once, in ascending order of bytes. -/
  pairwise_names :
    registry.listed.Pairwise fun tool later => Text.bytes tool.name < Text.bytes later.name
  /-- What is listed is the last tool of its name. -/
  last_listed : ∀ tool ∈ registry.listed, Tool.last? tool.name tools = some tool
  /-- In whatever order the tools are gone through, sorting their descriptions by name gives the
  same list. -/
  sort_eq (enumeration : List (Tool σ)) (h : enumeration.Perm registry.listed) :
    (enumeration.map Tool.definition).mergeSort Tool.nameLE = registry.definitions
  /-- A call reaches the last tool of its name. Without one, and when the tool fails, the result is
  a failure with the text of the error, and never an error of the call. -/
  execute_eq (call : ToolCall) (context : ToolContext) (world : σ) :
    registry.execute call context world =
      match Tool.last? call.name tools with
      | none => (.ok ⟨⟨false, .null, some s!"Tool not found: {call.name}"⟩, none⟩, world)
      | some tool =>
        match tool.run call.arguments world with
        | (.ok output, world) => (.ok ⟨⟨true, output, none⟩, none⟩, world)
        | (.error message, world) => (.ok ⟨⟨false, .null, some message⟩, none⟩, world)

/-- The registry of tools that are registered one after the other. -/
def ofTools (tools : List (Tool σ)) : Registry σ :=
  tools.foldl (fun registry tool => registry.register tool) empty

/-- Writing one tool more is registering it. -/
theorem ofTools_append_singleton (tools : List (Tool σ)) (tool : Tool σ) :
    ofTools (tools ++ [tool]) = (ofTools tools).register tool :=
  List.foldl_concat ..

/-- A registry is a map from names to tools. -/
theorem ofTools_eq_ofEntries (tools : List (Tool σ)) :
    ofTools tools = Fields.ofEntries (tools.map fun tool => (tool.name, tool)) := by
  rw [ofTools, Fields.ofEntries, Fields.merge, List.foldl_map]
  rfl

/-- The names of a registry ascend. -/
theorem pairwise_keys_ofTools (tools : List (Tool σ)) :
    (Fields.keys (ofTools tools)).Pairwise (· < ·) := by
  rw [ofTools_eq_ofEntries]
  exact Fields.pairwise_keys_ofEntries _

/-- A name is looked up to the last tool that has been written under it. -/
theorem get?_ofTools (name : String) (tools : List (Tool σ)) :
    Fields.get? name (ofTools tools) = Tool.last? name tools := by
  induction tools using List.reverseRecOn with
  | nil => rfl
  | append_singleton tools tool ih =>
    rw [ofTools_append_singleton, Tool.last?_append_singleton, register]
    split
    · rename_i h
      rw [← h, Fields.get?_insert_self]
    · rename_i h
      rw [Fields.get?_insert_of_ne (Ne.symm h), ih]

/-- The registry only depends on the tools of each name and their order among themselves. -/
theorem ofTools_congr {tools others : List (Tool σ)}
    (h : ∀ name, tools.filter (·.name = name) = others.filter (·.name = name)) :
    ofTools tools = ofTools others := by
  refine Fields.eq_of_get?_eq (pairwise_keys_ofTools _) (pairwise_keys_ofTools _) fun name => ?_
  rw [get?_ofTools, get?_ofTools, Tool.last?, h, Tool.last?]

/-- An entry of a registry is the last tool of its name. -/
theorem mem_ofTools_iff {name : String} {tool : Tool σ} {tools : List (Tool σ)} :
    (name, tool) ∈ ofTools tools ↔ Tool.last? name tools = some tool := by
  rw [Fields.mem_iff_get?_eq_some (Fields.nodup_keys (pairwise_keys_ofTools tools)), get?_ofTools]

/-- A tool stands under its own name. -/
theorem names_listed_ofTools (tools : List (Tool σ)) :
    (ofTools tools).listed.map Tool.name = Fields.keys (ofTools tools) := by
  rw [listed, List.map_map]
  exact List.map_congr_left fun _ h => Tool.name_of_last?_eq_some (mem_ofTools_iff.mp h)

/-- The tools of a registry are the last ones of their names. -/
theorem mem_listed_ofTools_iff {tool : Tool σ} {tools : List (Tool σ)} :
    tool ∈ (ofTools tools).listed ↔ Tool.last? tool.name tools = some tool := by
  constructor
  · intro h
    obtain ⟨⟨name, _⟩, hentry, rfl⟩ := List.mem_map.mp h
    have hlast := mem_ofTools_iff.mp hentry
    rwa [Tool.name_of_last?_eq_some hlast]
  · intro h
    exact List.mem_map.mpr ⟨(tool.name, tool), mem_ofTools_iff.mpr h, rfl⟩

/-- The names of a registry are all that have been written. -/
theorem mem_names_ofTools_iff {name : String} {tools : List (Tool σ)} :
    name ∈ (ofTools tools).listed.map Tool.name ↔ name ∈ tools.map Tool.name := by
  refine Iff.trans ?_ Tool.isSome_last?
  rw [Option.isSome_iff_exists, List.mem_map]
  constructor
  · rintro ⟨tool, htool, rfl⟩
    exact ⟨tool, mem_listed_ofTools_iff.mp htool⟩
  · rintro ⟨tool, hlast⟩
    have hname := Tool.name_of_last?_eq_some hlast
    exact ⟨tool, mem_listed_ofTools_iff.mpr (hname ▸ hlast), hname⟩

/-- The tools of a registry stand in the order of their names. -/
theorem pairwise_listed_ofTools (tools : List (Tool σ)) :
    (ofTools tools).listed.Pairwise fun tool later => tool.name < later.name := by
  rw [← List.pairwise_map, names_listed_ofTools]
  exact pairwise_keys_ofTools tools

/-- Sorting takes away the order in which the tools are gone through. -/
theorem mergeSort_of_perm_listed {tools enumeration : List (Tool σ)}
    (h : enumeration.Perm (ofTools tools).listed) :
    enumeration.mergeSort (fun tool other => decide (tool.name ≤ other.name)) =
      (ofTools tools).listed := by
  have hperm := (List.mergeSort_perm enumeration fun tool other =>
    decide (tool.name ≤ other.name)).trans h
  refine hperm.eq_of_pairwise ?_ (List.pairwise_mergeSort ?_ ?_ _)
    ((pairwise_listed_ofTools tools).imp fun hlt => decide_eq_true (le_of_lt hlt))
  · intro tool other htool hother hle hge
    have hname := String.le_antisymm (of_decide_eq_true hle) (of_decide_eq_true hge)
    have hlast := mem_listed_ofTools_iff.mp (hperm.mem_iff.mp htool)
    rw [hname, mem_listed_ofTools_iff.mp hother] at hlast
    exact (Option.some.inj hlast).symm
  · intro tool other later hle hle'
    exact decide_eq_true (String.le_trans (of_decide_eq_true hle) (of_decide_eq_true hle'))
  · intro tool other
    simpa using String.le_total tool.name other.name

/-- In a registry of tools the last one of a name wins. -/
theorem lastWins_ofTools (tools : List (Tool σ)) : (ofTools tools).LastWins tools where
  get?_eq name := get?_ofTools name tools
  definitions_eq := by rw [definitions, listed, List.map_map]; rfl
  mem_names _ := mem_names_ofTools_iff
  pairwise_names := (pairwise_listed_ofTools tools).imp Text.bytes_lt_iff.mpr
  last_listed _ h := mem_listed_ofTools_iff.mp h
  sort_eq enumeration h := by
    rw [← List.map_mergeSort fun tool _ other _ => (Tool.nameLE_definition tool other).symm,
      mergeSort_of_perm_listed h, definitions, listed, List.map_map]
    rfl
  execute_eq call context world := by
    rw [execute, Registry.call, get?_ofTools]
    cases Tool.last? call.name tools with
    | none => rfl
    | some tool =>
      dsimp only
      rcases tool.run call.arguments world with ⟨_ | _, _⟩ <;> rfl

end Registry

namespace Registries

/-! ## Registries and their handles -/

/-- The tools that an event puts into the registry of a number. -/
def written (number : Nat) (registries : Registries σ) : RegistryEvent σ → List (Tool σ)
  | .create builtins => if builtins ∧ registries.tables.length = number then [.echo] else []
  | .clone _ => []
  | .register handle tool => if registries.handles[handle]? = some number then [tool] else []

/-- The tools that events put into the registry of a number, one after the other. -/
def writtenAll (number : Nat) : Registries σ → List (RegistryEvent σ) → List (Tool σ)
  | _, [] => []
  | registries, event :: events =>
    written number registries event ++ writtenAll number (registries.perform event) events

/-- Each registry is that of the tools that a log has under its number. -/
structure Follows (registries : Registries σ) (log : Nat → List (Tool σ)) : Prop where
  table_eq (number : Nat) (h : number < registries.tables.length) :
    registries.tables[number]? = some (.ofTools (log number))
  eq_nil (number : Nat) (h : registries.tables.length ≤ number) : log number = []

/-- One event writes to one log at most. -/
theorem Follows.perform {registries : Registries σ} {log : Nat → List (Tool σ)}
    (h : registries.Follows log) (event : RegistryEvent σ) :
    (registries.perform event).Follows fun number =>
      log number ++ written number registries event := by
  cases event with
  | create builtins =>
    -- Numbers below the new one have their old tables; the new one starts with an empty log.
    refine ⟨fun number hnumber => ?_, fun number hnumber => ?_⟩
    · simp only [Registries.perform, List.length_append, List.length_singleton] at hnumber ⊢
      obtain hold | rfl := Nat.lt_succ_iff_lt_or_eq.mp hnumber
      · rw [List.getElem?_append_left hold, h.table_eq number hold]
        simp [written, hold.ne']
      · rw [List.getElem?_concat_length, h.eq_nil _ le_rfl]
        cases builtins <;> simp [written] <;> rfl
    · simp only [Registries.perform, List.length_append, List.length_singleton] at hnumber
      have hne : registries.tables.length ≠ number := by omega
      simp [written, hne, h.eq_nil number (by omega)]
  | clone handle =>
    -- A clone is one handle more to a number that exists, and no table changes.
    simp only [written, List.append_nil]
    exact ⟨h.table_eq, h.eq_nil⟩
  | register handle tool =>
    rw [Registries.perform]
    split
    · rename_i hhandle
      simpa [written, hhandle] using h
    · rename_i target htarget
      have hlt := registries.handles_lt target (List.mem_of_getElem? htarget)
      refine ⟨fun number hnumber => ?_, fun number hnumber => ?_⟩
      · rw [List.length_modify] at hnumber
        rw [List.getElem?_modify, h.table_eq number hnumber]
        by_cases heq : target = number
        · simp [written, htarget, heq, Registry.ofTools_append_singleton]
        · simp [written, htarget, heq]
      · rw [List.length_modify] at hnumber
        have hne : target ≠ number := by omega
        simp [written, htarget, hne, h.eq_nil number hnumber]

/-- The logs grow by what the events write, by induction on them. -/
theorem Follows.performAll {registries : Registries σ} {log : Nat → List (Tool σ)}
    (h : registries.Follows log) (events : List (RegistryEvent σ)) :
    (registries.performAll events).Follows fun number =>
      log number ++ writtenAll number registries events := by
  induction events generalizing registries log with
  | nil =>
    simp only [writtenAll, List.append_nil]
    exact h
  | cons event events ih =>
    simp only [writtenAll, ← List.append_assoc]
    exact ih (h.perform event)

/-- The tools that events put into the registry of a handle, through all of its handles. -/
def writtenThrough (handle : Nat) (events : List (RegistryEvent σ)) : List (Tool σ) :=
  match (performAll initial events).handles[handle]? with
  | none => []
  | some number => writtenAll number initial events

/-- A handle leads to the registry of all tools that have been written through it or through a clone
of the same registry. -/
theorem table?_performAll {events : List (RegistryEvent σ)} {handle : Nat}
    (h : handle < (performAll initial events).handles.length) :
    (performAll initial events).table? handle = some (.ofTools (writtenThrough handle events)) := by
  have hnone : Follows (initial : Registries σ) fun _ => [] :=
    ⟨fun _ h => absurd h (Nat.not_lt_zero _), fun _ _ => rfl⟩
  have hfollows := hnone.performAll events
  rw [table?, writtenThrough, List.getElem?_eq_getElem h]
  exact hfollows.table_eq _ ((performAll initial events).handles_lt _ (List.getElem_mem h))

/-- A handle stays on the registry that it is on. -/
theorem handles_isPrefix_performAll (registries : Registries σ) (events : List (RegistryEvent σ)) :
    registries.handles <+: (registries.performAll events).handles := by
  induction events generalizing registries with
  | nil => exact List.prefix_refl _
  | cons event events ih =>
    refine List.IsPrefix.trans ?_ (ih _)
    cases event with
    | create _ => exact List.prefix_append _ _
    | clone _ => exact List.prefix_append _ _
    | register handle tool =>
      rw [Registries.perform]
      split <;> exact List.prefix_refl _

/-- A clone of a handle is on the same registry as the handle, whatever happens from then on. -/
theorem table?_clone {registries : Registries σ} {handle : Nat}
    (h : handle < registries.handles.length) (later : List (RegistryEvent σ)) :
    (registries.performAll (.clone handle :: later)).table? registries.handles.length =
      (registries.performAll (.clone handle :: later)).table? handle := by
  have hclone : (registries.perform (.clone handle)).handles =
      registries.handles ++ [registries.handles[handle]] := by
    show registries.handles ++ registries.handles[handle]?.toList = _
    rw [List.getElem?_eq_getElem h, Option.toList_some]
  obtain ⟨more, hmore⟩ := handles_isPrefix_performAll (registries.perform (.clone handle)) later
  have hhandles : (registries.performAll (.clone handle :: later)).handles =
      registries.handles ++ registries.handles[handle] :: more := by
    rw [performAll, List.foldl_cons, ← performAll, ← hmore, hclone, List.append_assoc,
      List.singleton_append]
  rw [table?, table?, hhandles, List.getElem?_append_left h, List.getElem?_eq_getElem h,
    List.getElem?_append_right (Nat.le_refl _), Nat.sub_self, List.getElem?_cons_zero]

end Registries

/-! ## The tools of a run -/

theorem Playback.callTool_withRegistry (registry : Registry Playback) :
    (withRegistry registry).callTool = registry.execute := rfl

/-- The commands call their tools through a registry with the built-in ones. -/
theorem CommandLine.Host.callTool_collaborators (host : Host σ) (model : ChatModel) :
    (host.collaborators model).callTool = Registry.builtins.execute := rfl

end AgentFlow
