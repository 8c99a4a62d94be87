import AgentFlow.Execution.Playback
import AgentFlow.Proofs.Execution.Service
import AgentFlow.Proofs.Execution.StepSpans

/-!
# Flows that are one prompt

A flow without steps is executed apart from all others: the agent's system prompt goes to the
generator with the input as it is. A prompt step without settings that leads nowhere comes to the
same, by way of its settings, the variable `input`, and the walk through the flow
(`Task.run_of_bare_prompt`). Both runs are compared with what one generation gives: its text as
the output and as the variable `lastOutput`, and nothing at all if there is none.

The recorder is told the step that a draft belongs to, and may do with it what it likes. So the
drafts are compared, and the spans for a recorder that takes drafts as they are.
-/

namespace AgentFlow

variable {σ : Type}

/-- Collaborators that also keep, in order, what the generator is asked. -/
def Collaborators.keepingRequests (collaborators : Collaborators σ) :
    Collaborators (σ × List GenerationRequest) where
  generate := fun request (world, asked) =>
    let (answer, world) := collaborators.generate request world
    (answer, world, asked ++ [request])
  callTool := fun call context (world, asked) =>
    let (answer, world) := collaborators.callTool call context world
    (answer, world, asked)
  freshIdentifier := fun (world, asked) =>
    let (id, world) := collaborators.freshIdentifier world
    (id, world, asked)
  record := fun draft keep (world, asked) =>
    let (span, world) := collaborators.record draft keep world
    (span, world, asked)

/-- A prompt step without settings that leads nowhere. -/
structure Step.IsBarePrompt (step : Step) : Prop where
  kind : step.kind = .prompt
  config : step.config = []
  connections : step.connections = {}

/-- A result says what a single generation has given. -/
structure ExecutionResult.Gives (answer : Except String Generation) (result : ExecutionResult) :
    Prop where
  success : result.success = answer.toOption.isSome
  output : result.output = (answer.toOption.map Generation.text).getD ""
  vars : result.vars =
    (answer.toOption.toList.map fun generation => ("lastOutput", .string generation.text))

/-- The draft says how a generation went. -/
def SpanDraft.answered (answer : Except String Generation) (draft : SpanDraft) : SpanDraft :=
  match answer with
  | .ok generation => draft.generated generation
  | .error message => { draft with error := some message }

namespace Task

/-- What a task asks the generator if it is a single prompt. -/
def request (task : Task) (system : String) : GenerationRequest :=
  ⟨some system, task.input.content, task.agent.generation⟩

/-- The draft of the first span of a task, for a generation over the input. -/
def draft (task : Task) : SpanDraft where
  attemptId := task.options.attemptId
  parentSpanId := task.options.parentSpanId
  sequence := task.options.initialSequence
  kind := .llmCall
  input := task.input.content
  modelId := some task.agent.model

/-- The run of the task asks the generator once, records one span with this draft, and gives the
answer. -/
def IsOneGeneration (task : Task) (collaborators : Collaborators σ) (world : σ) (system : String)
    (draft : SpanDraft) : Prop :=
  let asked := collaborators.generate (task.request system) world
  let recorded := collaborators.record (draft.answered asked.1) task.options.persistSpans asked.2
  let ran := task.run collaborators .builtin world
  ran.1.result.Gives asked.1 ∧ ran.1.result.spans = [recorded.1] ∧ ran.2 = recorded.2

end Task

namespace Execution

variable {collaborators : Collaborators σ} {execution after : Execution σ} {system : String}

/-- Asking the generator passes the question on. -/
theorem generate_of_answer {system : Option String} {prompt : String}
    {answer : Except String Generation} {world : σ}
    (h : collaborators.generate ⟨system, prompt, execution.context.agent.generation⟩
      execution.world = (answer, world)) :
    execution.generate collaborators system prompt = (answer, { execution with world }) := by
  simp only [generate, h]

/-- Without steps, an answer is the output. -/
theorem singlePrompt_of_answered {generation : Generation}
    (hsystem : nonBlank? execution.context.agent.systemPrompt = some system)
    (hask : execution.generate collaborators (some system) execution.context.input.content =
      (.ok generation, after)) :
    execution.singlePrompt collaborators =
      (.ok (.string generation.text),
        (after.record collaborators
          (({ kind := .llmCall
              input := execution.context.input.content
              modelId := some execution.context.agent.model } : SpanDraft).generated
            generation)).modify (Context.set "lastOutput" (.string generation.text))) := by
  simp only [singlePrompt, hsystem, hask]

/-- Without steps, a refusal ends the run. -/
theorem singlePrompt_of_unanswered {message : String}
    (hsystem : nonBlank? execution.context.agent.systemPrompt = some system)
    (hask : execution.generate collaborators (some system) execution.context.input.content =
      (.error message, after)) :
    execution.singlePrompt collaborators =
      (.error (.generation message),
        after.record collaborators
          { kind := .llmCall
            input := execution.context.input.content
            modelId := some execution.context.agent.model
            error := some message }) := by
  simp only [singlePrompt, hsystem, hask]

end Execution

namespace Task

variable {collaborators : Collaborators σ} {task : Task} {world : σ} {system : String}

/-- A flow without steps is a single generation. -/
theorem isOneGeneration_of_no_steps (hflow : task.flow = [])
    (hsystem : nonBlank? task.agent.systemPrompt = some system) :
    task.IsOneGeneration collaborators world system task.draft := by
  have hentry : task.flow.entry? = none := Flow.entry?_of_eq_nil hflow
  rcases hask : collaborators.generate (task.request system) world with
    ⟨message | generation, after⟩
  · have hprompt : (task.begin world).execution.singlePrompt collaborators = _ :=
      Execution.singlePrompt_of_unanswered hsystem (Execution.generate_of_answer hask)
    simp only [IsOneGeneration, hask, run, walk, hentry, hprompt]
    exact ⟨⟨rfl, rfl, rfl⟩, rfl, rfl⟩
  · have hprompt : (task.begin world).execution.singlePrompt collaborators = _ :=
      Execution.singlePrompt_of_answered hsystem (Execution.generate_of_answer hask)
    simp only [IsOneGeneration, hask, run, walk, hentry, hprompt]
    exact ⟨⟨rfl, rfl, rfl⟩, rfl, rfl⟩

end Task

namespace Step.IsBarePrompt

variable {step : Step}

/-- Settings with nothing in them can be read. -/
theorem readConfig (h : step.IsBarePrompt) :
    step.readConfig PromptConfig.read = .ok ⟨none, none, none⟩ := by
  rw [Step.readConfig, h.config]
  rfl

/-- A flow of one step is entered there, whatever its kind. -/
theorem entry?_singleton (h : step.IsBarePrompt) : Flow.entry? [step] = some step := by
  have hstart : Flow.start? [step] = none := by
    rw [Flow.start?, List.find?_eq_none]
    intro other hother
    rw [List.mem_singleton.mp hother, h.kind]
    decide
  rw [Flow.entry?, hstart]
  rfl

end Step.IsBarePrompt

namespace Task

variable {collaborators : Collaborators σ} {task : Task} {world : σ} {system : String}

/-- A flow of one bare prompt step is the same generation, with a draft that names the step. -/
theorem isOneGeneration_of_bare_prompt {step : Step} (hflow : task.flow = [step])
    (hbare : step.IsBarePrompt) (hmax : 1 ≤ task.options.maxSteps)
    (hsystem : nonBlank? task.agent.systemPrompt = some system) :
    task.IsOneGeneration collaborators world system
      { task.draft with stepId := some step.id, stepType := some step.kind.name } := by
  have hentry : task.flow.entry? = some step := hflow ▸ hbare.entry?_singleton
  obtain ⟨left, hleft⟩ := Nat.exists_eq_add_of_le' hmax
  have hhandler : (Handlers.builtin step.kind : Option (Handler σ)) = some Handler.prompt := by
    rw [hbare.kind]
    rfl
  have hrequest : task.request system =
      ⟨nonBlank? task.agent.systemPrompt, task.input.content, task.agent.generation⟩ := by
    rw [hsystem, request]
  rcases hask : collaborators.generate (task.request system) world with
    ⟨message | generation, after⟩
  · have hprompt : Handler.prompt collaborators step (task.begin world).execution = _ :=
      Handler.prompt_of_unanswered hbare.readConfig
        (Execution.generate_of_answer (hrequest ▸ hask))
    simp only [IsOneGeneration, hask, run, walk, hentry, hleft, Walk.onward, Walk.turn, hhandler,
      hprompt, hbare.connections, Execution.reportError]
    exact ⟨⟨rfl, rfl, rfl⟩, rfl, rfl⟩
  · have hprompt : Handler.prompt collaborators step (task.begin world).execution = _ :=
      Handler.prompt_of_answered hbare.readConfig
        (Execution.generate_of_answer (hrequest ▸ hask))
    simp only [IsOneGeneration, hask, run, walk, hentry, hleft, Walk.onward, Walk.turn, hhandler,
      hprompt, hbare.connections]
    exact ⟨⟨rfl, rfl, rfl⟩, rfl, rfl⟩

/-- One generation is one request. -/
theorem IsOneGeneration.requests {draft : SpanDraft}
    (h : task.IsOneGeneration collaborators.keepingRequests (world, []) system draft) :
    (task.run collaborators.keepingRequests .builtin (world, [])).2.2 = [task.request system] := by
  rw [h.2.2]
  rfl

/-- **A flow without steps is a flow of one prompt.** Let the agent have a system prompt that is not
blank and let at least one step be allowed. Then the flow without steps and the flow of one prompt
step, without settings and leading nowhere, ask the generator the same once, for whatever it
answers, and have the same success, output and variables, namely what the answer gives. Each leaves
one span, from drafts that differ only in that the second names the step. -/
theorem run_of_bare_prompt (collaborators : Collaborators σ) (agent : AgentConfig)
    (input : ExecutionInput) (options : ExecutionOptions) (step : Step) (world : σ)
    {system : String} (hsystem : agent.systemPrompt = some system)
    (hblank : Text.isBlankText system = false) (hmax : 1 ≤ options.maxSteps)
    (hbare : step.IsBarePrompt) :
    let run (flow : Flow) := (Task.mk agent flow input options).run
      collaborators.keepingRequests .builtin (world, [])
    let empty := (run []).1.result
    let single := (run [step]).1.result
    let request : GenerationRequest := ⟨some system, input.content, agent.generation⟩
    let asked := collaborators.generate request world
    let draft := (Task.mk agent [] input options).draft.answered asked.1
    let record (draft : SpanDraft) :=
      (collaborators.record draft options.persistSpans asked.2).1
    (run []).2.2 = [request] ∧ (run [step]).2.2 = [request] ∧
    single.success = empty.success ∧ single.output = empty.output ∧ single.vars = empty.vars ∧
    empty.Gives asked.1 ∧
    empty.spans = [record draft] ∧
    single.spans = [record { draft with stepId := some step.id, stepType := some "prompt" }] ∧
    (collaborators.RecordsAsDrafted → ∃ span id, empty.spans = [span] ∧
      single.spans = [{ span with id, stepId := some step.id, stepType := some "prompt" }]) := by
  intro run empty single request asked draft record
  have hprompt : nonBlank? agent.systemPrompt = some system := by
    rw [nonBlank?, hsystem, Option.filter_some, hblank]
    rfl
  -- Both runs are one generation; that the drafts agree is all that is left to compare.
  have hempty : (Task.mk agent [] input options).IsOneGeneration collaborators.keepingRequests
      (world, []) system _ := isOneGeneration_of_no_steps rfl hprompt
  have hsingle : (Task.mk agent [step] input options).IsOneGeneration collaborators.keepingRequests
      (world, []) system _ := isOneGeneration_of_bare_prompt rfl hbare hmax hprompt
  have hgives : empty.Gives asked.1 := hempty.1
  have hgives' : single.Gives asked.1 := hsingle.1
  have hdraft : SpanDraft.answered asked.1
      { (Task.mk agent [step] input options).draft with
        stepId := some step.id, stepType := some step.kind.name } =
      { draft with stepId := some step.id, stepType := some "prompt" } := by
    rw [hbare.kind]
    cases hanswer : asked.1 <;> simp only [draft, hanswer] <;> rfl
  have hspans : empty.spans = [record draft] := hempty.2.1
  have hspans' : single.spans =
      [record { draft with stepId := some step.id, stepType := some "prompt" }] :=
    hdraft ▸ hsingle.2.1
  refine ⟨hempty.requests, hsingle.requests, hgives'.success.trans hgives.success.symm,
    hgives'.output.trans hgives.output.symm, hgives'.vars.trans hgives.vars.symm, hgives, hspans,
    hspans', fun hrecord => ?_⟩
  obtain ⟨id, hspan⟩ := hrecord draft options.persistSpans asked.2
  obtain ⟨id', hspan'⟩ := hrecord
    { draft with stepId := some step.id, stepType := some "prompt" } options.persistSpans asked.2
  exact ⟨_, id', hspans.trans (congrArg (fun span => [span]) hspan),
    hspans'.trans (congrArg (fun span => [span]) hspan')⟩

/-- The reply comes with counts of tokens, and one step is all that is allowed. -/
theorem run_of_bare_prompt_of_counted_reply :
    let agent : AgentConfig := { systemPrompt := some "Be brief" }
    let options : ExecutionOptions := { maxSteps := 1 }
    let step : Step := { id := "ask", kind := .prompt }
    let world : Playback := { replies := [.ok ⟨"Hello", some ⟨3, 5⟩⟩] }
    let run (flow : Flow) := (Task.mk agent flow { content := "Hi" } options).run
      Playback.scripted.keepingRequests .builtin (world, [])
    (run [step]).2.2.map GenerationRequest.prompt = ["Hi"] ∧
      (run [step]).1.result.output = "Hello" ∧
      (run [step]).1.result.vars = [("lastOutput", .string "Hello")] ∧
      ∃ span id, (run []).1.result.spans = [span] ∧ span.completionTokens = some 5 ∧
        (run [step]).1.result.spans =
          [{ span with id, stepId := some "ask", stepType := some "prompt" }] := by
  intro agent options step world run
  obtain ⟨-, hrequests, -, houtput, hvars, hgives, -, -, hspans⟩ :=
    run_of_bare_prompt Playback.scripted agent { content := "Hi" } options step world
      rfl (by decide) (by decide) ⟨rfl, rfl, rfl⟩
  obtain ⟨span, id, hspan, hspan'⟩ := hspans fun _ _ _ => ⟨_, rfl⟩
  refine ⟨congrArg (List.map GenerationRequest.prompt) hrequests, houtput.trans hgives.output,
    hvars.trans hgives.vars, span, id, hspan, ?_, hspan'⟩
  cases hspan
  rfl

end Task

end AgentFlow
