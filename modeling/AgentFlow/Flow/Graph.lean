import AgentFlow.Flow.Step

/-!
# The graph of a flow

A flow is a list of steps that are connected by identifiers. Where two steps have the same
identifier the later one is meant. An execution enters a flow at its first start step, or at its
first step if there is none.
-/

namespace AgentFlow

/-- The steps of a flow, in the order of their declaration. -/
abbrev Flow := List Step

namespace Flow

/-- The step that an identifier means: the last one that has it. -/
def step? (id : String) : Flow → Option Step
  | [] => none
  | step :: rest => (step? id rest).or (if step.id = id then some step else none)

/-- The first start step. -/
def start? (flow : Flow) : Option Step :=
  flow.find? fun step => step.kind = .start

/-- Where an execution enters. -/
def entry? (flow : Flow) : Option Step :=
  flow.start?.or flow.head?

/-- The steps that identifiers mean: those whose identifier is not declared again. -/
def named : Flow → Flow
  | [] => []
  | step :: rest =>
    if rest.any fun later => later.id = step.id then named rest else step :: named rest

/-- Does one of these steps lead to a step? -/
def leadTo (steps : List Step) (step : Step) : Bool :=
  steps.any fun other => other.successors.contains step.id

/-- The steps that none of `frontier` leads to. -/
def beyond (frontier unseen : List Step) : List Step :=
  unseen.filter fun step => !leadTo frontier step

theorem length_beyond_lt {frontier unseen : List Step} {step : Step} (hin : step ∈ unseen)
    (hto : leadTo frontier step = true) : (beyond frontier unseen).length < unseen.length :=
  List.length_filter_lt_length_iff_exists.mpr ⟨step, hin, by simp [hto]⟩

/-- The steps among `unseen` that the steps of `frontier` lead to, directly or through others of
them. Every round takes what is reached out of `unseen`, so it ends. -/
def spread (frontier unseen : List Step) : List Step :=
  match _h : unseen.filter (leadTo frontier) with
  | [] => []
  | step :: more => step :: more ++ spread (step :: more) (beyond frontier unseen)
termination_by unseen.length
decreasing_by
  have hmem : step ∈ unseen.filter (leadTo frontier) := _h ▸ List.mem_cons_self
  exact length_beyond_lt (List.mem_filter.mp hmem).1 (List.mem_filter.mp hmem).2

/-- The identifiers of the steps that can be reached from a step. -/
def reachable (flow : Flow) (step : Step) : List String :=
  step.id :: (spread [step] (flow.named.filter fun other => other.id ≠ step.id)).map Step.id

end Flow

end AgentFlow
