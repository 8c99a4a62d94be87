import AgentFlow.Proofs.Flow.Graph
import AgentFlow.Validation
import Mathlib.Data.List.Nodup
import Mathlib.Logic.Relation

/-!
# What can be reached

Reachability as a relation — there is a chain of connections, of any length — beside the search by
which validation finds it out. The search spreads in rounds: it takes the steps that the last round
leads to out of those that it has not seen, until a round finds none.

* `mem_spread_iff`: the search finds what chains through unseen steps lead to.
* `mem_reachable_iff`: in a flow whose identifiers are distinct, it finds what chains lead to.
* `warns_unreachable_iff`: the report has the text that warns of a step exactly if no chain leads to
  it from the first start step.
-/

namespace AgentFlow

namespace Flow

/-- A step is connected to another one, which is among the steps given. -/
def Connects (flow : Flow) (step next : Step) : Prop :=
  next ∈ flow ∧ next.id ∈ step.successors

/-- A chain of connections leads from a step to another one, if only to itself. -/
abbrev Reaches (flow : Flow) : Step → Step → Prop :=
  Relation.ReflTransGen flow.Connects

/-- A chain through steps of a flow is one through steps of every flow that has these. -/
theorem transGen_connects_mono {flow more : Flow} (hsubset : ∀ step ∈ flow, step ∈ more)
    {step next : Step} (h : Relation.TransGen flow.Connects step next) :
    Relation.TransGen more.Connects step next :=
  Relation.TransGen.mono (fun _ other hconnects => ⟨hsubset other hconnects.1, hconnects.2⟩) _ _ h

/-- What is reached from a step of a flow is a step of the flow. -/
theorem Reaches.mem {flow : Flow} {start step : Step} (h : flow.Reaches start step)
    (hstart : start ∈ flow) : step ∈ flow := by
  cases h with
  | refl => exact hstart
  | tail _ hlast => exact hlast.1

/-! ## The search -/

/-- Steps lead to another one if it follows one of them. -/
theorem leadTo_iff {steps : List Step} {step : Step} :
    leadTo steps step = true ↔ ∃ other ∈ steps, step.id ∈ other.successors := by
  simp [leadTo]

/-- What is left to look at are the steps that the frontier does not lead to. -/
theorem mem_beyond {frontier unseen : List Step} {step : Step} :
    step ∈ beyond frontier unseen ↔ step ∈ unseen ∧ leadTo frontier step = false := by
  simp [beyond]

/-- What is found is reached. -/
theorem exists_transGen_of_mem_spread {frontier unseen : List Step} {step : Step}
    (h : step ∈ spread frontier unseen) :
    ∃ first ∈ frontier, Relation.TransGen (Connects unseen) first step := by
  fun_induction spread frontier unseen with
  | case1 => cases h
  | case2 frontier unseen found more hround ih =>
    have hfirst : ∀ found' ∈ found :: more, ∃ first ∈ frontier, Connects unseen first found' := by
      intro found' hfound
      rw [← hround] at hfound
      obtain ⟨hunseen, hto⟩ := List.mem_filter.mp hfound
      obtain ⟨first, hfrontier, hid⟩ := leadTo_iff.mp hto
      exact ⟨first, hfrontier, hunseen, hid⟩
    rcases List.mem_append.mp h with h | h
    · obtain ⟨first, hfrontier, hconnects⟩ := hfirst step h
      exact ⟨first, hfrontier, .single hconnects⟩
    · obtain ⟨found', hfound, hrest⟩ := ih h
      obtain ⟨first, hfrontier, hconnects⟩ := hfirst found' hfound
      have hunseen : ∀ other ∈ beyond frontier unseen, other ∈ unseen :=
        fun other hother => (mem_beyond.mp hother).1
      exact ⟨first, hfrontier, .head hconnects (transGen_connects_mono hunseen hrest)⟩

/-- A chain either stays within the first round, or goes on from it through what lies beyond. -/
theorem exists_reflTransGen_of_transGen {frontier unseen : List Step} {first step : Step}
    (hfirst : first ∈ frontier) (h : Relation.TransGen (Connects unseen) first step) :
    ∃ found ∈ unseen.filter (leadTo frontier),
      Relation.ReflTransGen (Connects (beyond frontier unseen)) found step := by
  have hround : ∀ other, other ∈ unseen → leadTo frontier other = true →
      other ∈ unseen.filter (leadTo frontier) := by
    intro other hunseen hto
    exact List.mem_filter.mpr ⟨hunseen, hto⟩
  induction h with
  | single hconnects =>
    exact ⟨_, hround _ hconnects.1 (leadTo_iff.mpr ⟨first, hfirst, hconnects.2⟩), .refl⟩
  | @tail middle last _ hconnects ih =>
    by_cases hto : leadTo frontier last = true
    · exact ⟨last, hround last hconnects.1 hto, .refl⟩
    · obtain ⟨found, hfound, hchain⟩ := ih
      have hbeyond : last ∈ beyond frontier unseen :=
        mem_beyond.mpr ⟨hconnects.1, Bool.eq_false_iff.mpr hto⟩
      exact ⟨found, hfound, hchain.tail ⟨hbeyond, hconnects.2⟩⟩

/-- What is reached is found. -/
theorem mem_spread_of_transGen {frontier unseen : List Step} {first step : Step}
    (hfirst : first ∈ frontier) (h : Relation.TransGen (Connects unseen) first step) :
    step ∈ spread frontier unseen := by
  fun_induction spread frontier unseen generalizing first with
  | case1 frontier unseen hround =>
    obtain ⟨found, hfound, -⟩ := exists_reflTransGen_of_transGen hfirst h
    rw [hround] at hfound
    cases hfound
  | case2 frontier unseen found more hround ih =>
    obtain ⟨found', hfound, hchain⟩ := exists_reflTransGen_of_transGen hfirst h
    rw [hround] at hfound
    rcases Relation.reflTransGen_iff_eq_or_transGen.mp hchain with rfl | hchain
    · exact List.mem_append_left _ hfound
    · exact List.mem_append_right _ (ih hfound hchain)

/-- The search finds exactly what is reached by chains of one connection or more. -/
theorem mem_spread_iff {frontier unseen : List Step} {step : Step} :
    step ∈ spread frontier unseen ↔
      ∃ first ∈ frontier, Relation.TransGen (Connects unseen) first step := by
  constructor
  · exact exists_transGen_of_mem_spread
  · rintro ⟨first, hfirst, hchain⟩
    exact mem_spread_of_transGen hfirst hchain

/-! ## Distinct identifiers -/

/-- If identifiers are distinct, each means the one step that has it. -/
theorem named_eq_self {flow : Flow} (h : (flow.map Step.id).Nodup) : flow.named = flow := by
  induction flow with
  | nil => rfl
  | cons step rest ih =>
    rw [List.map_cons, List.nodup_cons] at h
    have hlater : (rest.any fun later => later.id = step.id) = false := by
      rw [Bool.eq_false_iff, ne_eq, List.any_eq_true]
      rintro ⟨later, hmem, hid⟩
      exact h.1 (List.mem_map.mpr ⟨later, hmem, of_decide_eq_true hid⟩)
    rw [named, hlater, ih h.2]
    rfl

/-- Where identifiers are unique, a step is known by its own. -/
theorem eq_of_id_eq {flow : Flow} (h : (flow.map Step.id).Nodup) {step other : Step}
    (hstep : step ∈ flow) (hother : other ∈ flow) (hid : step.id = other.id) : step = other :=
  List.inj_on_of_nodup_map h hstep hother hid

/-- A chain to another step need not come back to where it starts. -/
theorem eq_or_transGen_of_reaches {flow : Flow} {start step : Step}
    (hback : ∀ other ∈ flow, other.id = start.id → other = start) (h : flow.Reaches start step) :
    step = start ∨ Relation.TransGen
      (Connects (flow.filter fun other => other.id ≠ start.id)) start step := by
  induction h with
  | refl => exact .inl rfl
  | @tail middle last _ hconnects ih =>
    by_cases hid : last.id = start.id
    · exact .inl (hback last hconnects.1 hid)
    · have hlast : Connects (flow.filter fun other => other.id ≠ start.id) middle last :=
        ⟨List.mem_filter.mpr ⟨hconnects.1, decide_eq_true hid⟩, hconnects.2⟩
      rcases ih with rfl | hchain
      · exact .inr (.single hlast)
      · exact .inr (hchain.tail hlast)

/-- In a flow whose identifiers are distinct the search finds exactly what chains lead to. -/
theorem mem_reachable_iff {flow : Flow} (hids : (flow.map Step.id).Nodup) {start step : Step}
    (hstart : start ∈ flow) (hstep : step ∈ flow) :
    step.id ∈ flow.reachable start ↔ flow.Reaches start step := by
  rw [reachable, named_eq_self hids, List.mem_cons, List.mem_map]
  constructor
  · rintro (hid | ⟨other, hfound, hid⟩)
    · rw [eq_of_id_eq hids hstep hstart hid]
    · obtain ⟨first, hfirst, hchain⟩ := mem_spread_iff.mp hfound
      cases List.mem_singleton.mp hfirst
      have hreaches : flow.Reaches start other :=
        (transGen_connects_mono (fun _ => List.mem_of_mem_filter) hchain).to_reflTransGen
      rwa [eq_of_id_eq hids hstep (hreaches.mem hstart) hid.symm]
  · intro h
    have hback : ∀ other ∈ flow, other.id = start.id → other = start :=
      fun other hother hid => eq_of_id_eq hids hother hstart hid
    rcases eq_or_transGen_of_reaches hback h with rfl | hchain
    · exact .inl rfl
    · exact .inr ⟨step, mem_spread_iff.mpr ⟨start, List.mem_singleton_self _, hchain⟩, rfl⟩

end Flow

/-! ## The texts of warnings

The report is read as texts, so the warning about a step is found again in its text: no other
warning starts with its first letter, and the identifier can be read off what follows. -/

namespace Finding

theorem message_unreachable (id : String) : (Finding.unreachable id).message =
    "Step '" ++ id ++ "' is unreachable from the start step" := rfl

/-- The message names the step. -/
theorem eq_of_message_unreachable_eq {id other : String}
    (h : (Finding.unreachable id).message = (Finding.unreachable other).message) : id = other := by
  simpa [message_unreachable] using h

theorem head?_message_noOutput_ne : Finding.noOutput.message.toList.head? ≠ some 'S' := by
  have hmessage : Finding.noOutput.message = "Flow has no output step" := rfl
  simp [hmessage]

end Finding

/-- No warning about the settings of a step starts like one about a step that cannot be reached. -/
theorem Step.head?_message_ne_of_mem_warnings {step : Step} {finding : Finding}
    (h : finding ∈ step.warnings) : finding.message.toList.head? ≠ some 'S' := by
  have hnoBranch : (Finding.noBranch step.id).message =
      "Condition step '" ++ step.id ++ "' has neither onTrue nor onFalse" := rfl
  have hnoCondition : (Finding.noCondition step.id).message =
      "Condition step '" ++ step.id ++ "' has no condition" := rfl
  have hnoBody : (Finding.noBody step.id).message =
      "Loop step '" ++ step.id ++ "' has no onTrue (body) connection" := rfl
  unfold Step.warnings at h
  split at h
  · rcases List.mem_append.mp h with h | h
    · obtain ⟨-, h⟩ := List.mem_ite_nil_right.mp h
      rw [List.mem_singleton.mp h, hnoBranch]
      simp
    · obtain ⟨-, h⟩ := List.mem_ite_nil_right.mp h
      rw [List.mem_singleton.mp h, hnoCondition]
      simp
  · obtain ⟨-, h⟩ := List.mem_ite_nil_right.mp h
    rw [List.mem_singleton.mp h, hnoBody]
    simp
  · cases h

namespace Flow

/-! ## What is warned of -/

/-- All findings about steps that cannot be reached are of one form. -/
theorem exists_eq_of_mem_unreachable {flow : Flow} {finding : Finding}
    (h : finding ∈ flow.unreachable) : ∃ id, finding = .unreachable id := by
  unfold unreachable at h
  split at h
  · cases h
  · obtain ⟨step, -, hfinding⟩ := List.mem_filterMap.mp h
    split at hfinding
    · cases hfinding
    · cases hfinding
      exact ⟨step.id, rfl⟩

/-- A step is warned of exactly if the search from the start step does not come to it. -/
theorem mem_unreachable_iff {flow : Flow} {start : Step} (hstart : flow.start? = some start)
    {id : String} :
    .unreachable id ∈ flow.unreachable ↔
      ∃ step ∈ flow, step.id = id ∧ step.id ∉ flow.reachable start := by
  simp only [unreachable, hstart, List.mem_filterMap]
  constructor
  · rintro ⟨step, hstep, hfinding⟩
    split at hfinding
    · cases hfinding
    · rename_i hreached
      cases hfinding
      exact ⟨step, hstep, rfl, fun h => hreached (List.contains_iff_mem.mpr h)⟩
  · rintro ⟨step, hstep, rfl, hreached⟩
    exact ⟨step, hstep, if_neg fun h => hreached (List.contains_iff_mem.mp h)⟩

/-- Among all warnings, the messages about steps that cannot be reached are those of the search. -/
theorem message_unreachable_mem_warnings_iff {flow : Flow} {id : String} :
    (Finding.unreachable id).message ∈ flow.validate.warnings.map Finding.message ↔
      .unreachable id ∈ flow.unreachable := by
  have hhead : (Finding.unreachable id).message.toList.head? = some 'S' := by
    simp [Finding.message_unreachable]
  rw [List.mem_map]
  constructor
  · rintro ⟨finding, hfinding, hmessage⟩
    rw [← hmessage] at hhead
    rw [validate, List.mem_append, List.mem_append] at hfinding
    rcases hfinding with (hfinding | hfinding) | hfinding
    · split at hfinding
      · cases hfinding
      · cases List.mem_singleton.mp hfinding
        exact absurd hhead Finding.head?_message_noOutput_ne
    · obtain ⟨step, -, hstep⟩ := List.mem_flatMap.mp hfinding
      exact absurd hhead (Step.head?_message_ne_of_mem_warnings hstep)
    · obtain ⟨other, rfl⟩ := exists_eq_of_mem_unreachable hfinding
      rw [← Finding.eq_of_message_unreachable_eq hmessage]
      exact hfinding
  · intro h
    exact ⟨_, List.mem_append_right _ h, rfl⟩

/-- The report warns of a step exactly if no chain of connections leads to it from the first start
step. -/
theorem warns_unreachable_iff {flow : Flow} (hids : (flow.map Step.id).Nodup) {start step : Step}
    (hstart : flow.start? = some start) (hstep : step ∈ flow) :
    (Finding.unreachable step.id).message ∈ flow.validate.warnings.map Finding.message ↔
      ¬flow.Reaches start step := by
  have hmem : start ∈ flow := List.mem_of_find?_eq_some hstart
  rw [message_unreachable_mem_warnings_iff, mem_unreachable_iff hstart]
  constructor
  · rintro ⟨other, hother, hid, hunreached⟩ hreaches
    rw [eq_of_id_eq hids hother hstep hid] at hunreached
    exact hunreached ((mem_reachable_iff hids hmem hstep).mpr hreaches)
  · intro hunreached
    exact ⟨step, hstep, rfl, fun h => hunreached ((mem_reachable_iff hids hmem hstep).mp h)⟩

end Flow

end AgentFlow
