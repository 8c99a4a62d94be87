import AgentFlow.Proofs.Decode.Written
import AgentFlow.Proofs.Execution.SpanContent
import AgentFlow.Proofs.Execution.StepLimit

/-!
# Results of executions read back

A result that is written as a value can always be read back, and so can every span in it. But a span
keeps apart what a reader does not: arguments or an output that are null are written as null, while
those that are absent are left out, and a reader takes both for absent. A tool that cannot be called
leaves such a span, since its output is null. So a result comes back as it was exactly if no span of
it has null where it may have nothing.

Points in time are written as texts; that a text gives its point in time back is left to the reader
of such texts (`Timestamp.ReadsBack`).
-/

namespace AgentFlow

/-- The text of a point in time denotes it. -/
def Timestamp.ReadsBack (t : Timestamp) : Prop :=
  Timestamp.parse t.render = .ok t

theorem Timestamp.readsBack_epoch : epoch.ReadsBack := rfl

namespace RecordType

/-- Of an optional value that is null nothing comes back. -/
theorem nullable_json_of_get? {type : RecordType} {conventions : Conventions} {fields : Fields Json}
    {name : String} {v : Option Json} (hget : fields.get? name = v) :
    (type.slotOf conventions fields name).nullable Decode.json = .ok (Json.nonNull? v) := by
  rcases slotOf_cases type conventions fields name with ⟨i, hnone, hslot⟩ | ⟨i, w, hsome, hslot⟩
  · rw [hslot, ← hget, hnone]
    rfl
  · rw [hslot, ← hget, hsome]
    cases w <;> rfl

end RecordType

/-- Dropping nulls changes nothing but a null. -/
theorem Json.nonNull?_eq_self_iff {v : Option Json} : Json.nonNull? v = v ↔ v ≠ some .null := by
  cases v with
  | none => exact iff_of_true rfl nofun
  | some v =>
    cases v with
    | null => exact iff_of_false nofun (not_not_intro rfl)
    | _ => exact iff_of_true rfl nofun

/-! ## Spans -/

/-- A kind of span is read from its name. -/
theorem SpanKind.reads_name (kind : SpanKind) : SpanKind.read.Reads (.string kind.name) kind := by
  intro conventions
  change SpanKind.ofName kind.name = .ok kind
  rw [SpanKind.ofName, SpanKind.ofName?_name]

/-- A point in time is read from what it is rendered as, if that can be read back. -/
theorem Decode.reads_timestamp {t : Timestamp} (h : t.ReadsBack) :
    Decode.timestamp.Reads (.string t.render) t := by
  intro conventions
  change (Timestamp.parse t.render).mapError DecodeError.badTimestamp = .ok t
  rw [h]
  rfl

namespace Span

/-- The span without the arguments and the output of a tool that are null. -/
def withoutNulls (span : Span) : Span :=
  { span with
    toolArgs := Json.nonNull? span.toolArgs
    toolResult := Json.nonNull? span.toolResult }

/-- A span loses nothing exactly if neither arguments nor output of its tool are null. -/
theorem withoutNulls_eq_iff (span : Span) :
    span.withoutNulls = span ↔ span.toolArgs ≠ some .null ∧ span.toolResult ≠ some .null := by
  rw [← Json.nonNull?_eq_self_iff, ← Json.nonNull?_eq_self_iff]
  constructor
  · intro h
    exact ⟨congrArg toolArgs h, congrArg toolResult h⟩
  · rintro ⟨hargs, hresult⟩
    rw [withoutNulls, hargs, hresult]

/-- A span comes back without its nulls. -/
theorem reads_toJson {span : Span} (hstart : span.startedAt.ReadsBack)
    (hend : span.endedAt.ReadsBack) : Span.read.Reads span.toJson span.withoutNulls := by
  refine RecordType.reads_ofEntries fun conventions => ?_
  -- From the last field to the first.
  refine Checked.seq_ok_of ?_ (RecordType.nullable_of_get? Decode.reads_optional_text (by simp))
  refine Checked.seq_ok_of ?_ (RecordType.nullable_json_of_get? (by simp))
  refine Checked.seq_ok_of ?_ (RecordType.nullable_json_of_get? (by simp))
  refine Checked.seq_ok_of ?_ (RecordType.nullable_of_get? Decode.reads_optional_text (by simp))
  refine Checked.seq_ok_of ?_ (RecordType.nullable_of_get? Decode.reads_optional_count32 (by simp))
  refine Checked.seq_ok_of ?_ (RecordType.nullable_of_get? Decode.reads_optional_count32 (by simp))
  refine Checked.seq_ok_of ?_ (RecordType.nullable_of_get? Decode.reads_optional_text (by simp))
  refine Checked.seq_ok_of ?_
    (RecordType.required_of_get? (Decode.reads_count64 span.durationMs) (by simp))
  refine Checked.seq_ok_of ?_
    (RecordType.required_of_get? (Decode.reads_timestamp hend) (by simp))
  refine Checked.seq_ok_of ?_
    (RecordType.required_of_get? (Decode.reads_timestamp hstart) (by simp))
  refine Checked.seq_ok_of ?_ (RecordType.nullable_of_get? Decode.reads_optional_text (by simp))
  refine Checked.seq_ok_of ?_
    (RecordType.required_of_get? (Decode.reads_text span.output) (by simp))
  refine Checked.seq_ok_of ?_
    (RecordType.required_of_get? (Decode.reads_text span.input) (by simp))
  refine Checked.seq_ok_of ?_ (RecordType.nullable_of_get? Decode.reads_optional_text (by simp))
  refine Checked.seq_ok_of ?_ (RecordType.nullable_of_get? Decode.reads_optional_text (by simp))
  refine Checked.seq_ok_of ?_ (RecordType.required_of_get? span.kind.reads_name (by simp))
  refine Checked.seq_ok_of ?_
    (RecordType.required_of_get? (Decode.reads_count64 span.sequence) (by simp))
  refine Checked.seq_ok_of ?_ (RecordType.nullable_of_get? Decode.reads_optional_text (by simp))
  refine Checked.seq_ok_of ?_
    (RecordType.required_of_get? (Decode.reads_text span.attemptId) (by simp))
  exact Checked.map_ok_of (RecordType.required_of_get? (Decode.reads_text span.id) (by simp))

end Span

/-! ## Results -/

namespace ExecutionResult

/-- A result comes back with its spans without nulls. -/
theorem reads_toJson {result : ExecutionResult} (hsteps : result.stepsExecuted < 2 ^ 64)
    (htimes : ∀ span ∈ result.spans, span.startedAt.ReadsBack ∧ span.endedAt.ReadsBack) :
    ExecutionResult.read.Reads result.toJson
      { result with spans := result.spans.map Span.withoutNulls } := by
  have hspans := Decode.reads_list fun span hspan =>
    Span.reads_toJson (htimes span hspan).1 (htimes span hspan).2
  refine RecordType.reads_ofEntries fun conventions => ?_
  refine Checked.seq_ok_of ?_
    (RecordType.required_of_get? (Decode.reads_map result.vars) (by simp))
  refine Checked.seq_ok_of ?_
    (RecordType.required_of_get? (Decode.reads_size hsteps) (by simp))
  refine Checked.seq_ok_of ?_
    (RecordType.required_of_get? (Decode.reads_count64 result.durationMs) (by simp))
  refine Checked.seq_ok_of ?_ (RecordType.nullable_of_get? Decode.reads_optional_text (by simp))
  refine Checked.seq_ok_of ?_ (RecordType.required_of_get? hspans (by simp))
  refine Checked.seq_ok_of ?_
    (RecordType.required_of_get? (Decode.reads_text result.output) (by simp))
  exact Checked.map_ok_of
    (RecordType.required_of_get? (Decode.reads_bool result.success) (by simp))

/-- A result comes back equal exactly if no span has a null to lose. -/
theorem read_eq_self_iff {result : ExecutionResult} (hsteps : result.stepsExecuted < 2 ^ 64)
    (htimes : ∀ span ∈ result.spans, span.startedAt.ReadsBack ∧ span.endedAt.ReadsBack) :
    read .json (.value result.toJson) = .ok result ↔
      ∀ span ∈ result.spans, span.toolArgs ≠ some .null ∧ span.toolResult ≠ some .null := by
  have hread : read .json (.value result.toJson) =
      .ok { result with spans := result.spans.map Span.withoutNulls } :=
    reads_toJson hsteps htimes .json
  rw [hread]
  constructor
  · intro h span hspan
    have hspans : result.spans.map Span.withoutNulls = result.spans :=
      congrArg ExecutionResult.spans (Except.ok.inj h)
    exact span.withoutNulls_eq_iff.mp (Decode.map_eq_self_iff.mp hspans span hspan)
  · intro h
    rw [Decode.map_eq_self_iff.mpr fun span hspan => span.withoutNulls_eq_iff.mpr (h span hspan)]

end ExecutionResult

/-! ## Runs -/

variable {σ : Type} {collaborators : Collaborators σ}

/-- The span of a step is free of nulls unless the step has called a tool whose output is null. -/
theorem Walk.addedSpan?_without_nulls_iff (hrecord : collaborators.RecordsAsDrafted)
    {visit : Step × Walk σ}
    (hsupplied : visit.2.execution.suppliedSpan? collaborators visit.1 = none) :
    (∀ span, addedSpan? collaborators .builtin visit = some span →
      span.toolArgs ≠ some .null ∧ span.toolResult ≠ some .null) ↔
    ∀ outcome ∈ visit.2.execution.toolOutcome? collaborators visit.1,
      outcome.result.output ≠ .null := by
  obtain ⟨step, walk⟩ := visit
  cases hhandler : (Handlers.builtin step.kind : Option (Handler σ)) with
  | none =>
    have hoff : walk.execution.toolOutcome? collaborators step = none :=
      if_neg fun hkind => by
        rw [hkind] at hhandler
        cases hhandler
    rw [addedSpan?_of_unknown hhandler, hoff]
    exact iff_of_true (fun span h => by cases h) fun outcome h => by cases h
  | some handler =>
    have hanswer : step.answer? collaborators walk.execution =
        some (handler collaborators step walk.execution).1 := by
      rw [Step.answer?, hhandler, Option.map_some]
    obtain ⟨span, hadded, htells⟩ := tells_of_addedSpan? hrecord hsupplied hanswer
    have hspan : (∀ other, addedSpan? collaborators .builtin (step, walk) = some other →
        other.toolArgs ≠ some .null ∧ other.toolResult ≠ some .null) ↔
        span.toolResult ≠ some .null := by
      rw [hadded]
      simp only [Option.some.injEq, forall_eq', htells.toolArgs, ne_eq, not_false_eq_true, true_and]
    rw [hspan, htells.toolResult]
    cases walk.execution.toolOutcome? collaborators step with
    | none => exact iff_of_true (Option.some_ne_none _).symm fun outcome h => by cases h
    | some outcome => simp

namespace Task

/-- Where tools supply no spans, the trace of a run is free of nulls exactly if their outputs
are. -/
theorem spans_without_nulls_iff (hrecord : collaborators.RecordsAsDrafted) {task : Task} {world : σ}
    (hsupplied : ∀ visit ∈ task.itinerary collaborators .builtin world,
      visit.2.execution.suppliedSpan? collaborators visit.1 = none) :
    (∀ span ∈ (task.run collaborators .builtin world).1.result.spans,
      span.toolArgs ≠ some .null ∧ span.toolResult ≠ some .null) ↔
    ∀ visit ∈ task.itinerary collaborators .builtin world,
      ∀ outcome ∈ visit.2.execution.toolOutcome? collaborators visit.1,
        outcome.result.output ≠ .null := by
  cases hflow : task.flow with
  | nil =>
    have hentry : task.flow.entry? = none := Flow.entry?_of_eq_nil hflow
    have hvisits : task.itinerary collaborators .builtin world = [] := by
      simp only [itinerary, hentry]
    rw [hvisits]
    refine iff_of_true (fun span hspan => ?_) fun visit hvisit => absurd hvisit List.not_mem_nil
    obtain ⟨hargs, hresult⟩ := spans_of_no_steps hrecord world hflow span hspan
    rw [hargs, hresult]
    exact ⟨(Option.some_ne_none _).symm, (Option.some_ne_none _).symm⟩
  | cons first rest =>
    rw [spans_run collaborators world (hflow ▸ List.cons_ne_nil first rest),
      List.forall_mem_filterMap]
    exact forall₂_congr fun visit hvisit =>
      Walk.addedSpan?_without_nulls_iff hrecord (hsupplied visit hvisit)

/-- **What comes back of the result of a run.** However a run goes whose limit of steps fits 64
bits, its result can be read back from its value if the points in time in it can, and comes back
with all that it had except arguments and outputs of tools that are null. So it comes back equal
exactly if no span has such a null; with the built-in handlers, a recorder that takes drafts as they
are and tools that supply no spans, that is if no tool has null as its output. -/
theorem read_result (collaborators : Collaborators σ) (handlers : Handlers σ) (task : Task)
    (world : σ) (duration : UInt64) (hlimit : task.options.maxSteps < 2 ^ 64)
    (htimes : ∀ span ∈ (task.run collaborators handlers world).1.result.spans,
      span.startedAt.ReadsBack ∧ span.endedAt.ReadsBack) :
    let result := { (task.run collaborators handlers world).1.result with durationMs := duration }
    let readBack := ExecutionResult.read .json (.value result.toJson)
    readBack = .ok { result with spans := result.spans.map Span.withoutNulls } ∧
    (readBack = .ok result ↔
      ∀ span ∈ result.spans, span.toolArgs ≠ some .null ∧ span.toolResult ≠ some .null) ∧
    (handlers = .builtin → collaborators.RecordsAsDrafted →
      (∀ visit ∈ task.itinerary collaborators handlers world,
        visit.2.execution.suppliedSpan? collaborators visit.1 = none) →
      (readBack = .ok result ↔
        ∀ visit ∈ task.itinerary collaborators handlers world,
          ∀ outcome ∈ visit.2.execution.toolOutcome? collaborators visit.1,
            outcome.result.output ≠ .null)) := by
  intro result readBack
  have hsteps : result.stepsExecuted < 2 ^ 64 :=
    Nat.lt_of_le_of_lt (stepsExecuted_run_le task collaborators handlers world) hlimit
  have hself := ExecutionResult.read_eq_self_iff hsteps htimes
  refine ⟨ExecutionResult.reads_toJson hsteps htimes .json, hself, ?_⟩
  rintro rfl hrecord hsupplied
  exact hself.trans (spans_without_nulls_iff hrecord hsupplied)

/-- A tool gives a text, and the result of the run comes back as it was. -/
theorem read_result_of_answer :
    let call : Step := { id := "call", kind := .tool, config := [("toolName", .string "search")] }
    let task : Task := { agent := {}, flow := [call], input := {}, options := {} }
    let world : Playback := { outcomes := [.ok { result := .ok (.string "found") }] }
    let result :=
      { (task.run Playback.scripted .builtin world).1.result with durationMs := 5 }
    result.spans.map Span.toolResult = [some (.string "found")] ∧
      ExecutionResult.read .json (.value result.toJson) = .ok result := by
  intro call task world result
  have hspans : result.spans = [_] := rfl
  have htimes : ∀ span ∈ result.spans, span.startedAt.ReadsBack ∧ span.endedAt.ReadsBack := by
    rw [hspans, List.forall_mem_singleton]
    exact ⟨Timestamp.readsBack_epoch, Timestamp.readsBack_epoch⟩
  obtain ⟨-, hself, -⟩ :=
    read_result Playback.scripted .builtin task world 5 (by decide) htimes
  refine ⟨rfl, hself.mpr ?_⟩
  change ∀ span ∈ result.spans, _
  rw [hspans, List.forall_mem_singleton]
  exact ⟨nofun, nofun⟩

/-- A tool cannot be called. Its output is null then, and the result of the run does not come back
as it was. -/
theorem read_ne_of_failed_call :
    let call : Step := { id := "call", kind := .tool, config := [("toolName", .string "search")] }
    let task : Task := { agent := {}, flow := [call], input := {}, options := {} }
    let world : Playback := { outcomes := [.error "down"] }
    let result := (task.run Playback.scripted .builtin world).1.result
    result.spans.map Span.toolResult = [some .null] ∧
      ExecutionResult.read .json (.value result.toJson) ≠ .ok result := by
  intro call task world result
  have hspans : result.spans = [_] := rfl
  have htimes : ∀ span ∈ result.spans, span.startedAt.ReadsBack ∧ span.endedAt.ReadsBack := by
    rw [hspans, List.forall_mem_singleton]
    exact ⟨Timestamp.readsBack_epoch, Timestamp.readsBack_epoch⟩
  have hsteps : result.stepsExecuted < 2 ^ 64 := by decide
  refine ⟨rfl, fun hback => ?_⟩
  have hfree := (ExecutionResult.read_eq_self_iff hsteps htimes).mp hback
  rw [hspans, List.forall_mem_singleton] at hfree
  exact hfree.2 rfl

end Task

end AgentFlow
