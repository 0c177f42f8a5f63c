import Reshape.Proofs.Engine.Interleaving
import Reshape.Proofs.Engine.Work
import Reshape.Proofs.Stream.Independence

/-!
# Engines and streams

An engine answers what the stream answers: the same events or the failure of the
earliest event that failed, and the same report of success.  There is one
exception.  A stream that failed looks at no later event, while the chunks of an
engine all run; so when a chunk overflows after an event of an earlier chunk has
failed, the stream fails and the engine overflows.
-/

namespace Reshape

open Transformer (successes successTrace)

/-!
## Answers
-/

/-- What a caller is given, with the successes that were reported. -/
abbrev Answer := Except Error (List Event) × List Report

def Transformer.streamAnswer (t : Transformer) (host : Host)
    (options : ReportOptions) (tag : String) (events : List Event) :
    Except Time.Overflow Answer :=
  (t.transformStream host options tag events).map
    fun run => (run.result, successes run.trace)

namespace Engine

open Transformer (BatchOutcome FieldFailure)

def Execution.answer (execution : Execution) : Answer :=
  (execution.result, successes execution.trace)

def batchAnswer (tag : String) (batch : BatchOutcome) : Answer :=
  match batch.result with
  | .error failure => (.error failure.error, [])
  | .ok out =>
      (.ok out, [.success ⟨tag, none⟩ out.length batch.failures.length])

variable {t : Transformer} {host : Host} {options : ReportOptions}
  {tag : String}

theorem streamAnswer_eq (t : Transformer) (host : Host)
    (options : ReportOptions) (tag : String) (events : List Event) :
    t.streamAnswer host options tag events =
      (t.oneByOne host tag 0 events).map (batchAnswer tag) := by
  unfold Transformer.streamAnswer
  rw [Transformer.transformStream_eq_oneByOne, except_map_map]
  apply congrArg (Except.map · (t.oneByOne host tag 0 events))
  funext batch
  show ((t.streamRun options tag batch).result,
        successes (t.streamRun options tag batch).trace) =
      _
  rw [Transformer.streamRun_result, Transformer.successes_streamRun]
  unfold batchAnswer
  cases batch.result <;> rfl

/-!
## The answer of an engine
-/

theorem trace_execute (engine : Engine) (t : Transformer)
    (options : ReportOptions) (schedule : Schedule) (tag : String)
    (length : Nat) (outcomes : List ChunkOutcome) :
    (engine.execute t options schedule tag length outcomes).trace =
      happenings
        (interleave schedule.picks
          (lanes t options tag schedule.waits outcomes)) ++
        match collect outcomes with
        | .error _ => []
        | .ok merged => successTrace tag merged.1.length merged.2 := by
  unfold Execution.trace execute
  cases collect outcomes with
  | error failure =>
      simp only [List.cons_append, List.filterMap_cons, List.filterMap_append,
        Sighting.happening?, happenings_sightings, List.filterMap_nil]
  | ok merged =>
      simp only [List.cons_append, List.filterMap_cons, List.filterMap_append,
        Sighting.happening?, happenings_sightings, List.filterMap_nil,
        List.append_nil]
      rfl

theorem answer_execute (engine : Engine) (t : Transformer)
    (options : ReportOptions) (schedule : Schedule) (tag : String)
    (length : Nat) {outcomes : List ChunkOutcome} {batch : BatchOutcome}
    (h : collect outcomes =
      batch.result.map fun out => (out, batch.failures.length)) :
    (engine.execute t options schedule tag length outcomes).answer =
      batchAnswer tag batch := by
  unfold Execution.answer batchAnswer
  rw [trace_execute, Transformer.successes_append,
    successes_happenings_interleave]
  unfold execute
  rw [h]
  cases batch.result with
  | error failure => rfl
  | ok out => rfl

theorem run_of_outcomes {engine : Engine} {events : List Event}
    {outcomes : List ChunkOutcome}
    (h : engine.outcomes t host tag events = .ok outcomes)
    (options : ReportOptions) (schedule : Schedule) :
    exists execution,
      engine.run t host options schedule tag events = .ok execution ∧
      t.streamAnswer host options tag events = .ok execution.answer := by
  rcases batch_of_outcomes h with ⟨batch, hbatch, hcollect⟩
  refine ⟨engine.execute t options schedule tag events.length outcomes, ?_, ?_⟩
  · unfold run
    rw [h]
    rfl
  · rw [streamAnswer_eq, hbatch,
      answer_execute engine t options schedule tag events.length hcollect]
    rfl

theorem run_of_overflow {engine : Engine} {events : List Event}
    {overflow : Time.Overflow}
    (h : engine.outcomes t host tag events = .error overflow)
    (schedule : Schedule) :
    engine.run t host options schedule tag events = .error overflow := by
  unfold run
  rw [h]
  rfl

/-!
## Where the answers part
-/

section Exception

variable (t : Transformer) (host : Host) (tag : String)

/-- The stream fails, and yet a chunk overflows. -/
def OverflowsAfterFailure (engine : Engine) (events : List Event) : Prop :=
  (exists failure, t.FailsFirst host tag failure events) ∧
    exists chunk, chunk ∈ engine.chunks events ∧
      t.OverflowsFirst host tag chunk.2

end Exception

theorem not_passes_of_overflowsFirst {events : List Event}
    (h : t.OverflowsFirst host tag events) :
    exists event, event ∈ events ∧ Not (t.Passes host tag event) := by
  rcases h with ⟨event, overflow, hreaches, halone⟩
  refine ⟨event, Transformer.mem_of_reaches hreaches, ?_⟩
  intro hpasses
  rcases hpasses with ⟨outcome, record, hok, _⟩
  rw [halone] at hok
  cases hok

/-- When a chunk overflows, the stream overflows as well unless it failed before
it got there. -/
theorem streamAnswer_of_chunk_overflow {engine : Engine} {events : List Event}
    {chunk : Range × List Event} (hchunk : chunk ∈ engine.chunks events)
    (h : t.OverflowsFirst host tag chunk.2) (options : ReportOptions) :
    (exists overflow,
      t.streamAnswer host options tag events = .error overflow) <->
      Not (exists failure, t.FailsFirst host tag failure events) := by
  have hoverflows :
      (exists overflow,
          t.streamAnswer host options tag events = .error overflow) <->
        t.OverflowsFirst host tag events := by
    rw [streamAnswer_eq, ← Transformer.oneByOne_eq_error_iff 0]
    cases t.oneByOne host tag 0 events <;> simp [Except.map]
  rw [hoverflows]
  constructor
  · intro hstream hfails
    rcases hfails with ⟨failure, hfails⟩
    rcases Transformer.oneByOne_of_failsFirst hfails 0 with ⟨batch, hbatch, _⟩
    rcases Transformer.oneByOne_of_overflowsFirst hstream 0 with
      ⟨overflow, hoverflow⟩
    rw [hbatch] at hoverflow
    cases hoverflow
  · intro hfails
    rcases Transformer.passes_or_stops t host tag events with
      hall | hfails' | hstream
    · rcases not_passes_of_overflowsFirst h with ⟨event, hevent, hstops⟩
      have hmem : event ∈ (engine.chunks events).flatMap Prod.snd :=
        List.mem_flatMap.mpr ⟨chunk, hchunk, hevent⟩
      unfold chunks at hmem
      rw [flatMap_deal_chunkRanges] at hmem
      exact absurd (hall event hmem) hstops
    · exact absurd hfails' hfails
    · exact hstream

theorem answers_agree_iff (engine : Engine) (schedule : Schedule)
    (events : List Event) :
    (engine.run t host options schedule tag events).map Execution.answer =
        t.streamAnswer host options tag events <->
      Not (OverflowsAfterFailure t host tag engine events) := by
  cases houtcomes : engine.outcomes t host tag events with
  | ok outcomes =>
      constructor
      · intro _ hexception
        rcases outcomes_eq_error_iff.mpr hexception.right with
          ⟨overflow, hoverflow⟩
        rw [houtcomes] at hoverflow
        cases hoverflow
      · intro _
        rcases run_of_outcomes houtcomes options schedule with
          ⟨execution, hrun, hstream⟩
        rw [hrun, hstream]
        rfl
  | error overflow =>
      rcases outcomes_eq_error_iff.mp ⟨overflow, houtcomes⟩ with
        ⟨chunk, hchunk, hoverflows⟩
      have hstream := streamAnswer_of_chunk_overflow hchunk hoverflows options
      rw [run_of_overflow houtcomes]
      constructor
      · intro hsame hexception
        exact hstream.mp ⟨overflow, hsame.symm⟩ hexception.left
      · intro hexception
        have hnone :
            Not (exists failure, t.FailsFirst host tag failure events) := by
          intro hfails
          exact hexception ⟨hfails, chunk, hchunk, hoverflows⟩
        rcases hstream.mpr hnone with ⟨overflow', hoverflow⟩
        rw [hoverflow]
        rfl

theorem answer_of_run {engine : Engine} {schedule : Schedule}
    {events : List Event} {execution : Execution}
    (h : engine.run t host options schedule tag events = .ok execution) :
    (exists out fieldErrors, execution.result = .ok out ∧
      successes execution.trace =
        [.success ⟨tag, none⟩ out.length fieldErrors]) ∨
    (exists failure, t.FailsFirst host tag failure events ∧
      execution.result = .error failure.error ∧
        successes execution.trace = []) := by
  rcases except_map_eq_ok h with ⟨outcomes, houtcomes, rfl⟩
  rcases batch_of_outcomes houtcomes with ⟨batch, hbatch, hcollect⟩
  have hanswer :=
    answer_execute engine t options schedule tag events.length hcollect
  unfold batchAnswer Execution.answer at hanswer
  cases hresult : batch.result with
  | error failure =>
      rw [hresult] at hanswer
      right
      exact ⟨failure,
        (Transformer.oneByOne_eq_failure_iff 0).mp ⟨batch, hbatch, hresult⟩,
        congrArg Prod.fst hanswer, congrArg Prod.snd hanswer⟩
  | ok out =>
      rw [hresult] at hanswer
      left
      exact ⟨out, batch.failures.length, congrArg Prod.fst hanswer,
        congrArg Prod.snd hanswer⟩

/-!
## In any order
-/

/-- The run of an engine whose workers take the events of their chunks in an
order. -/
def runInOrder (engine : Engine) (t : Transformer) (host : Host)
    (options : ReportOptions) (schedule : Schedule) (tag : String)
    (events : List Event) (order : List Nat) : Except Time.Overflow Execution :=
  (work t host tag order ((engine.chunks events).map Worker.ofChunk)).map
    fun crew =>
    engine.execute t options schedule tag events.length
      (crew.map Worker.outcome)

theorem runInOrder_eq_run {engine : Engine} {events : List Event}
    {order : List Nat}
    (hsees : SeesThrough order ((engine.chunks events).map Worker.ofChunk))
    (schedule : Schedule) :
    engine.runInOrder t host options schedule tag events order =
      engine.run t host options schedule tag events := by
  unfold runInOrder run
  rw [← outcomes_eq_work hsees, except_map_map]
  rfl

theorem runInOrder_answers_as_stream (engine : Engine) (t : Transformer)
    (host : Host) (options : ReportOptions) (schedule : Schedule) (tag : String)
    (events : List Event) (order : List Nat)
    (hsees : SeesThrough order ((engine.chunks events).map Worker.ofChunk)) :
    engine.runInOrder t host options schedule tag events order =
        engine.run t host options schedule tag events ∧
    ((engine.runInOrder t host options schedule tag events order).map
      Execution.answer =
        t.streamAnswer host options tag events <->
      Not (OverflowsAfterFailure t host tag engine events)) ∧
    (forall execution,
      engine.runInOrder t host options schedule tag events order =
        .ok execution ->
      (exists out fieldErrors, execution.result = .ok out ∧
        successes execution.trace =
          [.success ⟨tag, none⟩ out.length fieldErrors]) ∨
      (exists failure, t.FailsFirst host tag failure events ∧
        execution.result = .error failure.error ∧
          successes execution.trace = [])) := by
  have hrun : engine.runInOrder t host options schedule tag events order = _ :=
    runInOrder_eq_run hsees schedule
  refine ⟨hrun, ?_, ?_⟩
  · rw [hrun]
    exact answers_agree_iff engine schedule events
  · intro execution hexecution
    rw [hrun] at hexecution
    exact answer_of_run hexecution

theorem runInOrder_answers_as_stream_two_chunks :
    (Engine.mk 2 (by decide) .zero).runInOrder (Transformer.stamping .omit)
      ⟨[], [], 0⟩ .default
        (.sequential ⟨0⟩) "a.b" [(1, [("id", .int 7)]), (0, []), (1, [])]
          [1, 0, 0] =
      (Engine.mk 2 (by decide) .zero).run (Transformer.stamping .omit)
        ⟨[], [], 0⟩ .default
        (.sequential ⟨0⟩) "a.b" [(1, [("id", .int 7)]), (0, []), (1, [])] ∧
    Not (OverflowsAfterFailure (Transformer.stamping .omit) ⟨[], [], 0⟩ "a.b"
      (Engine.mk 2 (by decide) .zero)
        [(1, [("id", .int 7)]), (0, []), (1, [])]) := by
  have hchunks : (Engine.mk 2 (by decide) .zero).chunks
      [(1, [("id", .int 7)]), (0, []), (1, [])] =
      [(⟨0, 2⟩, [(1, [("id", .int 7)]), (0, [])]), (⟨2, 3⟩, [(1, [])])] := by
    simp [chunks, chunkRanges, rangesFrom, deal, Range.length]
  have hsees : SeesThrough [1, 0, 0]
      (((Engine.mk 2 (by decide) .zero).chunks
        [(1, [("id", .int 7)]), (0, []), (1, [])]).map Worker.ofChunk) := by
    rw [hchunks]
    intro place w hw
    cases place with
    | zero =>
        cases hw
        decide
    | succ place =>
        cases place with
        | zero =>
            cases hw
            decide
        | succ place => cases hw
  have h := runInOrder_answers_as_stream (Engine.mk 2 (by decide) .zero)
    (Transformer.stamping .omit) ⟨[], [], 0⟩ .default (.sequential ⟨0⟩) "a.b"
    [(1, [("id", .int 7)]), (0, []), (1, [])] [1, 0, 0] hsees
  refine ⟨h.left, h.right.left.mp ?_⟩
  unfold runInOrder
  rw [hchunks]
  rfl

def stampingLocally : Transformer :=
  ⟨[⟨"x", .raw ⟨.tagParts, [.position 5]⟩⟩], .keepAll, none, .fail, none,
    some ("ts", ⟨.iso8601, true⟩)⟩

/-- The first event fails, and the second has no local time an hour ahead of
universal time. -/
theorem run_overflows_where_stream_fails :
    stampingLocally.streamAnswer ⟨[], [], 3600⟩ .default "a"
      [(0, []), (8210266876799, [])] =
        .ok (.error (.evaluation "x" (.indexOutOfRange "tag_parts" 5 1)), []) ∧
      (Engine.mk 1 (by decide) .zero).run stampingLocally ⟨[], [], 3600⟩
        .default (.sequential ⟨0⟩)
        "a" [(0, []), (8210266876799, [])] = .error ⟨⟩ := by
  have hranges : chunkRanges 2 1 (by decide) = [⟨0, 1⟩, ⟨1, 2⟩] := by
    simp [chunkRanges, rangesFrom]
  constructor
  · rfl
  · unfold run outcomes
    show Except.map _ ((deal (chunkRanges 2 1 _) _).mapM _) = _
    rw [hranges]
    rfl

end Engine
end Reshape
