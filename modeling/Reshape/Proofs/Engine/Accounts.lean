import Reshape.Proofs.Engine.Calls
import Reshape.Proofs.Engine.Progress

/-!
# Accounts of runs

The metrics after a run and its progress are told chunk by chunk, whatever the
schedule: so many chunks, so many events and errors in those that are cleared.
A run takes over nothing from the runs before it but their number.
-/

namespace Reshape
namespace Engine

/-!
## The account of a run
-/

/-- A call to an engine, with what the machine makes of it. -/
structure Call where
  transformer : Transformer
  host : Host
  options : ReportOptions
  schedule : Schedule
  tag : String
  events : List Event

namespace Progress

def started? : Progress -> Option Range
  | .chunkStarted start events => some ⟨start, start + events⟩
  | _ => none

def finished? : Progress -> Option (Nat × Nat)
  | .chunkFinished events fieldErrors => some (events, fieldErrors)
  | _ => none

def failed? : Progress -> Option Nat
  | .chunkFailed start => some start
  | _ => none

end Progress

namespace Call

section Chunked

variable (call : Call) (size : Nat) (positive : 0 < size)

def chunks : List (Range × List Event) :=
  deal (chunkRanges call.events.length size positive) call.events

def cleared : List (Range × List Event) :=
  (call.chunks size positive).filter
    fun chunk => call.transformer.Clears call.host call.tag chunk.2

def chunkLanes : List (List Progress) :=
  (call.chunks size positive).mapIdx fun i chunk =>
    chunkProgress call.transformer call.host call.tag
      (call.schedule.waits.getD i ⟨0⟩) chunk

end Chunked

def run (call : Call) (engine : Engine) : Except Time.Overflow Execution :=
  engine.run call.transformer call.host call.options call.schedule call.tag
    call.events

def executed (call : Call) (engine : Engine) (outcomes : List ChunkOutcome) :
    Execution :=
  engine.execute call.transformer call.options call.schedule call.tag
    call.events.length outcomes

end Call

/-- The metrics and the progress of a run describe the call and nothing before
it but the number of runs. -/
structure Accounts (size : Nat) (positive : 0 < size) (call : Call)
    (number : Nat) (execution : Execution) : Prop where
  run : execution.engine.metrics.runId = .ofNat number
  /-- The number of events divided by the size of a chunk, rounded up. -/
  chunksStarted : execution.engine.metrics.chunksStarted =
    .ofNat ((call.events.length + size - 1) / size)
  chunksFinished : execution.engine.metrics.chunksFinished =
    .ofNat ((call.events.length + size - 1) / size)
  eventsProcessed : execution.engine.metrics.eventsProcessed =
    .ofNat ((call.cleared size positive).map fun chunk => chunk.2.length).sum
  allProcessed : forall out, execution.result = .ok out ->
    execution.engine.metrics.eventsProcessed = .ofNat call.events.length
  fieldErrors : execution.engine.metrics.fieldErrors =
    .ofNat ((call.cleared size positive).map fun chunk =>
      call.transformer.errorCount call.host call.tag chunk.2).sum
  progress : exists between,
    execution.progress = .runStarted call.tag call.events.length :: between ++
      [.runFinished call.schedule.told execution.engine.metrics.snapshot] ∧
    Interleaved (call.chunkLanes size positive) between
  /-- The chunks that are started have each position once, and are neither empty
  nor too long. -/
  started : exists ranges,
    (execution.progress.filterMap Progress.started?).Perm ranges ∧
    ranges.flatMap Range.positions = List.range call.events.length ∧
    forall range, range ∈ ranges -> 0 < range.length ∧ range.length ≤ size
  eventsTold : execution.engine.metrics.eventsProcessed =
    .ofNat ((execution.progress.filterMap Progress.finished?).map Prod.fst).sum
  errorsTold : execution.engine.metrics.fieldErrors =
    .ofNat ((execution.progress.filterMap Progress.finished?).map Prod.snd).sum
  failed : (exists start, .chunkFailed start ∈ execution.progress) <->
    exists error, execution.result = .error error

/-!
## Chunks of a call
-/

section Chunked

variable {call : Call} {size : Nat} {positive : 0 < size}

theorem flatMap_if_singleton {α β : Type} (p : α -> Prop) [DecidablePred p]
    (f : α -> β) (items : List α) :
    (items.flatMap fun a => if p a then [f a] else []) =
      (items.filter fun a => p a).map f := by
  induction items with
  | nil => rfl
  | cons a rest ih =>
      rw [List.flatMap_cons, List.filter_cons, ih]
      by_cases ha : p a
      · rw [if_pos ha, if_pos (decide_eq_true ha)]
        rfl
      · rw [if_neg ha, if_neg (by simpa using ha)]
        rfl

section Told

variable {between : List Progress}

theorem perm_finished
    (h : Interleaved (call.chunkLanes size positive) between) :
    (between.filterMap Progress.finished?).Perm
      ((call.cleared size positive).map fun chunk =>
        (chunk.2.length,
          call.transformer.errorCount call.host call.tag chunk.2)) := by
  have hperm :=
    perm_of_interleaved_progress (f := Progress.finished?) h fun _ => rfl
  have hchunk : forall chunk,
      (chunkWork call.transformer call.host call.tag chunk).filterMap
        Progress.finished? =
        if call.transformer.Clears call.host call.tag chunk.2 then
          [(chunk.2.length,
              call.transformer.errorCount call.host call.tag chunk.2)]
            else [] := by
    intro chunk
    unfold chunkWork
    split <;> rfl
  simp only [hchunk] at hperm
  rw [flatMap_if_singleton] at hperm
  exact hperm

theorem perm_started (h : Interleaved (call.chunkLanes size positive) between) :
    (between.filterMap Progress.started?).Perm
      ((call.chunks size positive).map Prod.fst) := by
  have hperm :=
    perm_of_interleaved_progress (f := Progress.started?) h fun _ => rfl
  have hchunk : forall chunk, chunk ∈ call.chunks size positive ->
      (chunkWork call.transformer call.host call.tag chunk).filterMap
        Progress.started? =
        [chunk.1] := by
    intro chunk hchunk
    have hrange : chunk.1 ∈ chunkRanges call.events.length size positive := by
      rw [← map_fst_deal (chunkRanges call.events.length size positive)
        call.events]
      exact List.mem_map_of_mem hchunk
    have hstop : chunk.1.start + chunk.1.length = chunk.1.stop := by
      have hlength := (bounded_of_mem_rangesFrom hrange).left
      unfold Range.length at hlength ⊢
      lia
    have hstarted :
        (chunkWork call.transformer call.host call.tag chunk).filterMap
            Progress.started? =
          [⟨chunk.1.start, chunk.1.start + chunk.1.length⟩] := by
      unfold chunkWork
      split <;> rfl
    rw [hstarted, hstop]
  rw [List.flatMap_congr hchunk, ← List.map_eq_flatMap] at hperm
  exact hperm

theorem exists_failed_iff
    (h : Interleaved (call.chunkLanes size positive) between) :
    (exists start, .chunkFailed start ∈ between) <->
      exists chunk, chunk ∈ call.chunks size positive ∧
        Not (call.transformer.Clears call.host call.tag chunk.2) := by
  have hperm :=
    perm_of_interleaved_progress (f := Progress.failed?) h fun _ => rfl
  have hchunk : forall chunk,
      (chunkWork call.transformer call.host call.tag chunk).filterMap
        Progress.failed? =
        if call.transformer.Clears call.host call.tag chunk.2 then []
        else [chunk.1.start] := by
    intro chunk
    unfold chunkWork
    split <;> rfl
  constructor
  · intro h
    rcases h with ⟨start, hstart⟩
    have hmem :=
      hperm.mem_iff.mp
        (List.mem_filterMap.mpr ⟨.chunkFailed start, hstart, rfl⟩)
    rcases List.mem_flatMap.mp hmem with ⟨chunk, hin, hshows⟩
    refine ⟨chunk, hin, ?_⟩
    intro hclears
    rw [hchunk, if_pos hclears] at hshows
    cases hshows
  · intro h
    rcases h with ⟨chunk, hin, hstops⟩
    have hshows : chunk.1.start ∈ (chunkWork call.transformer call.host call.tag
        chunk).filterMap Progress.failed? := by
      rw [hchunk, if_neg hstops]
      exact List.mem_singleton_self _
    have hmem := hperm.mem_iff.mpr (List.mem_flatMap.mpr ⟨chunk, hin, hshows⟩)
    rcases List.mem_filterMap.mp hmem with ⟨progress, hprogress, hfailed⟩
    cases progress with
    | chunkFailed start => exact ⟨start, hprogress⟩
    | _ => cases hfailed

end Told

theorem flatMap_positions_chunks (call : Call) (size : Nat)
    (positive : 0 < size) :
    ((call.chunks size positive).map Prod.fst).flatMap Range.positions =
      List.range call.events.length := by
  have hrow :=
    flatMap_positions_of_inRow
      (inRow_deal_chunkRanges size positive call.events)
  rw [flatMap_deal_chunkRanges] at hrow
  rw [List.flatMap_map, List.range_eq_range']
  exact hrow

theorem sum_lengths_chunks (call : Call) (size : Nat) (positive : 0 < size) :
    ((call.chunks size positive).map fun chunk => chunk.2.length).sum =
      call.events.length := by
  calc
    ((call.chunks size positive).map fun chunk => chunk.2.length).sum =
        ((call.chunks size positive).flatMap Prod.snd).length :=
      List.length_flatMap.symm
    _ = call.events.length := congrArg List.length
      (flatMap_deal_chunkRanges size positive call.events)

theorem sum_eventsDone (call : Call) (size : Nat) (positive : 0 < size) :
    ((call.chunks size positive).map
        (chunkTotal call.transformer call.host call.tag
          Update.eventsDone)).sum =
      ((call.cleared size positive).map fun chunk => chunk.2.length).sum := by
  unfold Call.cleared
  rw [sum_map_filter]
  exact congrArg List.sum (List.map_congr_left fun chunk _ => Nat.zero_add _)

theorem sum_errorsMet (call : Call) (size : Nat) (positive : 0 < size) :
    ((call.chunks size positive).map
        (chunkTotal call.transformer call.host call.tag Update.errorsMet)).sum =
      ((call.cleared size positive).map fun chunk =>
        call.transformer.errorCount call.host call.tag chunk.2).sum := by
  unfold Call.cleared
  rw [sum_map_filter]
  exact congrArg List.sum (List.map_congr_left fun chunk _ => Nat.zero_add _)

end Chunked

/-!
## One run
-/

section Run

variable {call : Call} {outcomes : List ChunkOutcome} (engine : Engine)
  (h : List.Forall₂ (Settled call.transformer call.host call.tag)
    (call.chunks engine.chunkSize engine.positive) outcomes)

include h

theorem counter_executed {counter : Metrics -> UInt64} {amount : Update -> Nat}
    (hadds : Metrics.Adds counter amount)
    (hzero : counter (engine.metrics.apply .beginRun) = 0)
    (hthrottled : forall wait, amount (.throttled wait) = 0)
    (hend : forall elapsed, amount (.endRun elapsed) = 0) :
    counter (call.executed engine outcomes).engine.metrics =
      .ofNat
        ((call.chunks engine.chunkSize engine.positive).map
          (chunkTotal call.transformer call.host call.tag amount)).sum := by
  unfold Call.executed
  rw [metrics_execute hadds hend, hzero, total_lanes hthrottled h,
    UInt64.zero_add]

theorem runId_executed :
    (call.executed engine outcomes).engine.metrics.runId =
      engine.metrics.runId + 1 := by
  have hnone : ((call.chunks engine.chunkSize engine.positive).map
      (chunkTotal call.transformer call.host call.tag fun _ => 0)).sum = 0 := by
    apply List.sum_eq_zero
    intro amount hamount
    rcases List.mem_map.mp hamount with ⟨chunk, _, rfl⟩
    unfold chunkTotal
    split <;> rfl
  unfold Call.executed
  rw [metrics_execute Metrics.adds_runId (fun _ => rfl),
    total_lanes (fun _ => rfl) h, hnone]
  exact UInt64.add_zero _

theorem chunkCounter_executed {counter : Metrics -> UInt64}
    {amount : Update -> Nat} (hadds : Metrics.Adds counter amount)
    (hzero : counter (engine.metrics.apply .beginRun) = 0)
    (hthrottled : forall wait, amount (.throttled wait) = 0)
    (hend : forall elapsed, amount (.endRun elapsed) = 0)
    (hevents :
      forall events fieldErrors,
        amount (.eventsProcessed events fieldErrors) = 0)
    (hone : amount .chunkStarted + amount .chunkEnded = 1) :
    counter (call.executed engine outcomes).engine.metrics =
      .ofNat
        ((call.events.length + engine.chunkSize - 1) / engine.chunkSize) := by
  have hchunk : forall chunk,
      chunkTotal call.transformer call.host call.tag amount chunk = 1 := by
    intro chunk
    unfold chunkTotal
    rw [hevents, ite_self, Nat.zero_add]
    exact hone
  have hsum : ((call.chunks engine.chunkSize engine.positive).map
      (chunkTotal call.transformer call.host call.tag amount)).sum =
      (call.chunks engine.chunkSize engine.positive).length := by
    rw [funext hchunk, List.map_const', List.sum_replicate_nat, Nat.mul_one]
  rw [counter_executed engine h hadds hzero hthrottled hend, hsum]
  exact congrArg UInt64.ofNat
    (length_deal_chunkRanges engine.chunkSize engine.positive call.events)

theorem eventsProcessed_executed :
    (call.executed engine outcomes).engine.metrics.eventsProcessed =
      .ofNat
        ((call.cleared engine.chunkSize engine.positive).map
          fun chunk => chunk.2.length).sum := by
  rw [counter_executed engine h Metrics.adds_eventsProcessed rfl (fun _ => rfl)
      fun _ => rfl,
    sum_eventsDone]

theorem fieldErrors_executed :
    (call.executed engine outcomes).engine.metrics.fieldErrors =
      .ofNat ((call.cleared engine.chunkSize engine.positive).map fun chunk =>
        call.transformer.errorCount call.host call.tag chunk.2).sum := by
  rw [counter_executed engine h Metrics.adds_fieldErrors rfl (fun _ => rfl)
      fun _ => rfl,
    sum_errorsMet]

theorem exists_error_executed_iff :
    (exists error, (call.executed engine outcomes).result = .error error) <->
      exists chunk, chunk ∈ call.chunks engine.chunkSize engine.positive ∧
        Not (call.transformer.Clears call.host call.tag chunk.2) := by
  rw [← exists_collect_eq_error_iff h]
  unfold Call.executed execute
  cases collect outcomes with
  | error failure => exact iff_of_true ⟨failure.error, rfl⟩ ⟨failure, rfl⟩
  | ok merged =>
      apply iff_of_false
      · intro herror
        rcases herror with ⟨error, herror⟩
        cases herror
      · intro herror
        rcases herror with ⟨failure, herror⟩
        cases herror

theorem eventsProcessed_of_ok {out : List Event}
    (hout : (call.executed engine outcomes).result = .ok out) :
    (call.executed engine outcomes).engine.metrics.eventsProcessed =
      .ofNat call.events.length := by
  have hall : call.cleared engine.chunkSize engine.positive =
      call.chunks engine.chunkSize engine.positive := by
    apply List.filter_eq_self.mpr
    intro chunk hchunk
    apply decide_eq_true
    by_contra hstops
    rcases (exists_error_executed_iff engine h).mpr ⟨chunk, hchunk, hstops⟩ with
      ⟨error, herror⟩
    rw [hout] at herror
    cases herror
  rw [eventsProcessed_executed engine h, hall, sum_lengths_chunks]

theorem progress_executed :
    exists between,
      (call.executed engine outcomes).progress =
        .runStarted call.tag call.events.length :: between ++
          [.runFinished call.schedule.told
            (call.executed engine outcomes).engine.metrics.snapshot] ∧
      Interleaved (call.chunkLanes engine.chunkSize engine.positive) between :=
  ⟨_,
    progress_execute engine call.transformer call.options call.schedule call.tag
      call.events.length outcomes,
    interleaved_progress h call.options call.schedule.picks call.schedule.waits⟩

theorem accounts_executed {number : Nat}
    (hnumber : engine.metrics.runId + 1 = .ofNat number) :
    Accounts engine.chunkSize engine.positive call number
      (call.executed engine outcomes) := by
  rcases progress_executed engine h with ⟨between, hprogress, hbetween⟩
  have hshown : forall {β : Type} (f : Progress -> Option β),
      (forall tag events, f (.runStarted tag events) = none) ->
      (forall told metrics, f (.runFinished told metrics) = none) ->
      (call.executed engine outcomes).progress.filterMap f =
        between.filterMap f := by
    intro β f hstart hend
    rw [hprogress, List.cons_append, List.filterMap_cons_none (hstart _ _),
      List.filterMap_append, List.filterMap_cons_none (hend _ _)]
    exact List.append_nil _
  have hfinished := perm_finished hbetween
  rw [← hshown Progress.finished? (fun _ _ => rfl) fun _ _ => rfl] at hfinished
  constructor
  case run => exact (runId_executed engine h).trans hnumber
  case chunksStarted =>
    exact chunkCounter_executed engine h Metrics.adds_chunksStarted rfl
      (fun _ => rfl) (fun _ => rfl)
      (fun _ _ => rfl) rfl
  case chunksFinished =>
    exact chunkCounter_executed engine h Metrics.adds_chunksFinished rfl
      (fun _ => rfl) (fun _ => rfl)
      (fun _ _ => rfl) rfl
  case eventsProcessed => exact eventsProcessed_executed engine h
  case allProcessed => exact fun out hout => eventsProcessed_of_ok engine h hout
  case fieldErrors => exact fieldErrors_executed engine h
  case progress => exact ⟨between, hprogress, hbetween⟩
  case started =>
    refine ⟨(call.chunks engine.chunkSize engine.positive).map Prod.fst, ?_,
      flatMap_positions_chunks call engine.chunkSize engine.positive, ?_⟩
    · rw [hshown Progress.started? (fun _ _ => rfl) fun _ _ => rfl]
      exact perm_started hbetween
    · intro range hrange
      unfold Call.chunks at hrange
      rw [map_fst_deal] at hrange
      exact bounded_of_mem_rangesFrom hrange
  case eventsTold =>
    rw [eventsProcessed_executed engine h, (hfinished.map Prod.fst).sum_eq,
      List.map_map]
    rfl
  case errorsTold =>
    rw [fieldErrors_executed engine h, (hfinished.map Prod.snd).sum_eq,
      List.map_map]
    rfl
  case failed =>
    rw [exists_error_executed_iff engine h, ← exists_failed_iff hbetween,
      hprogress]
    simp

end Run

theorem accounts_of_run {engine : Engine} {call : Call} {number : Nat}
    {execution : Execution} (hnumber : engine.metrics.runId + 1 = .ofNat number)
    (h : call.run engine = .ok execution) :
    Accounts engine.chunkSize engine.positive call number execution := by
  rcases except_map_eq_ok h with ⟨outcomes, houtcomes, rfl⟩
  exact accounts_executed engine (forall₂_settled houtcomes) hnumber

/-!
## Runs one after another
-/

def runAll (engine : Engine) :
    List Call -> Except Time.Overflow (List Execution)
  | [] => .ok []
  | call :: rest => (call.run engine).bind fun execution =>
      (runAll execution.engine rest).map (execution :: ·)

theorem exists_metrics_of_run {engine : Engine} {call : Call}
    {execution : Execution} (h : call.run engine = .ok execution) :
    exists metrics, execution.engine = { engine with metrics := metrics } := by
  rcases except_map_eq_ok h with ⟨outcomes, _, rfl⟩
  refine ⟨(engine.execute call.transformer call.options call.schedule call.tag
      call.events.length outcomes).engine.metrics,
    ?_⟩
  unfold execute
  cases collect outcomes <;> rfl

theorem exists_run_iff (engine : Engine) (call : Call) :
    (exists execution, call.run engine = .ok execution) <->
      forall chunk, chunk ∈ call.chunks engine.chunkSize engine.positive ->
        Not (call.transformer.OverflowsFirst call.host call.tag chunk.2) := by
  unfold Call.run Engine.run
  rw [exists_map_eq_ok_iff, outcomes_eq_error_iff]
  constructor
  · intro h chunk hchunk hoverflows
    exact h ⟨chunk, hchunk, hoverflows⟩
  · intro h hoverflow
    rcases hoverflow with ⟨chunk, hchunk, hoverflows⟩
    exact h chunk hchunk hoverflows

theorem accounts_of_runs {engine : Engine} {number : Nat} {calls : List Call}
    {executions : List Execution}
    (hnumber : engine.metrics.runId = .ofNat number)
    (h : engine.runAll calls = .ok executions) :
    executions.length = calls.length ∧
      forall k call execution, calls[k]? = some call ->
        executions[k]? = some execution ->
        Accounts engine.chunkSize engine.positive call (number + k + 1)
          execution := by
  induction calls generalizing engine number executions with
  | nil =>
      cases h
      refine ⟨rfl, ?_⟩
      intro k call execution hcall
      rw [List.getElem?_nil] at hcall
      cases hcall
  | cons call rest ih =>
      rcases except_bind_eq_ok h with ⟨execution, hrun, hrest⟩
      rcases except_map_eq_ok hrest with ⟨more, hmore, rfl⟩
      have hfirst : Accounts engine.chunkSize engine.positive call (number + 1)
          execution := by
        refine accounts_of_run ?_ hrun
        rw [hnumber, UInt64.ofNat_add]
        rfl
      rcases exists_metrics_of_run hrun with ⟨metrics, hengine⟩
      rcases ih hfirst.run hmore with ⟨hlength, hlater⟩
      rw [hengine] at hlater
      refine ⟨congrArg (· + 1) hlength, ?_⟩
      intro k later run hlaterCall hlaterRun
      cases k with
      | zero =>
          cases hlaterCall
          cases hlaterRun
          exact hfirst
      | succ k =>
          have hnext := hlater k later run hlaterCall hlaterRun
          rw [Nat.add_assoc number 1 k, Nat.add_comm 1 k] at hnext
          exact hnext

theorem exists_runAll_iff (engine : Engine) (calls : List Call) :
    (exists executions, engine.runAll calls = .ok executions) <->
      forall call, call ∈ calls ->
        forall chunk, chunk ∈ call.chunks engine.chunkSize engine.positive ->
          Not (call.transformer.OverflowsFirst call.host call.tag chunk.2) := by
  induction calls generalizing engine with
  | nil => exact iff_of_true ⟨[], rfl⟩ fun _ => nofun
  | cons call rest ih =>
      rw [List.forall_mem_cons, ← exists_run_iff engine call]
      constructor
      · intro h
        rcases h with ⟨executions, hexecutions⟩
        rcases except_bind_eq_ok hexecutions with ⟨execution, hrun, hrest⟩
        rcases except_map_eq_ok hrest with ⟨more, hmore, _⟩
        rcases exists_metrics_of_run hrun with ⟨metrics, hengine⟩
        have hlater := (ih execution.engine).mp ⟨more, hmore⟩
        rw [hengine] at hlater
        exact ⟨⟨execution, hrun⟩, hlater⟩
      · intro h
        rcases h with ⟨⟨execution, hrun⟩, hlater⟩
        rcases exists_metrics_of_run hrun with ⟨metrics, hengine⟩
        have hmore := (ih execution.engine).mpr
        rw [hengine] at hmore
        rcases hmore hlater with ⟨more, hmore⟩
        rw [← hengine] at hmore
        refine ⟨execution :: more, ?_⟩
        rw [runAll, hrun]
        show (runAll execution.engine rest).map _ = _
        rw [hmore]
        rfl

/-- The runs that a new engine makes, one after another: all come to an end
unless a local time overflows, and then the account of each describes its call
alone, whatever the calls before came to. -/
theorem accounts_of_runAll {options : Options} {engine : Engine}
    (h : create options = .ok engine) (calls : List Call) :
    ((exists executions, engine.runAll calls = .ok executions) <->
      forall call, call ∈ calls ->
        forall chunk, chunk ∈ call.chunks engine.chunkSize engine.positive ->
          Not (call.transformer.OverflowsFirst call.host call.tag chunk.2)) ∧
    forall executions, engine.runAll calls = .ok executions ->
      executions.length = calls.length ∧
      forall k call execution, calls[k]? = some call ->
        executions[k]? = some execution ->
        Accounts engine.chunkSize engine.positive call (k + 1) execution := by
  have hnumber : engine.metrics.runId = .ofNat 0 := by
    unfold create at h
    split at h
    · split at h
      · cases h
      · split at h
        · cases h
        · cases h
          rfl
    · cases h
  refine ⟨exists_runAll_iff engine calls, ?_⟩
  intro executions hexecutions
  rcases accounts_of_runs hnumber hexecutions with ⟨hlength, haccounts⟩
  simp only [Nat.zero_add] at haccounts
  exact ⟨hlength, haccounts⟩

/-- A call that fails in its first chunk, which waits, one without events, and
one that tolerates the failure of the first. -/
def mixedCalls : List Call :=
  [⟨indexing .fail, ⟨[], [], 0⟩, .default, ⟨[1, 1, 0, 1], [⟨5⟩], ⟨3⟩, ⟨4⟩⟩, "a",
      [(0, []), (1, [("id", .int 7)]), (2, [])]⟩,
    ⟨indexing .fail, ⟨[], [], 0⟩, .default, .sequential ⟨0⟩, "a", []⟩,
    ⟨indexing .omit, ⟨[], [], 0⟩, .default, .sequential ⟨2⟩, "b",
      [(0, []), (1, [("id", .int 7)]), (2, [])]⟩]

theorem accounts_of_runAll_mixed :
    create ⟨none, 2, 4⟩ = .ok (Engine.mk 2 (by decide) .zero) ∧
      exists executions,
        (Engine.mk 2 (by decide) .zero).runAll mixedCalls = .ok executions ∧
        executions.length = 3 ∧
        forall k call execution, mixedCalls[k]? = some call ->
          executions[k]? = some execution ->
          Accounts 2 (by decide) call (k + 1) execution := by
  have hcreate :
      create ⟨none, 2, 4⟩ = .ok (Engine.mk 2 (by decide) .zero) := rfl
  rcases accounts_of_runAll hcreate mixedCalls with ⟨hruns, haccounts⟩
  have hnever : forall call, call ∈ mixedCalls ->
      forall chunk, chunk ∈ call.chunks 2 (by decide) ->
        Not (call.transformer.OverflowsFirst call.host call.tag chunk.2) := by
    intro call hcall chunk _ hoverflows
    rcases hoverflows with ⟨event, overflow, _, halone⟩
    simp only [mixedCalls, List.mem_cons, List.not_mem_nil, or_false] at hcall
    rcases hcall with rfl | rfl | rfl <;> cases halone
  rcases hruns.mpr hnever with ⟨executions, hexecutions⟩
  exact ⟨hcreate, executions, hexecutions, haccounts executions hexecutions⟩

end Engine
end Reshape
