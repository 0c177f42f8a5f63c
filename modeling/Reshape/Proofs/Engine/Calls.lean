import Mathlib.Data.List.Basic
import Reshape.Proofs.Engine.Agreement
import Reshape.Proofs.Sorting
import Reshape.Proofs.Stream.Calls

/-!
# Calls of an observer during a run of an engine

The chunks of an engine call the observer side by side, each with the positions
that its events have in the whole stream.  The calls about one event all come
from one chunk, so sorting them by position undoes whatever the schedule did:
what is left is what the chunks call out one after another.  If failures are
tolerated, that is what the stream calls out.  Otherwise it is the first failure
of each chunk that has one.
-/

namespace Reshape

open Transformer (Happening PlacedFailure)

def Report.position : Report -> Nat
  | .success subject _ _ => subject.event.getD 0
  | .failure subject _ _ => subject.event.getD 0
  | .alert subject _ _ => subject.event.getD 0

namespace Engine

/-!
## What the calls should be
-/

section Expected

variable (t : Transformer) (host : Host) (number : Nat) (alertFrom : Severity)
  (tag : String)

def placedChunks (engine : Engine) (events : List Event) :
    List (List (Event × Nat)) :=
  (deal (chunkRanges events.length engine.chunkSize engine.positive)
      events.zipIdx).map
    Prod.snd

/-- The first failure of the first event that has any. -/
def firstFailure (placed : List (Event × Nat)) : Option PlacedFailure :=
  placed.findSome? fun event => (t.failuresAt host tag event).head?

/-- What the calls of an engine have to be, sorted by position. -/
structure EngineCalls (engine : Engine) (events : List Event)
    (calls : List Report) : Prop where
  tolerated : t.errorPolicy ≠ .fail ->
    exists run,
      t.transformStream host (.toRecorder number alertFrom) tag events =
        .ok run ∧
      sortBy Report.position (calls.filter Report.isTrouble) =
        ((ReportOptions.toRecorder number alertFrom).calls run.trace).filter
          Report.isTrouble
  /-- One failure for each chunk that has one. -/
  ended : t.errorPolicy = .fail ->
    sortBy Report.position (calls.filter Report.isTrouble) =
      ((engine.placedChunks events).filterMap (firstFailure t host tag)).flatMap
        (t.troubleCalls alertFrom tag)

def callsAt (placed : Event × Nat) : List Report :=
  (t.failuresAt host tag placed).flatMap (t.troubleCalls alertFrom tag)

def chunkCalls (chunk : Range × List Event) : List Report :=
  ((t.visited host tag chunk.2).zipIdx chunk.1.start).flatMap
    (callsAt t host alertFrom tag)

end Expected

/-!
## Positions
-/

section Positions

variable {α : Type}

theorem drop_zipIdx (n start : Nat) (items : List α) :
    (items.zipIdx start).drop n = (items.drop n).zipIdx (start + n) := by
  induction n generalizing start items with
  | zero => rfl
  | succ n ih =>
      cases items with
      | nil => rfl
      | cons a rest =>
          rw [List.zipIdx_cons, List.drop_succ_cons, List.drop_succ_cons, ih,
            Nat.add_assoc, Nat.add_comm 1 n]

theorem take_zipIdx (n start : Nat) (items : List α) :
    (items.zipIdx start).take n = (items.take n).zipIdx start := by
  induction n generalizing start items with
  | zero => rfl
  | succ n ih =>
      cases items with
      | nil => rfl
      | cons a rest =>
          rw [List.zipIdx_cons, List.take_succ_cons, List.take_succ_cons, ih,
            List.zipIdx_cons]

theorem deal_zipIdx {ranges : List Range} {start : Nat} {items : List α}
    (hrow : InRow start (deal ranges items)) :
    (deal ranges (items.zipIdx start)).map Prod.snd =
      (deal ranges items).map fun chunk => chunk.2.zipIdx chunk.1.start := by
  induction ranges generalizing start items with
  | nil => rfl
  | cons range ranges ih =>
      rcases hrow with ⟨hstart, hstop, hrest⟩
      have hstart : range.start = start := hstart
      have hstop :
          range.stop = start + (items.take range.length).length := hstop
      have hdrop : (items.zipIdx start).drop range.length =
          (items.drop range.length).zipIdx range.stop := by
        rw [drop_zipIdx, hstop, List.length_take]
        rcases Nat.le_total range.length items.length with hle | hle
        · rw [Nat.min_eq_left hle]
        · rw [List.drop_eq_nil_of_le hle]
          rfl
      rw [deal, deal, List.map_cons, List.map_cons, take_zipIdx, hdrop,
        ih hrest, hstart]

theorem pairwise_zipIdx (start : Nat) (items : List α) :
    (items.zipIdx start).Pairwise fun a b => a.2 < b.2 := by
  have hpositions := List.pairwise_lt_range' (s := start) (n := items.length) 1
  rw [← List.zipIdx_map_snd, List.pairwise_map] at hpositions
  exact hpositions

end Positions

variable {t : Transformer} {host : Host} {alertFrom : Severity} {tag : String}

theorem placedChunks_eq (engine : Engine) (events : List Event) :
    engine.placedChunks events =
      (engine.chunks events).map fun chunk => chunk.2.zipIdx chunk.1.start :=
  deal_zipIdx (inRow_deal_chunkRanges engine.chunkSize engine.positive events)

theorem flatten_placedChunks (engine : Engine) (events : List Event) :
    (engine.placedChunks events).flatten = events.zipIdx := by
  have hall :=
    flatMap_deal_chunkRanges engine.chunkSize engine.positive events.zipIdx
  rw [List.length_zipIdx] at hall
  exact hall

theorem pairwise_visited (engine : Engine) (events : List Event) :
    ((engine.chunks events).flatMap fun chunk =>
      (t.visited host tag chunk.2).zipIdx chunk.1.start).Pairwise
        fun a b => a.2 < b.2 := by
  have hsub : forall chunks : List (Range × List Event),
      List.Sublist
        (chunks.flatMap
          fun chunk => (t.visited host tag chunk.2).zipIdx chunk.1.start)
        (chunks.flatMap fun chunk => chunk.2.zipIdx chunk.1.start) := by
    intro chunks
    induction chunks with
    | nil => exact List.Sublist.refl _
    | cons chunk rest ih =>
        exact (t.zipIdx_visited_sublist host tag chunk.1.start chunk.2).append
          ih
  have hall := flatten_placedChunks engine events
  rw [placedChunks_eq, ← List.flatMap_def] at hall
  have hkept := hsub (engine.chunks events)
  rw [hall] at hkept
  exact List.Pairwise.sublist hkept (pairwise_zipIdx 0 events)

theorem position_of_mem_callsAt {placed : Event × Nat} {report : Report}
    (h : report ∈ callsAt t host alertFrom tag placed) :
    report.position = placed.2 := by
  unfold callsAt Transformer.failuresAt at h
  rcases List.mem_flatMap.mp h with ⟨failed, hfailed, hreport⟩
  rcases List.mem_map.mp hfailed with ⟨failure, _, rfl⟩
  unfold Transformer.troubleCalls at hreport
  rcases List.mem_cons.mp hreport with rfl | hmem
  · rfl
  · rw [List.mem_ite_nil_right, List.mem_singleton] at hmem
    rw [hmem.right]
    rfl

theorem sortedBy_chunkCalls (engine : Engine) (events : List Event) :
    SortedBy Report.position
      ((engine.chunks events).flatMap (chunkCalls t host alertFrom tag)) := by
  have hassoc : (engine.chunks events).flatMap
      (chunkCalls t host alertFrom tag) =
      ((engine.chunks events).flatMap fun chunk =>
        (t.visited host tag chunk.2).zipIdx chunk.1.start).flatMap
          (callsAt t host alertFrom tag) :=
    List.flatMap_assoc.symm
  rw [hassoc]
  refine List.pairwise_flatMap.mpr ⟨?_, ?_⟩
  · intro placed _
    apply List.pairwise_of_forall_mem_list
    intro a ha b hb
    rw [position_of_mem_callsAt ha, position_of_mem_callsAt hb]
  · apply (pairwise_visited engine events).imp
    intro placed later hlt a ha b hb
    rw [position_of_mem_callsAt ha, position_of_mem_callsAt hb]
    exact Nat.le_of_lt hlt

theorem pairwise_chunkCalls (t : Transformer) (host : Host)
    (alertFrom : Severity) (tag : String) (engine : Engine)
    (events : List Event) (n : Nat) :
    (engine.chunks events).Pairwise fun one other =>
      (chunkCalls t host alertFrom tag one).filter
          (fun r => r.position = n) = [] ∨
        (chunkCalls t host alertFrom tag other).filter
          (fun r => r.position = n) = [] := by
  have hplaced : forall chunk, (chunkCalls t host alertFrom tag chunk).filter
      (fun r => r.position = n) ≠ [] ->
      exists placed,
        placed ∈ (t.visited host tag chunk.2).zipIdx chunk.1.start ∧
        placed.2 = n := by
    intro chunk hsome
    rcases List.exists_mem_of_ne_nil _ hsome with ⟨report, hreport⟩
    rcases List.mem_filter.mp hreport with ⟨hmem, hposition⟩
    rcases List.mem_flatMap.mp hmem with ⟨placed, hvisited, hcalled⟩
    refine ⟨placed, hvisited, ?_⟩
    rw [← position_of_mem_callsAt hcalled]
    exact of_decide_eq_true hposition
  apply (List.pairwise_flatMap.mp (pairwise_visited engine events)).right.imp
  intro one other hlt
  by_cases hone : (chunkCalls t host alertFrom tag one).filter
      (fun r => r.position = n) = []
  · exact .inl hone
  · by_cases hother : (chunkCalls t host alertFrom tag other).filter
        (fun r => r.position = n) = []
    · exact .inr hother
    · rcases hplaced one hone with ⟨placed, hmem, hposition⟩
      rcases hplaced other hother with ⟨placed', hmem', hposition'⟩
      have hless := hlt placed hmem placed' hmem'
      lia

/-!
## The calls of the steps
-/

def Step.report? (step : Step) : Option Report :=
  step.happening?.bind Happening.report?

def stepReports (steps : List Step) : List Report :=
  steps.filterMap Step.report?

theorem filterMap_happenings (steps : List Step) :
    (happenings steps).filterMap Happening.report? = stepReports steps := by
  unfold happenings stepReports
  rw [List.filterMap_filterMap]
  rfl

theorem failures_of_outcomes {chunks : List (Range × List Event)}
    {outcomes : List ChunkOutcome}
    (h : chunks.mapM (ChunkOutcome.ofEvents t host tag) = .ok outcomes) :
    (outcomes.map fun outcome => outcome.batch.failures) =
      chunks.map
        fun chunk => t.failuresFrom host tag chunk.1.start chunk.2 := by
  induction chunks generalizing outcomes with
  | nil =>
      cases h
      rfl
  | cons chunk rest ih =>
      rcases mapM_cons_eq_ok h with ⟨outcome, more, houtcome, hmore, rfl⟩
      rw [ofEvents_eq_oneByOne] at houtcome
      rcases except_map_eq_ok houtcome with ⟨batch, hbatch, rfl⟩
      rw [List.map_cons, List.map_cons, ih hmore,
        ← Transformer.failures_oneByOne hbatch]

section Steps

variable (alertFrom : Severity) (number : Nat) (waits : List Duration)

theorem stepReports_lanes {engine : Engine} {events : List Event}
    {outcomes : List ChunkOutcome}
    (h : engine.outcomes t host tag events = .ok outcomes) :
    (lanes t (.toRecorder number alertFrom) tag waits outcomes).map
        stepReports =
      (engine.chunks events).map (chunkCalls t host alertFrom tag) := by
  have hlane : forall i outcome,
      stepReports
        (chunkSteps t (.toRecorder number alertFrom) tag (waits.getD i ⟨0⟩)
          outcome) =
        outcome.batch.failures.flatMap (t.troubleCalls alertFrom tag) := by
    intro i outcome
    rw [← filterMap_happenings, happenings_chunkSteps,
      Transformer.reports_flatMap_placedTrace]
  calc
    (lanes t (.toRecorder number alertFrom) tag waits outcomes).map
      stepReports =
        outcomes.map fun outcome =>
          outcome.batch.failures.flatMap (t.troubleCalls alertFrom tag) :=
      map_mapIdx_of_forall hlane outcomes
    _ = (outcomes.map fun outcome => outcome.batch.failures).map
          fun failures => failures.flatMap (t.troubleCalls alertFrom tag) := by
      rw [List.map_map]
      rfl
    _ = (engine.chunks events).map (chunkCalls t host alertFrom tag) := by
      rw [failures_of_outcomes h, List.map_map]
      apply List.map_congr_left
      intro chunk _
      exact List.flatMap_assoc

/-- Sorted by position, the calls of any schedule are those of the chunks one
after another. -/
theorem sortBy_stepReports_interleave (picks : List Nat) {engine : Engine}
    {events : List Event} {outcomes : List ChunkOutcome}
    (h : engine.outcomes t host tag events = .ok outcomes) :
    sortBy Report.position
        (stepReports
          (interleave picks
            (lanes t (.toRecorder number alertFrom) tag waits outcomes))) =
      (engine.chunks events).flatMap (chunkCalls t host alertFrom tag) := by
  have hlanes := stepReports_lanes alertFrom number waits h
  have hordered :
      stepReports
          (lanes t (.toRecorder number alertFrom) tag waits outcomes).flatten =
        (engine.chunks events).flatMap (chunkCalls t host alertFrom tag) := by
    unfold stepReports
    rw [List.filterMap_flatten, List.flatMap_def, ← hlanes]
    rfl
  apply sortBy_eq_of_filter_eq (sortedBy_chunkCalls engine events)
  intro n
  have hfilter :
      forall steps : List Step,
        (stepReports steps).filter (fun r => r.position = n) =
          steps.filterMap
            fun step => step.report?.filter fun r => r.position = n :=
    fun steps => List.filter_filterMap
  have hapart :
      (lanes t (.toRecorder number alertFrom) tag waits outcomes).Pairwise
        (Apart fun step => step.report?.filter fun r => r.position = n) := by
    unfold Apart
    simp only [← hfilter]
    have hcalls :
        ((engine.chunks events).map (chunkCalls t host alertFrom tag)).Pairwise
          fun xs ys =>
            xs.filter (fun r => r.position = n) = [] ∨
              ys.filter (fun r => r.position = n) = [] :=
      List.pairwise_map.mpr
        (pairwise_chunkCalls t host alertFrom tag engine events n)
    rw [← hlanes] at hcalls
    have hsteps := List.pairwise_map.mp hcalls
    exact hsteps
  rw [← hordered, hfilter, hfilter, filterMap_interleave picks hapart]

theorem isTrouble_of_mem_chunkCalls {chunk : Range × List Event}
    {report : Report} (h : report ∈ chunkCalls t host alertFrom tag chunk) :
    report.isTrouble = true := by
  rcases List.mem_flatMap.mp h with ⟨placed, _, hcalled⟩
  rcases List.mem_flatMap.mp hcalled with ⟨failed, _, hreport⟩
  exact Transformer.isTrouble_of_mem_troubleCalls t alertFrom tag hreport

theorem filter_calls_execute (schedule : Schedule) {engine : Engine}
    {events : List Event} {outcomes : List ChunkOutcome}
    (h : engine.outcomes t host tag events = .ok outcomes) (length : Nat) :
    ((ReportOptions.toRecorder number alertFrom).calls
        (engine.execute t (.toRecorder number alertFrom) schedule tag length
          outcomes).trace).filter
        Report.isTrouble =
      stepReports
        (interleave schedule.picks
          (lanes t (.toRecorder number alertFrom) tag schedule.waits
            outcomes)) := by
  have hsorted :=
    sortBy_stepReports_interleave alertFrom number schedule.waits
      schedule.picks h
  have htroubles : forall report,
      report ∈
        stepReports
          (interleave schedule.picks
            (lanes t (.toRecorder number alertFrom) tag schedule.waits
              outcomes)) ->
      report.isTrouble = true := by
    intro report hreport
    rw [← mem_sortBy Report.position, hsorted] at hreport
    rcases List.mem_flatMap.mp hreport with ⟨chunk, _, hcalled⟩
    exact isTrouble_of_mem_chunkCalls alertFrom hcalled
  rw [Transformer.calls_toRecorder, trace_execute, List.filterMap_append,
    filterMap_happenings, List.filter_append, List.filter_eq_self.mpr htroubles]
  cases collect outcomes <;> exact List.append_nil _

end Steps

/-!
## What the chunks call out
-/

theorem flatMap_chunkCalls_of_tolerant (hpolicy : t.errorPolicy ≠ .fail)
    (engine : Engine) (events : List Event) :
    (engine.chunks events).flatMap (chunkCalls t host alertFrom tag) =
      (t.failuresFrom host tag 0 events).flatMap
        (t.troubleCalls alertFrom tag) := by
  have hchunk :
      forall chunk : Range × List Event,
        chunkCalls t host alertFrom tag chunk =
          (chunk.2.zipIdx chunk.1.start).flatMap
            (callsAt t host alertFrom tag) := by
    intro chunk
    unfold chunkCalls
    rw [t.visited_of_tolerant host tag hpolicy]
  have hall := flatten_placedChunks engine events
  rw [placedChunks_eq, ← List.flatMap_def] at hall
  calc
    (engine.chunks events).flatMap (chunkCalls t host alertFrom tag) =
        ((engine.chunks events).flatMap
          fun chunk => chunk.2.zipIdx chunk.1.start).flatMap
          (callsAt t host alertFrom tag) := by
      rw [List.flatMap_assoc]
      exact congrArg (List.flatMap · (engine.chunks events)) (funext hchunk)
    _ = events.zipIdx.flatMap (callsAt t host alertFrom tag) := by
      rw [hall]
    _ = (t.failuresFrom host tag 0 events).flatMap
      (t.troubleCalls alertFrom tag) := by
      unfold Transformer.failuresFrom
      rw [t.visited_of_tolerant host tag hpolicy]
      exact List.flatMap_assoc.symm

theorem failuresFrom_of_fail (hpolicy : t.errorPolicy = .fail) (first : Nat)
    (events : List Event) :
    t.failuresFrom host tag first events =
      (firstFailure t host tag (events.zipIdx first)).toList := by
  induction events generalizing first with
  | nil => rfl
  | cons event rest ih =>
      have hcons : t.failuresFrom host tag first (event :: rest) =
          t.failuresAt host tag (event, first) ++
            if t.Ends host tag event then []
            else t.failuresFrom host tag (first + 1) rest := by
        unfold Transformer.failuresFrom
        rw [Transformer.visited, List.zipIdx_cons, List.flatMap_cons]
        split <;> rfl
      have hone := t.eventFailures_of_fail host tag hpolicy event
      unfold firstFailure at ih ⊢
      rw [hcons, List.zipIdx_cons, List.findSome?_cons]
      rcases hone with hnone | ⟨failure, hone⟩
      · have hgoes : Not (t.Ends host tag event) :=
          fun hends => hends.right hnone
        have hempty : t.failuresAt host tag (event, first) = [] := by
          unfold Transformer.failuresAt
          rw [hnone]
          rfl
        rw [if_neg hgoes, hempty, ih (first + 1)]
        rfl
      · have hends : t.Ends host tag event := by
          refine ⟨hpolicy, ?_⟩
          rw [hone]
          exact List.cons_ne_nil failure []
        have hsingle :
            t.failuresAt host tag (event, first) = [⟨first, failure⟩] := by
          unfold Transformer.failuresAt
          rw [hone]
          rfl
        rw [if_pos hends, hsingle]
        rfl

theorem flatMap_chunkCalls_of_fail (hpolicy : t.errorPolicy = .fail)
    (engine : Engine) (events : List Event) :
    (engine.chunks events).flatMap (chunkCalls t host alertFrom tag) =
      ((engine.placedChunks events).filterMap (firstFailure t host tag)).flatMap
        (t.troubleCalls alertFrom tag) := by
  have hchunk : forall chunk : Range × List Event,
      chunkCalls t host alertFrom tag chunk =
        (firstFailure t host tag (chunk.2.zipIdx chunk.1.start)).toList.flatMap
          (t.troubleCalls alertFrom tag) := by
    intro chunk
    rw [← failuresFrom_of_fail hpolicy]
    exact List.flatMap_assoc.symm
  rw [List.filterMap_eq_flatMap_toList, List.flatMap_assoc, placedChunks_eq,
    List.flatMap_map]
  exact congrArg (List.flatMap · (engine.chunks events)) (funext hchunk)

/-!
## A stream and an engine
-/

theorem engineCalls_of_outcomes {engine : Engine} {events : List Event}
    {outcomes : List ChunkOutcome}
    (h : engine.outcomes t host tag events = .ok outcomes) (number : Nat)
    (alertFrom : Severity) (schedule : Schedule) (length : Nat) :
    EngineCalls t host number alertFrom tag engine events
      ((ReportOptions.toRecorder number alertFrom).calls
        (engine.execute t (.toRecorder number alertFrom) schedule tag length
          outcomes).trace) := by
  have hsorted :=
    sortBy_stepReports_interleave alertFrom number schedule.waits
      schedule.picks h
  have hsteps := filter_calls_execute alertFrom number schedule h length
  constructor
  · intro hpolicy
    rcases batch_of_outcomes h with ⟨batch, hbatch, _⟩
    refine ⟨t.streamRun (.toRecorder number alertFrom) tag batch, ?_, ?_⟩
    · rw [Transformer.transformStream_eq_oneByOne, hbatch]
      rfl
    · have hstream := t.streamCalls_of_oneByOne number alertFrom tag hbatch
      rw [hsteps, hsorted, hstream.troubles]
      exact flatMap_chunkCalls_of_tolerant hpolicy engine events
  · intro hpolicy
    rw [hsteps, hsorted]
    exact flatMap_chunkCalls_of_fail hpolicy engine events

theorem calls_of_stream_and_engine (t : Transformer) (host : Host)
    (number : Nat) (alertFrom : Severity) (tag : String) (events : List Event) :
    (((exists run,
        t.transformStream host (.toRecorder number alertFrom) tag events =
          .ok run) <->
          Not (t.OverflowsFirst host tag events)) ∧
      forall run,
        t.transformStream host (.toRecorder number alertFrom) tag events =
          .ok run ->
        t.StreamCalls host alertFrom tag events
          ((ReportOptions.toRecorder number alertFrom).calls run.trace)) ∧
    forall (engine : Engine) (schedule : Schedule),
      ((exists execution,
        engine.run t host (.toRecorder number alertFrom) schedule tag events =
          .ok execution) <->
          Not (exists chunk, chunk ∈ engine.chunks events ∧
            t.OverflowsFirst host tag chunk.2)) ∧
      forall execution,
        engine.run t host (.toRecorder number alertFrom) schedule tag events =
          .ok execution ->
        EngineCalls t host number alertFrom tag engine events
          ((ReportOptions.toRecorder number alertFrom).calls
            execution.trace) := by
  refine ⟨⟨?_, ?_⟩, ?_⟩
  · rw [Transformer.transformStream_eq_oneByOne,
      ← Transformer.oneByOne_eq_error_iff 0]
    exact exists_map_eq_ok_iff (t.oneByOne host tag 0 events) _
  · intro run hrun
    rw [Transformer.transformStream_eq_oneByOne] at hrun
    rcases except_map_eq_ok hrun with ⟨batch, hbatch, rfl⟩
    exact t.streamCalls_of_oneByOne number alertFrom tag hbatch
  · intro engine schedule
    constructor
    · rw [← outcomes_eq_error_iff]
      exact exists_map_eq_ok_iff (engine.outcomes t host tag events) _
    · intro execution hexecution
      rcases except_map_eq_ok hexecution with ⟨outcomes, houtcomes, rfl⟩
      exact engineCalls_of_outcomes houtcomes number alertFrom schedule
        events.length

def indexing (policy : ErrorPolicy) : Transformer :=
  ⟨[⟨"x", .raw ⟨.record, [.key "id", .key "x"]⟩⟩], .keepAll, none, policy,
    none, none⟩

/-- The second and third of three events fail.  The stream ends at the second,
while the third is in a chunk of its own, which is scheduled first. -/
theorem calls_of_stream_and_engine_two_chunks :
    (exists run,
      (indexing .fail).transformStream ⟨[], [], 0⟩ (.toRecorder 0 .error) "a"
          [(0, []), (1, [("id", .int 7)]), (2, [("id", .int 8)])] = .ok run ∧
        (indexing .fail).StreamCalls ⟨[], [], 0⟩ .error "a"
          [(0, []), (1, [("id", .int 7)]), (2, [("id", .int 8)])]
          ((ReportOptions.toRecorder 0 .error).calls run.trace)) ∧
    exists execution,
      (Engine.mk 2 (by decide) .zero).run (indexing .fail) ⟨[], [], 0⟩
        (.toRecorder 0 .error)
          ⟨[1, 1, 1, 1, 0, 1], [], ⟨0⟩, ⟨0⟩⟩ "a"
          [(0, []), (1, [("id", .int 7)]), (2, [("id", .int 8)])] =
            .ok execution ∧
        EngineCalls (indexing .fail) ⟨[], [], 0⟩ 0 .error "a"
          (Engine.mk 2 (by decide) .zero)
          [(0, []), (1, [("id", .int 7)]), (2, [("id", .int 8)])]
          ((ReportOptions.toRecorder 0 .error).calls execution.trace) := by
  rcases calls_of_stream_and_engine (indexing .fail) ⟨[], [], 0⟩ 0 .error "a"
    [(0, []), (1, [("id", .int 7)]), (2, [("id", .int 8)])] with
      ⟨⟨hruns, hstream⟩, hengine⟩
  rcases hengine (Engine.mk 2 (by decide) .zero)
    ⟨[1, 1, 1, 1, 0, 1], [], ⟨0⟩, ⟨0⟩⟩ with
    ⟨hexecutions, hcalls⟩
  have hnever : forall events,
      Not ((indexing .fail).OverflowsFirst ⟨[], [], 0⟩ "a" events) := by
    intro events hoverflows
    rcases hoverflows with ⟨event, overflow, _, halone⟩
    cases halone
  rcases hruns.mpr (hnever _) with ⟨run, hrun⟩
  have hchunks :
      Not (exists chunk,
          chunk ∈
            (Engine.mk 2 (by decide) .zero).chunks
              [(0, []), (1, [("id", .int 7)]), (2, [("id", .int 8)])] ∧
        (indexing .fail).OverflowsFirst ⟨[], [], 0⟩ "a" chunk.2) := by
    intro hchunk
    rcases hchunk with ⟨chunk, _, hoverflows⟩
    exact hnever chunk.2 hoverflows
  rcases hexecutions.mpr hchunks with ⟨execution, hexecution⟩
  exact ⟨⟨run, hrun, hstream run hrun⟩, execution, hexecution,
    hcalls execution hexecution⟩

end Engine
end Reshape
