import Reshape.Proofs.Expansion.Policies
import Reshape.Proofs.Stream.Independence

/-!
# Calls of an observer during a stream

An observer that takes every kind of report is called for each failure once, in
the order of the events and within an event in the order of the fields.  An
alert follows a failure that is grave enough before anything else is told.  A
policy that tolerates failures lets the stream go through all events; otherwise
the first event with a failure is the last one visited.
-/

namespace Reshape

open Transformer (Happening PlacedFailure)

/-!
## What an observer is called with
-/

namespace Report

def isSuccess : Report -> Bool
  | .success _ _ _ => true
  | _ => false

def isFailure : Report -> Bool
  | .failure _ _ _ => true
  | _ => false

def isTrouble (report : Report) : Bool :=
  !report.isSuccess

end Report

def Effect.recorded? : Effect -> Option Report
  | .recorded report => some report
  | _ => none

namespace ReportOptions

def toRecorder (number : Nat) (alertFrom : Severity) : ReportOptions :=
  ⟨some (.sink ⟨number, .recorder true⟩), alertFrom⟩

def calls (options : ReportOptions) (trace : List Happening) : List Report :=
  (options.traceEffects trace).filterMap Effect.recorded?

end ReportOptions

namespace Transformer

def Happening.report? : Happening -> Option Report
  | .reported report => some report
  | .logged _ => none

theorem calls_toRecorder (number : Nat) (alertFrom : Severity)
    (trace : List Happening) :
    (ReportOptions.toRecorder number alertFrom).calls trace =
      trace.filterMap Happening.report? := by
  induction trace with
  | nil => rfl
  | cons happening rest ih =>
      cases happening with
      | logged line => exact ih
      | reported report => cases report <;> exact congrArg (_ :: ·) ih

/-!
## What the calls should be
-/

section Expected

variable (t : Transformer) (host : Host) (alertFrom : Severity) (tag : String)

def eventFailures (event : Event) : List FieldFailure :=
  match t.fieldResults host tag event with
  | .ok results => results.filterMap FieldResult.failure?
  | .error _ => []

def Ends (event : Event) : Prop :=
  t.errorPolicy = .fail ∧ t.eventFailures host tag event ≠ []

instance (event : Event) : Decidable (t.Ends host tag event) :=
  inferInstanceAs (Decidable (_ ∧ _))

/-- The events of a stream whose fields are evaluated. -/
def visited : List Event -> List Event
  | [] => []
  | event :: rest => event :: if t.Ends host tag event then [] else visited rest

def failuresAt (placed : Event × Nat) : List PlacedFailure :=
  (t.eventFailures host tag placed.1).map fun failure => ⟨placed.2, failure⟩

def failuresFrom (first : Nat) (events : List Event) : List PlacedFailure :=
  ((t.visited host tag events).zipIdx first).flatMap (t.failuresAt host tag)

/-- The calls for a failure: the failure, and right after it the alert if the
failure is grave enough. -/
def troubleCalls (placed : PlacedFailure) : List Report :=
  let subject : Subject := ⟨tag, some placed.event⟩
  let grave : Severity := if t.errorPolicy = .fail then .error else .warning
  .failure subject grave placed.failure.error ::
    if alertFrom.rank ≤ grave.rank then
      [.alert subject grave placed.failure.error]
    else []

/-- What the calls of a stream have to be. -/
structure StreamCalls (events : List Event) (calls : List Report) : Prop where
  troubles : calls.filter Report.isTrouble =
    (t.failuresFrom host tag 0 events).flatMap (t.troubleCalls alertFrom tag)
  /-- The one success tells as many errors as there were calls for failures. -/
  success : t.errorPolicy ≠ .fail ->
    calls.filter Report.isSuccess =
      [.success ⟨tag, none⟩ events.length (calls.countP Report.isFailure)]

def Clears (events : List Event) : Prop :=
  forall event, event ∈ events -> Not (t.Ends host tag event)

instance (events : List Event) : Decidable (t.Clears host tag events) :=
  inferInstanceAs
    (Decidable (forall event, event ∈ events -> Not (t.Ends host tag event)))

def errorCount (events : List Event) : Nat :=
  (events.map fun event => (t.eventFailures host tag event).length).sum

theorem visited_of_clears {events : List Event} (h : t.Clears host tag events) :
    t.visited host tag events = events := by
  induction events with
  | nil => rfl
  | cons event rest ih =>
      rw [visited, if_neg (h event List.mem_cons_self),
        ih fun later hlater => h later (List.mem_cons_of_mem event hlater)]

theorem clears_of_tolerant (hpolicy : t.errorPolicy ≠ .fail)
    (events : List Event) : t.Clears host tag events :=
  fun _ _ hends => hpolicy hends.left

theorem visited_of_tolerant (hpolicy : t.errorPolicy ≠ .fail)
    (events : List Event) : t.visited host tag events = events :=
  t.visited_of_clears host tag (t.clears_of_tolerant host tag hpolicy events)

theorem length_failuresFrom_of_clears {events : List Event}
    (h : t.Clears host tag events) (first : Nat) :
    (t.failuresFrom host tag first events).length =
      t.errorCount host tag events := by
  unfold failuresFrom errorCount
  rw [t.visited_of_clears host tag h, List.length_flatMap]
  have hlengths : forall placed : Event × Nat,
      (t.failuresAt host tag placed).length =
        (t.eventFailures host tag placed.1).length :=
    fun placed => List.length_map _
  have hevents : ((events.zipIdx first).map Prod.fst).map
      (fun event => (t.eventFailures host tag event).length) =
      events.map fun event => (t.eventFailures host tag event).length := by
    rw [List.zipIdx_map_fst]
  rw [← hevents, List.map_map]
  simp only [hlengths]
  rfl

theorem zipIdx_visited_sublist (first : Nat) (events : List Event) :
    List.Sublist ((t.visited host tag events).zipIdx first)
      (events.zipIdx first) := by
  induction events generalizing first with
  | nil => exact List.Sublist.refl _
  | cons event rest ih =>
      rw [visited, List.zipIdx_cons, List.zipIdx_cons]
      apply List.Sublist.cons_cons
      split
      · exact List.nil_sublist _
      · exact ih (first + 1)

end Expected

/-!
## The failures of a batch
-/

variable {t : Transformer} {host : Host} {tag : String}

theorem outcome_of_alone {event : Event} {outcome : Outcome Record}
    (h : t.alone host tag event = .ok outcome) :
    outcome.failures = t.eventFailures host tag event ∧
      ((exists record, outcome.result = .ok record ∧
        Not (t.Ends host tag event)) ∨
        (exists failure, outcome.result = .error failure ∧
          t.Ends host tag event ∧
          t.eventFailures host tag event = [failure])) := by
  rcases except_map_eq_ok h with ⟨record, hstamp, rfl⟩
  have hfailures : (t.applyFields host tag event.1 record).failures =
      t.eventFailures host tag event := by
    unfold eventFailures fieldResults
    rw [hstamp]
    exact failures_writeFields t.errorPolicy
      (t.context host tag event.1 record) t.fields
  refine ⟨hfailures, ?_⟩
  by_cases hpolicy : t.errorPolicy = .fail
  · rcases writeFields_agree_or_fail_alike (t.context host tag event.1 record)
      t.fields with
      ⟨out, hout⟩ | ⟨failure, hfailed, _⟩
    · left
      have hwritten := hout t.errorPolicy
      refine ⟨t.finish out, ?_, ?_⟩
      · unfold applyFields
        rw [hwritten]
        rfl
      · intro hends
        apply hends.right
        rw [← hfailures]
        unfold applyFields
        rw [hwritten]
    · right
      rw [← hpolicy] at hfailed
      have hone : t.eventFailures host tag event = [failure] := by
        rw [← hfailures]
        unfold applyFields
        rw [hfailed]
      refine ⟨failure, ?_, ⟨hpolicy, ?_⟩, hone⟩
      · unfold applyFields
        rw [hfailed]
        rfl
      · rw [hone]
        exact List.cons_ne_nil failure []
  · left
    rcases exists_result_writeFields hpolicy (t.context host tag event.1 record)
      t.fields with
      ⟨out, hout⟩
    refine ⟨t.finish out, ?_, ?_⟩
    · show (writeFields t.errorPolicy _ t.fields).result.map t.finish = _
      rw [hout]
      rfl
    · intro hends
      exact hpolicy hends.left

theorem eventFailures_of_fail (t : Transformer) (host : Host) (tag : String)
    (hpolicy : t.errorPolicy = .fail) (event : Event) :
    t.eventFailures host tag event = [] ∨
      exists failure, t.eventFailures host tag event = [failure] := by
  cases halone : t.alone host tag event with
  | error overflow =>
      left
      unfold alone at halone
      unfold eventFailures fieldResults
      cases hstamp : t.stamp host event.1 (t.writeTag tag event.2) with
      | error overflow' => rfl
      | ok record =>
          rw [hstamp] at halone
          cases halone
  | ok outcome =>
      rcases (outcome_of_alone halone).right with
        ⟨_, _, hgoes⟩ | ⟨failure, _, _, hone⟩
      · left
        by_cases hnone : t.eventFailures host tag event = []
        · exact hnone
        · exact absurd ⟨hpolicy, hnone⟩ hgoes
      · right
        exact ⟨failure, hone⟩

theorem failures_oneByOne {first : Nat} {events : List Event}
    {batch : BatchOutcome} (h : t.oneByOne host tag first events = .ok batch) :
    batch.failures = t.failuresFrom host tag first events := by
  induction events generalizing first batch with
  | nil =>
      cases h
      rfl
  | cons event rest ih =>
      rw [oneByOne] at h
      rcases except_bind_eq_ok h with ⟨outcome, halone, hbatch⟩
      rcases outcome_of_alone halone with ⟨hfailures, ⟨record, hresult, hgoes⟩ |
        ⟨failure, hresult, hends, _⟩⟩
      · rw [BatchOutcome.andThen_of_ok (single_of_success hresult first event)]
          at hbatch
        rcases except_map_eq_ok hbatch with ⟨next, hnext, rfl⟩
        rw [failuresFrom, visited, if_neg hgoes, List.zipIdx_cons,
          List.flatMap_cons]
        unfold BatchOutcome.followedBy
        rw [single_of_success hresult first event]
        show outcome.failures.map _ ++ next.failures = _
        rw [hfailures, ih hnext]
        rfl
      · rw [BatchOutcome.andThen_of_error
            (single_of_failure hresult first event)]
          at hbatch
        cases hbatch
        rw [failuresFrom, visited, if_pos hends]
        show outcome.failures.map _ = t.failuresAt host tag (event, first) ++ []
        rw [hfailures, List.append_nil]
        rfl

theorem length_of_oneByOne {first : Nat} {events out : List Event}
    {batch : BatchOutcome} (h : t.oneByOne host tag first events = .ok batch)
    (hout : batch.result = .ok out) : out.length = events.length := by
  induction events generalizing first batch out with
  | nil =>
      cases h
      cases hout
      rfl
  | cons event rest ih =>
      rw [oneByOne] at h
      rcases except_bind_eq_ok h with ⟨outcome, _, hbatch⟩
      cases hresult : outcome.result with
      | error failure =>
          rw [BatchOutcome.andThen_of_error
              (single_of_failure hresult first event)]
            at hbatch
          cases hbatch
          rw [single_of_failure hresult first event] at hout
          cases hout
      | ok record =>
          have hsingle := single_of_success hresult first event
          rw [BatchOutcome.andThen_of_ok hsingle] at hbatch
          rcases except_map_eq_ok hbatch with ⟨next, hnext, rfl⟩
          rw [BatchOutcome.result_followedBy hsingle] at hout
          rcases except_map_eq_ok hout with ⟨more, hmore, rfl⟩
          rw [List.length_append, ih hnext hmore, List.length_cons]
          exact Nat.add_comm 1 rest.length

theorem clears_iff_of_oneByOne {first : Nat} {events : List Event}
    {batch : BatchOutcome} (h : t.oneByOne host tag first events = .ok batch) :
    t.Clears host tag events <-> exists out, batch.result = .ok out := by
  constructor
  · intro hclears
    cases hresult : batch.result with
    | ok out => exact ⟨out, rfl⟩
    | error failure =>
        rcases (oneByOne_eq_failure_iff first).mp ⟨batch, h, hresult⟩ with
          ⟨event, outcome, hreaches, halone, hfailed⟩
        rcases (outcome_of_alone halone).right with
          ⟨record, hrecord, _⟩ | ⟨_, _, hends, _⟩
        · rw [hrecord] at hfailed
          cases hfailed
        · exact absurd hends (hclears event (mem_of_reaches hreaches))
  · intro hresult event hevent hends
    rcases hresult with ⟨out, hout⟩
    rcases passes_or_stops t host tag events with
      hall | ⟨failure, hfails⟩ | hoverflows
    · rcases hall event hevent with ⟨outcome, record, halone, hrecord⟩
      rcases (outcome_of_alone halone).right with
        ⟨_, _, hgoes⟩ | ⟨failure, hfailed, _⟩
      · exact hgoes hends
      · rw [hrecord] at hfailed
        cases hfailed
    · rcases oneByOne_of_failsFirst hfails first with ⟨batch', hbatch, hfailed⟩
      rw [h] at hbatch
      cases hbatch
      rw [hout] at hfailed
      cases hfailed
    · rcases oneByOne_of_overflowsFirst hoverflows first with ⟨overflow, hbatch⟩
      rw [h] at hbatch
      cases hbatch

theorem exists_result_of_tolerant (hpolicy : t.errorPolicy ≠ .fail)
    {first : Nat} {events : List Event} {batch : BatchOutcome}
    (h : t.oneByOne host tag first events = .ok batch) :
    exists out, batch.result = .ok out :=
  (clears_iff_of_oneByOne h).mp (t.clears_of_tolerant host tag hpolicy events)

/-!
## The calls of a run
-/

section Calls

variable (t : Transformer) (number : Nat) (alertFrom : Severity) (tag : String)

theorem reports_placedTrace (placed : PlacedFailure) :
    (t.placedTrace (.toRecorder number alertFrom) tag placed).filterMap
        Happening.report? =
      t.troubleCalls alertFrom tag placed := by
  have hgrave : severity t.errorPolicy =
      if t.errorPolicy = .fail then Severity.error else .warning := by
    cases t.errorPolicy <;> rfl
  have hreports : forall reports : List Report,
      (reports.map Happening.reported).filterMap Happening.report? =
        reports := by
    intro reports
    rw [List.filterMap_map]
    exact List.filterMap_some
  unfold placedTrace failureTrace
  rw [List.filterMap_cons_none rfl, hreports, hgrave]
  unfold ReportOptions.failureReports troubleCalls Severity.atOrAbove
  simp only [decide_eq_true_eq]
  rfl

theorem reports_flatMap_placedTrace (failures : List PlacedFailure) :
    (failures.flatMap
        (t.placedTrace (.toRecorder number alertFrom) tag)).filterMap
        Happening.report? =
      failures.flatMap (t.troubleCalls alertFrom tag) := by
  rw [List.filterMap_flatMap]
  simp only [reports_placedTrace]

theorem isTrouble_of_mem_troubleCalls {placed : PlacedFailure} {report : Report}
    (h : report ∈ t.troubleCalls alertFrom tag placed) :
    report.isTrouble = true := by
  unfold troubleCalls at h
  rcases List.mem_cons.mp h with rfl | hmem
  · rfl
  · rw [List.mem_ite_nil_right, List.mem_singleton] at hmem
    rw [hmem.right]
    rfl

theorem countP_isFailure_troubleCalls (placed : PlacedFailure) :
    (t.troubleCalls alertFrom tag placed).countP Report.isFailure = 1 := by
  unfold troubleCalls
  rw [List.countP_cons]
  simp only [apply_ite, List.countP_nil, List.countP_singleton,
    Report.isFailure]
  simp

theorem countP_isFailure_flatMap (failures : List PlacedFailure) :
    (failures.flatMap (t.troubleCalls alertFrom tag)).countP Report.isFailure =
      failures.length := by
  induction failures with
  | nil => rfl
  | cons placed rest ih =>
      rw [List.flatMap_cons, List.countP_append, countP_isFailure_troubleCalls,
        ih, List.length_cons, Nat.add_comm]

theorem filter_flatMap_troubleCalls (failures : List PlacedFailure) :
    (failures.flatMap (t.troubleCalls alertFrom tag)).filter Report.isTrouble =
        failures.flatMap (t.troubleCalls alertFrom tag) ∧
      (failures.flatMap (t.troubleCalls alertFrom tag)).filter
        Report.isSuccess = [] := by
  have hall :
      forall report, report ∈ failures.flatMap (t.troubleCalls alertFrom tag) ->
        report.isTrouble = true := by
    intro report hreport
    rcases List.mem_flatMap.mp hreport with ⟨placed, _, hmem⟩
    exact isTrouble_of_mem_troubleCalls t alertFrom tag hmem
  constructor
  · exact List.filter_eq_self.mpr hall
  · apply List.filter_eq_nil_iff.mpr
    intro report hreport hsuccess
    have htrouble := hall report hreport
    unfold Report.isTrouble at htrouble
    rw [hsuccess] at htrouble
    cases htrouble

theorem calls_streamRun (batch : BatchOutcome) :
    (ReportOptions.toRecorder number alertFrom).calls
        (t.streamRun (.toRecorder number alertFrom) tag batch).trace =
      batch.failures.flatMap (t.troubleCalls alertFrom tag) ++
        match batch.result with
        | .error _ => []
        | .ok out =>
            [.success ⟨tag, none⟩ out.length batch.failures.length] := by
  rw [calls_toRecorder]
  unfold streamRun
  cases batch.result with
  | error failure =>
      rw [List.append_nil]
      exact reports_flatMap_placedTrace t number alertFrom tag batch.failures
  | ok out =>
      show List.filterMap _ (_ ++ _) = _
      rw [List.filterMap_append, reports_flatMap_placedTrace]
      rfl

/-- The stream is called as it has to be, whatever its batch came to. -/
theorem streamCalls_of_oneByOne {host : Host} {events : List Event}
    {batch : BatchOutcome} (h : t.oneByOne host tag 0 events = .ok batch) :
    t.StreamCalls host alertFrom tag events
      ((ReportOptions.toRecorder number alertFrom).calls
        (t.streamRun (.toRecorder number alertFrom) tag batch).trace) := by
  rcases filter_flatMap_troubleCalls t alertFrom tag batch.failures with
    ⟨htroubles, hnone⟩
  rw [calls_streamRun]
  constructor
  · rw [← failures_oneByOne h, List.filter_append, htroubles]
    cases batch.result <;> exact List.append_nil _
  · intro hpolicy
    rcases exists_result_of_tolerant hpolicy h with ⟨out, hout⟩
    rw [hout, List.filter_append, hnone, List.countP_append,
      countP_isFailure_flatMap, ← length_of_oneByOne h hout]
    rfl

end Calls

end Transformer
end Reshape
