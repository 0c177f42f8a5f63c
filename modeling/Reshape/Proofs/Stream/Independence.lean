import Mathlib.Algebra.Ring.Nat
import Reshape.Proofs.Stream.Batch
import Reshape.Proofs.Stream.Reports

/-!
# Streams and single calls

A stream gives what single calls give: the record of each event as its own call
has it, or the error of the first call that fails.  Nothing that the events of a
stream share shows in any of them.
-/

namespace Reshape
namespace Transformer

/-!
## Single calls
-/

section Singles

variable (t : Transformer) (host : Host) (options : ReportOptions)
  (tag : String)

def Succeeds (event : Event) : Prop :=
  exists single record, t.transform host options tag event = .ok single ∧
    single.result = .ok record

def AllBeforeSucceed (events : List Event) (event : Event) : Prop :=
  exists before after, events = before ++ event :: after ∧
    forall earlier, earlier ∈ before -> t.Succeeds host options tag earlier

end Singles

variable {t : Transformer} {host : Host} {options : ReportOptions}
  {tag : String}

theorem alone_of_transform {event : Event} {single : Run Record}
    (h : t.transform host options tag event = .ok single) :
    exists outcome, t.alone host tag event = .ok outcome ∧
      outcome.failures.length = failureCount single.trace ∧
      single.result = outcome.result.mapError FieldFailure.error := by
  rw [transform_eq_alone] at h
  rcases except_map_eq_ok h with ⟨outcome, halone, hsingle⟩
  refine ⟨outcome, halone, ?_, ?_⟩
  · rw [← hsingle]
    exact (failureCount_flatMap_failureTrace t options ⟨tag, none⟩
      outcome.failures).symm
  · rw [← hsingle]

theorem result_eq_error_of_mapError {outcome : Outcome Record} {error : Error}
    (h : outcome.result.mapError FieldFailure.error = .error error) :
    exists failure, outcome.result = .error failure ∧
      failure.error = error := by
  cases hresult : outcome.result with
  | error failure =>
      rw [hresult] at h
      cases h
      exact ⟨failure, rfl, rfl⟩
  | ok record =>
      rw [hresult] at h
      cases h

theorem passes_of_succeeds {event : Event}
    (h : t.Succeeds host options tag event) : t.Passes host tag event := by
  rcases h with ⟨single, record, hsingle, hrecord⟩
  rcases alone_of_transform hsingle with ⟨outcome, halone, _, hresult⟩
  rw [hresult] at hrecord
  exact ⟨outcome, record, halone, except_mapError_eq_ok hrecord⟩

/-!
## The batch of a stream
-/

theorem transformStream_eq_oneByOne (t : Transformer) (host : Host)
    (options : ReportOptions) (tag : String) (events : List Event) :
    t.transformStream host options tag events =
      (t.oneByOne host tag 0 events).map (t.streamRun options tag) := by
  unfold transformStream
  rw [applyBatch_eq_oneByOne (steady_empty t host)]

/-- When all calls succeed, a batch holds their records and their failures. -/
theorem oneByOne_of_singles {events : List Event} {runs : List (Run Record)}
    {records : List Record}
    (hruns : events.mapM (t.transform host options tag) = .ok runs)
    (hrecords : runs.map Run.result = records.map .ok) (first : Nat) :
    exists batch, t.oneByOne host tag first events = .ok batch ∧
      batch.result = .ok ((events.map Prod.fst).zip records) ∧
      batch.failures.length = (runs.map fun run => failureCount run.trace).sum ∧
      records.length = events.length := by
  induction events generalizing runs records first with
  | nil =>
      cases hruns
      have hnone : records = [] := List.map_eq_nil_iff.mp hrecords.symm
      rw [hnone]
      exact ⟨.nil, rfl, rfl, rfl, rfl⟩
  | cons event rest ih =>
      rcases mapM_cons_eq_ok hruns with ⟨single, more, hsingle, hmore, rfl⟩
      cases records with
      | nil => cases hrecords
      | cons record others =>
          simp only [List.map_cons, List.cons.injEq] at hrecords
          rcases hrecords with ⟨hrecord, hothers⟩
          rcases alone_of_transform hsingle with
            ⟨outcome, halone, hcount, hresult⟩
          rw [hresult] at hrecord
          rcases ih hmore hothers (first + 1) with
            ⟨batch, hbatch, hout, hsum, hlength⟩
          have hone :=
            single_of_success (except_mapError_eq_ok hrecord) first event
          rw [oneByOne_cons_of_ok halone, hbatch,
            BatchOutcome.andThen_of_ok hone]
          refine ⟨_, rfl, ?_, ?_, ?_⟩
          · rw [BatchOutcome.result_followedBy hone, hout]
            rfl
          · rw [BatchOutcome.length_failures_followedBy hone, hsum,
              List.map_cons, List.sum_cons, ← hcount,
              BatchOutcome.length_failures_single]
          · rw [List.length_cons, List.length_cons, hlength]

theorem reaches_of_allBeforeSucceed {events : List Event} {event : Event}
    (h : t.AllBeforeSucceed host options tag events event) :
    t.Reaches host tag events event := by
  rcases h with ⟨before, after, hevents, hbefore⟩
  refine ⟨before, after, hevents, ?_⟩
  intro earlier hearlier
  exact passes_of_succeeds (hbefore earlier hearlier)

/-!
## The stream

The three cases are exhaustive: all calls succeed, or the first that does not
fails, or the first that does not overflows.
-/

theorem transformStream_eq_singles (t : Transformer) (host : Host)
    (options : ReportOptions) (tag : String) (events : List Event) :
    (forall runs records,
      events.mapM (t.transform host options tag) = .ok runs ->
      runs.map Run.result = records.map .ok ->
      exists run, t.transformStream host options tag events = .ok run ∧
        run.result = .ok ((events.map Prod.fst).zip records) ∧
        successes run.trace =
          [.success ⟨tag, none⟩ events.length
            (runs.map fun single => failureCount single.trace).sum]) ∧
    (forall event single error,
      t.AllBeforeSucceed host options tag events event ->
      t.transform host options tag event = .ok single ->
        single.result = .error error ->
      exists run, t.transformStream host options tag events = .ok run ∧
        run.result = .error error ∧ successes run.trace = []) ∧
    (forall event overflow,
      t.AllBeforeSucceed host options tag events event ->
      t.transform host options tag event = .error overflow ->
      t.transformStream host options tag events = .error overflow) := by
  refine ⟨?_, ?_, ?_⟩
  · intro runs records hruns hrecords
    rcases oneByOne_of_singles hruns hrecords 0 with
      ⟨batch, hbatch, hout, hsum, hlength⟩
    rw [transformStream_eq_oneByOne, hbatch]
    refine ⟨_, rfl, ?_, ?_⟩
    · rw [streamRun_result, hout]
      rfl
    · rw [successes_streamRun, hout]
      simp only [List.length_zip, List.length_map, hlength, Nat.min_self, hsum]
  · intro event single error hbefore hsingle herror
    rcases alone_of_transform hsingle with ⟨outcome, halone, _, hresult⟩
    rw [hresult] at herror
    rcases result_eq_error_of_mapError herror with ⟨failure, hfailure, hsame⟩
    have hfails : t.FailsFirst host tag failure events :=
      ⟨event, outcome, reaches_of_allBeforeSucceed hbefore, halone, hfailure⟩
    rcases oneByOne_of_failsFirst hfails 0 with ⟨batch, hbatch, hresult'⟩
    rw [transformStream_eq_oneByOne, hbatch]
    refine ⟨_, rfl, ?_, ?_⟩
    · rw [streamRun_result, hresult', ← hsame]
      rfl
    · rw [successes_streamRun, hresult']
  · intro event overflow hbefore hsingle
    rw [transform_eq_alone] at hsingle
    have halone : t.alone host tag event = .error overflow := by
      cases hall : t.alone host tag event with
      | error overflow' => rfl
      | ok outcome =>
          rw [hall] at hsingle
          cases hsingle
    rcases oneByOne_of_overflowsFirst
        ⟨event, overflow, reaches_of_allBeforeSucceed hbefore, halone⟩ 0 with
          ⟨overflow', hbatch⟩
    rw [transformStream_eq_oneByOne, hbatch]
    rfl

def stamping (policy : ErrorPolicy) : Transformer :=
  ⟨[⟨"copy", .raw ⟨.record, [.key "id"]⟩⟩,
      ⟨"part", .raw ⟨.tagParts, [.position 2]⟩⟩],
    .keepAll, none, policy, none, some ("ts", ⟨.iso8601, false⟩)⟩

theorem transformStream_eq_singles_repeated_time :
    exists run,
      (stamping .omit).transformStream ⟨[], [], 0⟩ .default "a.b"
          [(1, [("id", .int 7)]), (0, []), (1, [("id", .null)])] = .ok run ∧
        run.result =
          .ok [(1,
            [("id", .int 7), ("ts", .ofString "1970-01-01T00:00:01Z"),
              ("copy", .int 7)]),
            (0, [("ts", .ofString "1970-01-01T00:00:00Z"), ("copy", .null)]),
            (1,
              [("id", .null), ("ts", .ofString "1970-01-01T00:00:01Z"),
                ("copy", .null)])] ∧
        successes run.trace = [.success ⟨"a.b", none⟩ 3 3] :=
  (transformStream_eq_singles (stamping .omit) ⟨[], [], 0⟩ .default "a.b"
    [(1, [("id", .int 7)]), (0, []), (1, [("id", .null)])]).left _
      [[("id", .int 7), ("ts", .ofString "1970-01-01T00:00:01Z"),
          ("copy", .int 7)],
          [("ts", .ofString "1970-01-01T00:00:00Z"), ("copy", .null)],
          [("id", .null), ("ts", .ofString "1970-01-01T00:00:01Z"),
            ("copy", .null)]]
        rfl rfl

end Transformer
end Reshape
