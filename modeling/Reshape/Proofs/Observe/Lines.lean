import Reshape.Proofs.Engine.Agreement
import Reshape.Proofs.Expansion.Binding
import Reshape.Proofs.Observe.Breaks
import Reshape.Proofs.Observe.Group
import Reshape.Proofs.Unicode.Lines

/-!
# Lines of a log file

For each call a file gains the time, the entry of the report and a line break.
These are one line for each call, in the order of the calls, exactly if no entry
has a line break of its own.  The tag stands in every entry as it is, and so
does the bare text of an error: the key of the field that failed, or what the
error of a configuration shows without quotes.  No other text of a run can bring
a line break into the file.
-/

namespace Reshape

open Transformer (FieldFailure Happening PlacedFailure)
open Unicode

/-!
## Entries
-/

@[simp] theorem Severity.newline_not_mem_name (severity : Severity) :
    Not ('\n' ∈ severity.name.toList) := by
  cases severity <;> decide

@[simp] theorem LogLine.newline_not_mem_natText (n : Nat) :
    Not ('\n' ∈ (LogLine.natText n).toList) :=
  newline_not_mem_decimal n

@[simp] theorem LogLine.newline_not_mem_optionText (event : Option Nat) :
    Not ('\n' ∈ (LogLine.optionText event).toList) := by
  unfold LogLine.optionText
  cases event <;> simp

namespace Report

def Breaks : Report -> Prop
  | .success subject _ _ => '\n' ∈ subject.tag.toList
  | .failure subject _ error => '\n' ∈ subject.tag.toList ∨ error.Breaks
  | .alert subject _ error => '\n' ∈ subject.tag.toList ∨ error.Breaks

def bareTexts : Report -> List String
  | .success subject _ _ => [subject.tag]
  | .failure subject _ error => subject.tag :: error.bareText?.toList
  | .alert subject _ error => subject.tag :: error.bareText?.toList

/-- The bare texts of the report are among some texts, and a line break gets
into the entry by them only. -/
structure Plain (texts : List String) (report : Report) : Prop where
  bare : forall text, text ∈ report.bareTexts -> text ∈ texts
  breaks : report.Breaks <->
    exists text, text ∈ report.bareTexts ∧ '\n' ∈ text.toList

theorem newline_mem_fileFields_iff (subject : Subject) (severity : Severity)
    (error : Error) :
    '\n' ∈ (fileFields subject severity error).toList <->
      '\n' ∈ subject.tag.toList ∨ error.Breaks := by
  unfold fileFields
  simp

theorem newline_mem_fileEntry_iff (report : Report) :
    '\n' ∈ report.fileEntry.toList <-> report.Breaks := by
  unfold fileEntry
  cases report <;> simp [newline_mem_fileFields_iff, Breaks]

theorem plain_success {texts : List String} {subject : Subject}
    (htag : subject.tag ∈ texts) (events fieldErrors : Nat) :
    (Report.success subject events fieldErrors).Plain texts where
  bare text htext := by
    rw [List.mem_singleton.mp htext]
    exact htag
  breaks := by simp [Breaks, bareTexts]

theorem plain_of_mem_failureReports {texts : List String}
    {options : ReportOptions} {subject : Subject} {severity : Severity}
    {error : Error} (hguarded : error.Guarded) (htag : subject.tag ∈ texts)
    (hbare : forall text, error.bareText? = some text -> text ∈ texts)
    {report : Report}
    (h : report ∈ options.failureReports subject severity error) :
    report.Plain texts := by
  have htexts : forall text, text ∈ subject.tag :: error.bareText?.toList ->
      text ∈ texts := by
    intro text htext
    rcases List.mem_cons.mp htext with rfl | herror
    · exact htag
    · exact hbare text (Option.mem_toList.mp herror)
  have hbreaks : '\n' ∈ subject.tag.toList ∨ error.Breaks <->
      exists text, text ∈ subject.tag :: error.bareText?.toList ∧
        '\n' ∈ text.toList := by
    unfold Error.Guarded at hguarded
    rw [hguarded]
    simp
  rcases List.mem_cons.mp h with rfl | halert
  · exact ⟨htexts, hbreaks⟩
  · rw [List.mem_ite_nil_right, List.mem_singleton] at halert
    rw [halert.right]
    exact ⟨htexts, hbreaks⟩

end Report

/-!
## What a file gains
-/

def callLine (call : Nat × Report) : List Char :=
  (LogLine.natText call.1 ++ " " ++ call.2.fileEntry).toList

def appended (calls : List (Nat × Report)) : List Char :=
  calls.flatMap fun call => callLine call ++ ['\n']

/-- The lines of what was appended are those of the calls, and the last of them
is closed. -/
def OneLineEach (calls : List (Nat × Report)) : Prop :=
  splitOn '\n' (appended calls) = calls.map callLine ++ [[]]

theorem newline_mem_callLine_iff (call : Nat × Report) :
    '\n' ∈ callLine call <-> call.2.Breaks := by
  unfold callLine
  simp [Report.newline_mem_fileEntry_iff]

theorem oneLineEach_iff (calls : List (Nat × Report)) :
    OneLineEach calls <-> forall call, call ∈ calls -> Not call.2.Breaks := by
  constructor
  · intro h call hcall
    have hline : callLine call ∈ splitOn '\n' (appended calls) := by
      rw [h]
      exact List.mem_append_left _ (List.mem_map_of_mem hcall)
    rw [← newline_mem_callLine_iff]
    exact not_mem_of_mem_splitOn hline
  · intro h
    unfold OneLineEach appended
    induction calls with
    | nil => rfl
    | cons call rest ih =>
        have hcall : Not ('\n' ∈ callLine call) := by
          rw [newline_mem_callLine_iff]
          exact h call List.mem_cons_self
        have hrest :=
          ih fun later hlater => h later (List.mem_cons_of_mem call hlater)
        rw [List.flatMap_cons, List.append_assoc, List.singleton_append,
          splitOn_append hcall, hrest]
        rfl

def Observer.callsAt (observer : Observer) (s : Sink) (reports : List Report) :
    List Report :=
  ((observer.deliveries reports).filter fun delivery => delivery.1 = s).map
    Prod.snd

theorem Observer.mem_of_mem_callsAt {observer : Observer} {s : Sink}
    {reports : List Report} {report : Report}
    (h : report ∈ observer.callsAt s reports) : report ∈ reports := by
  rcases List.mem_map.mp h with ⟨delivery, hdelivery, rfl⟩
  rcases List.mem_flatMap.mp (List.mem_of_mem_filter hdelivery) with
    ⟨source, hsource, hmem⟩
  rw [deliver_eq_map] at hmem
  rcases List.mem_map.mp hmem with ⟨_, _, rfl⟩
  exact hsource

structure FileLines (observer : Observer) (number : Nat) (texts : List String)
    (reports : List Report) : Prop where
  /-- The file writes the entries of its calls. -/
  written : ((observer.deliveries reports).filter fun delivery =>
      delivery.1 = ⟨number, .file⟩).map
        (fun delivery => delivery.1.effect delivery.2) =
    (observer.callsAt ⟨number, .file⟩ reports).map
      fun report => .written report.fileEntry
  bare : forall report, report ∈ reports ->
    forall text, text ∈ report.bareTexts -> text ∈ texts
  /-- One line for each call, at whatever times, as long as no bare text has a
  line break. -/
  lines : forall calls : List (Nat × Report),
    calls.map Prod.snd = observer.callsAt ⟨number, .file⟩ reports ->
      (OneLineEach calls <->
        forall call, call ∈ calls ->
          forall text, text ∈ call.2.bareTexts -> Not ('\n' ∈ text.toList))

theorem fileLines_of_plain {texts : List String} {reports : List Report}
    (h : forall report, report ∈ reports -> report.Plain texts)
    (observer : Observer) (number : Nat) :
    FileLines observer number texts reports where
  written := by
    unfold Observer.callsAt
    rw [List.map_map]
    apply List.map_congr_left
    intro delivery hdelivery
    show delivery.1.effect delivery.2 = .written delivery.2.fileEntry
    rw [of_decide_eq_true (List.mem_filter.mp hdelivery).right]
    rfl
  bare report hreport := (h report hreport).bare
  lines calls hcalls := by
    have hplain : forall call, call ∈ calls -> call.2.Plain texts := by
      intro call hcall
      have hmem : call.2 ∈ observer.callsAt ⟨number, .file⟩ reports := by
        rw [← hcalls]
        exact List.mem_map_of_mem hcall
      exact h call.2 (Observer.mem_of_mem_callsAt hmem)
    rw [oneLineEach_iff]
    constructor
    · intro hbreaks call hcall text htext hnewline
      exact hbreaks call hcall
        ((hplain call hcall).breaks.mpr ⟨text, htext, hnewline⟩)
    · intro htexts call hcall hbreaks
      rcases (hplain call hcall).breaks.mp hbreaks with ⟨text, htext, hnewline⟩
      exact htexts call hcall text htext hnewline

/-!
## Failures of fields
-/

namespace Transformer

variable (t : Transformer)

def bareTexts (tag : String) : List String :=
  tag :: t.fields.map Field.key

def Knows (failure : FieldFailure) : Prop :=
  failure.field ∈ t.fields.map Field.key ∧ failure.error.Guarded

variable {t}

theorem knows_of_applyFields {host : Host} {tag : String} {time : Int64}
    {record : Record} {failure : FieldFailure}
    (h : failure ∈ (t.applyFields host tag time record).failures) :
    t.Knows failure := by
  rcases exists_field_of_failure h with
    ⟨field, start, earlier, later, hfields, hkey, _, hfails⟩
  constructor
  · rw [hfields, ← hkey, List.map_append, List.map_cons]
    exact List.mem_append_right _ List.mem_cons_self
  · exact guarded_evaluation hfails failure.field

theorem knows_of_applyEvent {host : Host} {tag : String} {cache : TimeCache}
    {event : Event} {applied : Outcome Record × TimeCache}
    (happlied : t.applyEvent host tag cache event = .ok applied)
    {failure : FieldFailure} (h : failure ∈ applied.1.failures) :
    t.Knows failure := by
  rcases except_map_eq_ok happlied with ⟨timed, _, rfl⟩
  exact knows_of_applyFields h

theorem knows_of_applyBatch {host : Host} {tag : String} {cache : TimeCache}
    {first : Nat} {events : List Event} {batch : BatchOutcome}
    (hbatch : t.applyBatch host tag cache first events = .ok batch)
    {placed : PlacedFailure} (h : placed ∈ batch.failures) :
    t.Knows placed.failure := by
  induction events generalizing cache first batch with
  | nil =>
      cases hbatch
      cases h
  | cons event rest ih =>
      rcases except_bind_eq_ok hbatch with ⟨applied, happlied, hrest⟩
      have hhere : forall placed : PlacedFailure,
          placed ∈ applied.1.failures.map (fun failure => ⟨first, failure⟩) ->
            t.Knows placed.failure := by
        intro placed hplaced
        rcases List.mem_map.mp hplaced with ⟨failure, hfailure, rfl⟩
        exact knows_of_applyEvent happlied hfailure
      split at hrest
      · cases hrest
        exact hhere placed h
      · rcases except_bind_eq_ok hrest with ⟨later, hlater, hmore⟩
        cases hmore
        rcases List.mem_append.mp h with hfirst | hmem
        · exact hhere placed hfirst
        · exact ih hlater hmem

variable {options : ReportOptions} {tag : String}

theorem plain_of_mem_failureTrace {failure : FieldFailure}
    (hknown : t.Knows failure) {event : Option Nat} {report : Report}
    (h : Happening.reported report ∈
      t.failureTrace options ⟨tag, event⟩ failure) :
    report.Plain (t.bareTexts tag) := by
  rcases List.mem_cons.mp h with hlogged | hreported
  · cases hlogged
  · rcases List.mem_map.mp hreported with ⟨_, hreport, hsame⟩
    cases hsame
    apply Report.plain_of_mem_failureReports hknown.right List.mem_cons_self
      _ hreport
    intro text htext
    cases htext
    exact List.mem_cons_of_mem tag hknown.left

theorem plain_of_mem_placedTraces {failures : List PlacedFailure}
    (hknown : forall placed, placed ∈ failures -> t.Knows placed.failure)
    {report : Report}
    (h : Happening.reported report ∈
      failures.flatMap (t.placedTrace options tag)) :
    report.Plain (t.bareTexts tag) := by
  rcases List.mem_flatMap.mp h with ⟨placed, hplaced, hreport⟩
  exact plain_of_mem_failureTrace (hknown placed hplaced) hreport

theorem plain_of_mem_successTrace {events fieldErrors : Nat} {report : Report}
    (h : Happening.reported report ∈ successTrace tag events fieldErrors) :
    report.Plain (t.bareTexts tag) := by
  have htag : (Subject.mk tag none).tag ∈ t.bareTexts tag := List.mem_cons_self
  cases List.mem_singleton.mp h
  exact Report.plain_success htag events fieldErrors

/-!
## Runs
-/

theorem mem_trace_of_mem_reports {trace : List Happening} {report : Report}
    (h : report ∈ trace.filterMap Happening.report?) :
    Happening.reported report ∈ trace := by
  rcases List.mem_filterMap.mp h with ⟨happening, hmem, hreport⟩
  cases happening with
  | logged line => cases hreport
  | reported report' =>
      cases hreport
      exact hmem

theorem plain_of_transform {host : Host} {event : Event} {run : Run Record}
    (hrun : t.transform host options tag event = .ok run) {report : Report}
    (h : report ∈ run.reports) : report.Plain (t.bareTexts tag) := by
  rcases except_map_eq_ok hrun with ⟨applied, happlied, rfl⟩
  rcases List.mem_flatMap.mp (mem_trace_of_mem_reports h) with
    ⟨failure, hfailure, hreport⟩
  exact plain_of_mem_failureTrace (knows_of_applyEvent happlied hfailure)
    hreport

theorem plain_of_transformStream {host : Host} {events : List Event}
    {run : Run (List Event)}
    (hrun : t.transformStream host options tag events = .ok run)
    {report : Report} (h : report ∈ run.reports) :
    report.Plain (t.bareTexts tag) := by
  rcases except_map_eq_ok hrun with ⟨batch, hbatch, rfl⟩
  have hknown :
      forall placed, placed ∈ batch.failures -> t.Knows placed.failure :=
    fun placed hplaced => knows_of_applyBatch hbatch hplaced
  have hmem := mem_trace_of_mem_reports h
  unfold streamRun at hmem
  cases hresult : batch.result with
  | error failure =>
      rw [hresult] at hmem
      exact plain_of_mem_placedTraces hknown hmem
  | ok out =>
      rw [hresult] at hmem
      rcases List.mem_append.mp hmem with hfailures | hsuccess
      · exact plain_of_mem_placedTraces hknown hfailures
      · exact plain_of_mem_successTrace hsuccess

def bareTextsOfBuild (config : Config) : List String :=
  match build config with
  | .ok _ => []
  | .error cause => "" :: cause.bareText?.toList

theorem plain_of_create {config : Config} {report : Report}
    (h : report ∈ (create config options).reports) :
    report.Plain (bareTextsOfBuild config) := by
  have hmem := mem_trace_of_mem_reports h
  unfold create at hmem
  unfold bareTextsOfBuild
  cases hbuild : build config with
  | ok t =>
      rw [hbuild] at hmem
      cases hmem
  | error cause =>
      rw [hbuild] at hmem
      rcases List.mem_map.mp hmem with ⟨_, hreport, hsame⟩
      cases hsame
      apply Report.plain_of_mem_failureReports (guarded_build hbuild)
        List.mem_cons_self _ hreport
      intro text htext
      exact List.mem_cons_of_mem "" (Option.mem_toList.mpr htext)

end Transformer

namespace Engine

variable {t : Transformer} {host : Host} {options : ReportOptions}
  {tag : String}

/-- However the steps of the chunks are interleaved, they bring the same texts
into a file. -/
theorem plain_of_run {engine : Engine} {schedule : Schedule}
    {events : List Event} {execution : Execution}
    (hrun : engine.run t host options schedule tag events = .ok execution)
    {report : Report} (h : Happening.reported report ∈ execution.trace) :
    report.Plain (t.bareTexts tag) := by
  rcases except_map_eq_ok hrun with ⟨outcomes, houtcomes, rfl⟩
  rw [trace_execute] at h
  rcases List.mem_append.mp h with hsteps | hsuccess
  · have hlanes :=
      ((interleave_perm schedule.picks _).filterMap Step.happening?).mem_iff.mp
        hsteps
    have hfailures : Happening.reported report ∈
        happenings
          (lanes t options tag schedule.waits outcomes).flatten := hlanes
    rw [happenings_lanes] at hfailures
    rcases List.mem_flatMap.mp hfailures with ⟨outcome, houtcome, hreport⟩
    refine Transformer.plain_of_mem_placedTraces ?_ hreport
    intro placed hplaced
    rcases exists_of_mem_mapM houtcomes houtcome with ⟨chunk, _, hchunk⟩
    rcases except_map_eq_ok hchunk with ⟨batch, hbatch, rfl⟩
    exact Transformer.knows_of_applyBatch hbatch hplaced
  · split at hsuccess
    · cases hsuccess
    · exact Transformer.plain_of_mem_successTrace hsuccess

end Engine

/-- What becomes of the reports of all kinds of runs in a file that listens,
alone or among others. -/
theorem fileLines_of_runs (observer : Observer) (number : Nat)
    (alertFrom : Severity) :
    (forall calls, OneLineEach calls <->
      forall call, call ∈ calls -> Not call.2.Breaks) ∧
      (forall config,
        FileLines observer number (Transformer.bareTextsOfBuild config)
        (Transformer.create config ⟨some observer, alertFrom⟩).reports) ∧
      forall (t : Transformer) (host : Host) (tag : String),
        (forall event run,
          t.transform host ⟨some observer, alertFrom⟩ tag event = .ok run ->
          FileLines observer number (t.bareTexts tag) run.reports) ∧
        (forall events run,
          t.transformStream host ⟨some observer, alertFrom⟩ tag events =
            .ok run ->
            FileLines observer number (t.bareTexts tag) run.reports) ∧
        forall (engine : Engine) schedule events execution,
          engine.run t host ⟨some observer, alertFrom⟩ schedule tag events =
            .ok execution ->
            FileLines observer number (t.bareTexts tag)
              (execution.trace.filterMap Happening.report?) := by
  refine ⟨oneLineEach_iff, ?_, ?_⟩
  · intro config
    exact fileLines_of_plain (fun _ => Transformer.plain_of_create)
      observer number
  · intro t host tag
    refine ⟨?_, ?_, ?_⟩
    · intro event run hrun
      exact fileLines_of_plain (fun _ => Transformer.plain_of_transform hrun)
        observer number
    · intro events run hrun
      exact fileLines_of_plain
        (fun _ => Transformer.plain_of_transformStream hrun) observer number
    · intro engine schedule events execution hrun
      refine fileLines_of_plain ?_ observer number
      intro report hreport
      exact Engine.plain_of_run hrun
        (Transformer.mem_trace_of_mem_reports hreport)

theorem fileLines_of_runs_grouped :
    exists run,
      Transformer.fragile.transformStream ⟨[], [], 0⟩
        ⟨some (.group Observer.assorted), .warning⟩ "a"
          [(1, [("id", .int 7)])] = .ok run ∧
        FileLines (.group Observer.assorted) 1
          (Transformer.fragile.bareTexts "a") run.reports ∧
        run.reports.length = 5 ∧
          OneLineEach (run.reports.map fun report => (7, report)) := by
  have hruns :=
    (fileLines_of_runs (.group Observer.assorted) 1 .warning).right.right
    Transformer.fragile ⟨[], [], 0⟩ "a"
  have hfile := hruns.right.left [(1, [("id", .int 7)])] _ rfl
  refine ⟨_, rfl, hfile, rfl, ?_⟩
  exact (hfile.lines _ rfl).mpr (by decide)

/-- A tag of two lines makes two lines of one call. -/
theorem splitOn_appended_brokenTag :
    exists t run, Transformer.build Config.default = .ok t ∧
      t.transformStream ⟨[], [], 0⟩ ⟨some (.sink ⟨0, .file⟩), .critical⟩
          "a\nb" [] =
        .ok run ∧
      run.reports = [.success ⟨"a\nb", none⟩ 0 0] ∧
      splitOn '\n' (appended (run.reports.map fun report => (7, report))) =
        ["7 ok tag=a".toList, "b events=0 field_errors=0".toList, []] ∧
      Not (OneLineEach (run.reports.map fun report => (7, report))) := by
  refine ⟨_, _, rfl, rfl, rfl, by decide, ?_⟩
  rw [oneLineEach_iff]
  intro h
  have hbreak : '\n' ∈ "a\nb".toList := by decide
  exact h (7, .success ⟨"a\nb", none⟩ 0 0) List.mem_cons_self hbreak

end Reshape
