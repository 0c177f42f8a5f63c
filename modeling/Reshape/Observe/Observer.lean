import Reshape.Observe.Report

/-!
# Observers

An observer passes reports on to sinks.  A recorder keeps them, one of them
taking an alert for one more failure; the others write them to the log or to a
file.
-/

namespace Reshape

inductive SinkKind where
  | recorder (tellsAlerts : Bool)
  | log
  | file
  deriving DecidableEq

/-- Sinks of one kind are told apart by their numbers. -/
structure Sink where
  number : Nat
  kind : SinkKind
  deriving DecidableEq

inductive Observer where
  | sink (s : Sink)
  | group (members : List Observer)

/-- What comes of a report at a sink. -/
inductive Effect where
  | recorded (report : Report)
  | logged (line : LogLine)
  | written (entry : String)

namespace Sink

/-- A recorder that does not tell alerts apart keeps an alert as a failure. -/
def heard (s : Sink) (report : Report) : Report :=
  match s.kind, report with
  | .recorder false, .alert subject severity error =>
      .failure subject severity error
  | _, report => report

def effect (s : Sink) (report : Report) : Effect :=
  match s.kind with
  | .recorder _ => .recorded (s.heard report)
  | .log => .logged report.logLine
  | .file => .written report.fileEntry

end Sink

namespace Observer

mutual

/-- The sinks that a report reaches, in the order in which it reaches them. -/
def sinks : Observer -> List Sink
  | .sink s => [s]
  | .group members => memberSinks members

def memberSinks : List Observer -> List Sink
  | [] => []
  | member :: rest => sinks member ++ memberSinks rest

end

mutual

/-- The deliveries that a report sets off. -/
def deliver : Observer -> Report -> List (Sink × Report)
  | .sink s, report => [(s, report)]
  | .group members, report => deliverAll members report

def deliverAll : List Observer -> Report -> List (Sink × Report)
  | [], _ => []
  | member :: rest, report => deliver member report ++ deliverAll rest report

end

def effects (observer : Observer) (report : Report) : List Effect :=
  (observer.deliver report).map fun delivery => delivery.1.effect delivery.2

end Observer

/-!
## Options of a transformer
-/

/-- Who is told of reports, and from which severity on a failure raises an
alert. -/
structure ReportOptions where
  observer : Option Observer
  alertFrom : Severity

namespace ReportOptions

def default : ReportOptions := ⟨none, .critical⟩

def describe (options : ReportOptions) : String :=
  "TransformOptions \x7b observer_set: " ++
    (if options.observer.isSome then "true" else "false") ++
    ", alert_at_or_above: " ++ options.alertFrom.name ++ " \x7d"

def failureReports (options : ReportOptions) (subject : Subject)
    (severity : Severity) (error : Error) : List Report :=
  .failure subject severity error ::
    if severity.atOrAbove options.alertFrom then [.alert subject severity error]
    else []

def effects (options : ReportOptions) (report : Report) : List Effect :=
  match options.observer with
  | none => []
  | some observer => observer.effects report

end ReportOptions

end Reshape
