import Reshape.Error
import Reshape.Observe.Log

/-!
# Reports

What a transformer tells its observer: that a stream is done, that a field or a
configuration failed, and that a failure was grave.
-/

namespace Reshape

inductive Severity where
  | info
  /-- A field failed, but its event goes on. -/
  | warning
  /-- An event failed. -/
  | error
  /-- A transformer could not be built. -/
  | critical
  deriving DecidableEq

namespace Severity

def name : Severity -> String
  | .info => "Info"
  | .warning => "Warning"
  | .error => "Error"
  | .critical => "Critical"

def rank : Severity -> Nat
  | .info => 0
  | .warning => 1
  | .error => 2
  | .critical => 3

def atOrAbove (s threshold : Severity) : Bool :=
  threshold.rank ≤ s.rank

end Severity

/-- What a report is about: a tag, and one event of the stream by its
position. -/
structure Subject where
  tag : String
  event : Option Nat
  deriving DecidableEq

inductive Report where
  | success (subject : Subject) (events : Nat) (fieldErrors : Nat)
  | failure (subject : Subject) (severity : Severity) (error : Error)
  | alert (subject : Subject) (severity : Severity) (error : Error)

namespace Report

/-!
## Reports as log lines
-/

def failureFields (subject : Subject) (error : Error) :
    List (String × String) :=
  [("tag", subject.tag), ("event", LogLine.optionText subject.event),
    ("error", error.message)]

def graveFields (subject : Subject) (severity : Severity) (error : Error) :
    List (String × String) :=
  [("tag", subject.tag), ("event", LogLine.optionText subject.event),
    ("severity", severity.name), ("error", error.message)]

def logLine : Report -> LogLine
  | .success subject events fieldErrors =>
      ⟨.info, "transformed stream",
        [("tag", subject.tag), ("events", LogLine.natText events),
         ("field_errors", LogLine.natText fieldErrors)]⟩
  | .failure subject .info error =>
      ⟨.info, "transform", failureFields subject error⟩
  | .failure subject .warning error =>
      ⟨.warn, "transform failure", failureFields subject error⟩
  | .failure subject severity error =>
      ⟨.error, "transform failure", graveFields subject severity error⟩
  | .alert subject severity error =>
      ⟨.error, "ALERT", graveFields subject severity error⟩

/-!
## Reports in a file
-/

def fileFields (subject : Subject) (severity : Severity) (error : Error) :
    String :=
  " severity=" ++ severity.name ++ " tag=" ++ subject.tag ++ " event=" ++
    LogLine.optionText subject.event ++ " err=" ++ error.message

/-- The entry of a report, which follows the time of writing and a space. -/
def fileEntry : Report -> String
  | .success subject events fieldErrors =>
      "ok tag=" ++ subject.tag ++ " events=" ++ LogLine.natText events ++
        " field_errors=" ++
        LogLine.natText fieldErrors
  | .failure subject severity error =>
      "fail" ++ fileFields subject severity error
  | .alert subject severity error =>
      "ALERT" ++ fileFields subject severity error

end Report

end Reshape
