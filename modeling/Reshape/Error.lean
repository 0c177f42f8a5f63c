import Reshape.EncodingSpec
import Reshape.Key.Policy
import Reshape.Template.Evaluation
import Reshape.Time.Formatter

/-!
# Errors

A configuration is refused once, when a transformer is built.  A field can fail
for every event.  Events and configurations that are read from a text or a file
can be malformed.
-/

namespace Reshape

open Template

/-- Why a configuration is refused. -/
inductive ConfigError where
  | template (key : String) (raw : String) (cause : TemplateError)
  | keyPolicy (cause : KeyPolicy.Error)
  | encoding (cause : EncodingSpec.Error)
  | timeFormat (cause : TimeFormatter.Error)
  | stated (reason : String)

def ConfigError.message : ConfigError -> String
  | .template key raw cause =>
      "invalid template for field '" ++ key ++ "' (value = " ++
        Unicode.quoted raw ++ "): " ++
        cause.message
  | .keyPolicy cause => cause.message
  | .encoding cause => cause.message
  | .timeFormat cause => cause.message
  | .stated reason => reason

/-- Why a line or an item is no event. -/
inductive RecordError where
  | malformed
  | timeNotInteger (found : Json)
  | notPair
  | notEvent (found : Json)
  | stated (reason : String)

def RecordError.message : RecordError -> String
  | .malformed => "malformed JSON"
  | .timeNotInteger found =>
      "event time must be an integer, got " ++ found.render
  | .notPair => "expected [time, record]"
  | .notEvent found =>
      "expected an object or [time, record], got " ++ found.render
  | .stated reason => reason

inductive Error where
  | config (cause : ConfigError)
  | evaluation (field : String) (source : EvalError)
  | json
  | io (reason : String)
  | invalidRecord (line : Nat) (cause : RecordError)

def Error.message : Error -> String
  | .config cause => "config error: " ++ cause.message
  | .evaluation field source =>
      "failed to evaluate field '" ++ field ++ "': " ++ source.message
  | .json => "json error: malformed JSON"
  | .io reason => "io error: " ++ reason
  | .invalidRecord line cause =>
      "invalid event at line " ++ decimal line ++ ": " ++ cause.message

end Reshape
