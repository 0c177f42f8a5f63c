import Reshape.Config
import Reshape.Event
import Reshape.Observe.Observer

/-!
# Transformers

A transformer is built once from a configuration and then applied to events that
share a tag.  For each event it writes the tag and the time, writes its fields
in order, reduces the keys and normalizes the texts.  Every failure of a field
is reported, whatever becomes of the event.

A time that overflows is no failure of an event: it ends all that is going on,
with nothing to show for it.
-/

namespace Reshape

open Template Unicode

structure Field where
  key : String
  plan : Plan
  deriving DecidableEq

structure Transformer where
  fields : List Field
  keyPolicy : KeyPolicy
  encoding : Option EncodingSpec
  errorPolicy : ErrorPolicy
  tagKey : Option String
  timeField : Option (String × TimeFormatter)
  deriving DecidableEq

namespace Transformer

/-!
## Building
-/

def buildField (field : String × String) : Except ConfigError Field :=
  match Plan.compile field.2 with
  | .ok plan => .ok ⟨field.1, plan⟩
  | .error cause => .error (.template field.1 field.2 cause)

def buildPolicy (config : Config) : Except ConfigError KeyPolicy :=
  (KeyPolicy.ofLists (config.removeKeys.map KeyList.keys)
      (config.whitelistKeys.map KeyList.keys) config.whitelistOrder).mapError
    .keyPolicy

def buildEncoding : Option String -> Except ConfigError (Option EncodingSpec)
  | none => .ok none
  | some spec => ((EncodingSpec.parse spec).map some).mapError .encoding

def buildFormatter (config : Config) : Except ConfigError TimeFormatter :=
  if config.timeAsEpoch then .ok ⟨.epoch, config.localTime⟩
  else
    match config.timeFormat with
    | none => .ok ⟨.iso8601, config.localTime⟩
    | some pattern =>
        (TimeFormatter.ofPattern pattern config.localTime).mapError .timeFormat

def buildTimeField (config : Config) :
    Except ConfigError (Option (String × TimeFormatter)) :=
  match config.timeKey with
  | none => .ok none
  | some key => do return some (key, <- buildFormatter config)

def build (config : Config) : Except ConfigError Transformer := do
  let fields <- config.record.mapM buildField
  let keyPolicy <- buildPolicy config
  let encoding <- buildEncoding config.charEncoding
  let timeField <- buildTimeField config
  return ⟨fields, keyPolicy, encoding, config.errorPolicy, config.tagKey,
    timeField⟩

/-!
## One event
-/

structure FieldFailure where
  field : String
  source : EvalError
  deriving DecidableEq

def FieldFailure.error (failure : FieldFailure) : Error :=
  .evaluation failure.field failure.source

/-- The failures along the way, and what came of it. -/
structure Outcome (α : Type) where
  failures : List FieldFailure
  result : Except FieldFailure α

/-- The parts of a tag between its dots. -/
def partsOf (tag : String) : List String :=
  (splitOn '.' tag.toList).map String.ofList

def needsTagParts (t : Transformer) : Bool :=
  t.fields.any fun field => field.plan.usesTagParts

def context (t : Transformer) (host : Host) (tag : String) (time : Int64)
    (record : Record) : Context :=
  ⟨host, tag, time, record,
    if t.needsTagParts then some (partsOf tag) else none⟩

/-- Writes the fields one after another.  Each sees what the ones before it
wrote. -/
def writeFields (policy : ErrorPolicy) (ctx : Context) :
    List Field -> Outcome Record
  | [] => ⟨[], .ok ctx.record⟩
  | field :: rest =>
      match field.plan.evaluate ctx with
      | .ok value =>
          writeFields policy
            { ctx with record := ctx.record.insert field.key value } rest
      | .error source =>
          let failure := ⟨field.key, source⟩
          match policy with
          | .fail => ⟨[failure], .error failure⟩
          | .omit =>
              let outcome := writeFields policy ctx rest
              ⟨failure :: outcome.failures, outcome.result⟩
          | .null =>
              let record := ctx.record.insert field.key .null
              let outcome :=
                writeFields policy { ctx with record := record } rest
              ⟨failure :: outcome.failures, outcome.result⟩

def writeTag (t : Transformer) (tag : String) (record : Record) : Record :=
  match t.tagKey with
  | none => record
  | some key => record.insert key (.ofString tag)

def writeTime (t : Transformer) (host : Host) (cache : TimeCache) (time : Int64)
    (record : Record) : Except Time.Overflow (Record × TimeCache) :=
  match t.timeField with
  | none => .ok (record, cache)
  | some (key, formatter) =>
      (cache.render formatter host time).map fun rendered =>
        (record.insert key rendered.1, rendered.2)

def finish (t : Transformer) (record : Record) : Record :=
  let reduced := t.keyPolicy.reduce record
  match t.encoding with
  | none => reduced
  | some spec => spec.normalizeFields reduced

/-- What comes of an event whose tag and time are written. -/
def applyFields (t : Transformer) (host : Host) (tag : String) (time : Int64)
    (record : Record) : Outcome Record :=
  let outcome :=
    writeFields t.errorPolicy (t.context host tag time record) t.fields
  ⟨outcome.failures, outcome.result.map t.finish⟩

/-- One event, with the cache that the stream goes on with. -/
def applyEvent (t : Transformer) (host : Host) (tag : String)
    (cache : TimeCache) (event : Event) :
    Except Time.Overflow (Outcome Record × TimeCache) :=
  (t.writeTime host cache event.1 (t.writeTag tag event.2)).map fun timed =>
    (t.applyFields host tag event.1 timed.1, timed.2)

/-!
## Streams
-/

/-- A failure and the position of its event in the stream. -/
structure PlacedFailure where
  event : Nat
  failure : FieldFailure
  deriving DecidableEq

structure BatchOutcome where
  failures : List PlacedFailure
  result : Except FieldFailure (List Event)

/-- The events from a position on, up to the first that fails as a whole. -/
def applyBatch (t : Transformer) (host : Host) (tag : String)
    (cache : TimeCache) (first : Nat) :
    List Event -> Except Time.Overflow BatchOutcome
  | [] => .ok ⟨[], .ok []⟩
  | event :: rest => do
      let applied <- t.applyEvent host tag cache event
      let failures := applied.1.failures.map fun failure => ⟨first, failure⟩
      match applied.1.result with
      | .error failure => return ⟨failures, .error failure⟩
      | .ok record =>
          let batch <- applyBatch t host tag applied.2 (first + 1) rest
          return ⟨failures ++ batch.failures,
            batch.result.map ((event.1, record) :: ·)⟩

/-!
## Runs

A run leaves a result and a trace: the lines it logs itself and the reports it
makes.
-/

inductive Happening where
  | logged (line : LogLine)
  | reported (report : Report)

structure Run (α : Type) where
  trace : List Happening
  result : Except Error α

def policyText : ErrorPolicy -> String
  | .omit => "Omit"
  | .null => "Null"
  | .fail => "Fail"

def severity : ErrorPolicy -> Severity
  | .fail => .error
  | _ => .warning

def failureLine (t : Transformer) (subject : Subject) (failure : FieldFailure) :
    LogLine :=
  ⟨.warn, "field evaluation failed",
    [("tag", subject.tag), ("event", LogLine.optionText subject.event),
      ("field", failure.field), ("policy", policyText t.errorPolicy),
      ("error", failure.error.message)]⟩

def failureTrace (t : Transformer) (options : ReportOptions) (subject : Subject)
    (failure : FieldFailure) : List Happening :=
  .logged (t.failureLine subject failure) ::
    (options.failureReports subject (severity t.errorPolicy) failure.error).map
      .reported

def create (config : Config) (options : ReportOptions) : Run Transformer :=
  match build config with
  | .ok t => ⟨[], .ok t⟩
  | .error cause =>
      let error := Error.config cause
      ⟨(options.failureReports ⟨"", none⟩ .critical error).map .reported,
        .error error⟩

/-- Transforms a single event that belongs to no stream. -/
def transform (t : Transformer) (host : Host) (options : ReportOptions)
    (tag : String) (event : Event) : Except Time.Overflow (Run Record) :=
  (t.applyEvent host tag .empty event).map fun applied =>
    ⟨applied.1.failures.flatMap (t.failureTrace options ⟨tag, none⟩),
      applied.1.result.mapError FieldFailure.error⟩

def placedTrace (t : Transformer) (options : ReportOptions) (tag : String)
    (placed : PlacedFailure) : List Happening :=
  t.failureTrace options ⟨tag, some placed.event⟩ placed.failure

def successTrace (tag : String) (events fieldErrors : Nat) : List Happening :=
  [.reported (.success ⟨tag, none⟩ events fieldErrors)]

def streamRun (t : Transformer) (options : ReportOptions) (tag : String)
    (batch : BatchOutcome) : Run (List Event) :=
  let trace := batch.failures.flatMap (t.placedTrace options tag)
  match batch.result with
  | .error failure => ⟨trace, .error failure.error⟩
  | .ok out =>
      ⟨trace ++ successTrace tag out.length batch.failures.length, .ok out⟩

/-- Transforms the events of a stream in order.  The first that fails as a whole
ends the run, and no later event can overflow. -/
def transformStream (t : Transformer) (host : Host) (options : ReportOptions)
    (tag : String) (events : List Event) :
    Except Time.Overflow (Run (List Event)) :=
  (t.applyBatch host tag .empty 0 events).map (t.streamRun options tag)

end Transformer

/-- What a trace comes to, given who listens. -/
def ReportOptions.traceEffects (options : ReportOptions)
    (trace : List Transformer.Happening) : List Effect :=
  trace.flatMap fun happening =>
    match happening with
    | .logged line => [.logged line]
    | .reported report => options.effects report

end Reshape
