import Reshape.Engine.Chunk
import Reshape.Engine.Progress
import Reshape.Transformer

/-!
# Executing a stream in chunks

An engine cuts a stream into chunks and transforms each by itself.  The chunks
may run side by side: each is a list of steps, and a schedule says from which
chunk the next step is taken.  The results are put together in the order of the
stream, so no schedule changes them.  Every chunk runs, whatever becomes of the
others: a time that overflows in one of them ends the whole run.
-/

namespace Reshape

open Transformer (Happening BatchOutcome FieldFailure successTrace)

namespace Engine

structure Options where
  /-- How many threads work; when unset, as many as the machine has. -/
  threads : Option Nat
  chunkSize : Nat
  /-- How many chunks may run at the same time. -/
  maxInFlight : Nat
  deriving DecidableEq

inductive OptionError where
  | chunkSize
  | maxInFlight
  | threads
  deriving DecidableEq

def OptionError.message : OptionError -> String
  | .chunkSize => "chunk_size must be > 0"
  | .maxInFlight => "max_in_flight_chunks must be > 0"
  | .threads => "num_threads must be > 0 when set"

end Engine

/-- An engine with valid options and its metrics. -/
structure Engine where
  chunkSize : Nat
  positive : 0 < chunkSize
  metrics : Engine.Metrics

namespace Engine

def create (options : Options) : Except OptionError Engine :=
  if positive : 0 < options.chunkSize then
    if options.maxInFlight = 0 then .error .maxInFlight
    else if options.threads = some 0 then .error .threads
    else .ok ⟨options.chunkSize, positive, .zero⟩
  else .error .chunkSize

/-!
## Steps
-/

/-- One step that no other chunk can interrupt. -/
inductive Step where
  | update (u : Update)
  | tell (progress : Progress)
  | trace (happening : Happening)

/-- What a chunk came to. -/
structure ChunkOutcome where
  range : Range
  batch : BatchOutcome

def ChunkOutcome.ofEvents (t : Transformer) (host : Host) (tag : String)
    (chunk : Range × List Event) : Except Time.Overflow ChunkOutcome :=
  (t.applyBatch host tag .empty chunk.1.start chunk.2).map
    fun batch => ⟨chunk.1, batch⟩

def endSteps (outcome : ChunkOutcome) : List Step :=
  match outcome.batch.result with
  | .ok out =>
      [.update (.eventsProcessed out.length outcome.batch.failures.length),
        .tell (.chunkFinished out.length outcome.batch.failures.length),
        .update .chunkEnded]
  | .error _ => [.tell (.chunkFailed outcome.range.start), .update .chunkEnded]

/-- The steps of a chunk that waited for its turn, or did not have to. -/
def chunkSteps (t : Transformer) (options : ReportOptions) (tag : String)
    (wait : Duration) (outcome : ChunkOutcome) : List Step :=
  (if wait.nanoseconds = 0 then []
    else [.update (.throttled wait), .tell (.throttleWaited wait)]) ++
  [.update .chunkStarted,
    .tell (.chunkStarted outcome.range.start outcome.range.length)] ++
  (outcome.batch.failures.flatMap (t.placedTrace options tag)).map .trace ++
  endSteps outcome

/-!
## Schedules
-/

structure Schedule where
  /-- From which chunk each step is taken, as long as there are picks; the rest
  runs in order. -/
  picks : List Nat
  /-- How long each chunk waits for its turn. -/
  waits : List Duration
  /-- How long the run has taken when the metrics record its end. -/
  elapsed : Duration
  /-- How long it has taken when its end is told: the clock is read once
  more. -/
  told : Duration

def Schedule.sequential (elapsed : Duration) : Schedule :=
  ⟨[], [], elapsed, elapsed⟩

/-- Takes the first step of the list at a place, if there is one. -/
def takeStep {α : Type} : Nat -> List (List α) -> Option (α × List (List α))
  | _, [] => none
  | 0, steps :: rest =>
      match steps with
      | [] => none
      | step :: steps => some (step, steps :: rest)
  | n + 1, steps :: rest =>
      (takeStep n rest).map fun taken => (taken.1, steps :: taken.2)

/-- All steps, in the order of the picks and then list by list.  A pick that
finds no step is passed over. -/
def interleave {α : Type} : List Nat -> List (List α) -> List α
  | [], lists => lists.flatten
  | pick :: picks, lists =>
      match takeStep pick lists with
      | none => interleave picks lists
      | some (step, lists) => step :: interleave picks lists

/-!
## Runs
-/

/-- The results of the chunks in order, or the failure of the first that failed,
with the number of failures tolerated. -/
def collect : List ChunkOutcome -> Except FieldFailure (List Event × Nat)
  | [] => .ok ([], 0)
  | outcome :: rest => do
      let out <- outcome.batch.result
      let (more, failures) <- collect rest
      return (out ++ more, outcome.batch.failures.length + failures)

inductive Sighting where
  | progress (p : Progress)
  | happening (h : Happening)

def sightings (steps : List Step) : List Sighting :=
  steps.filterMap fun step =>
    match step with
    | .update _ => none
    | .tell progress => some (.progress progress)
    | .trace happening => some (.happening happening)

structure Execution where
  /-- The engine after the run. -/
  engine : Engine
  sightings : List Sighting
  result : Except Error (List Event)

def updates (steps : List Step) : List Update :=
  steps.filterMap fun step =>
    match step with
    | .update u => some u
    | _ => none

def outcomes (engine : Engine) (t : Transformer) (host : Host) (tag : String)
    (events : List Event) : Except Time.Overflow (List ChunkOutcome) :=
  (deal (chunkRanges events.length engine.chunkSize engine.positive)
    events).mapM
    (ChunkOutcome.ofEvents t host tag)

def lanes (t : Transformer) (options : ReportOptions) (tag : String)
    (waits : List Duration) (outcomes : List ChunkOutcome) : List (List Step) :=
  outcomes.mapIdx
    fun i outcome => chunkSteps t options tag (waits.getD i ⟨0⟩) outcome

/-- The execution of a stream of some length whose chunks came to the
outcomes. -/
def execute (engine : Engine) (t : Transformer) (options : ReportOptions)
    (schedule : Schedule) (tag : String) (length : Nat)
    (outcomes : List ChunkOutcome) : Execution :=
  let steps :=
    interleave schedule.picks (lanes t options tag schedule.waits outcomes)
  let begun := engine.metrics.apply .beginRun
  let ended :=
    ((updates steps).foldl Metrics.apply begun).apply (.endRun schedule.elapsed)
  let seen := .progress (.runStarted tag length) :: sightings steps ++
    [.progress (.runFinished schedule.told ended.snapshot)]
  let engine := { engine with metrics := ended }
  match collect outcomes with
  | .error failure => ⟨engine, seen, .error failure.error⟩
  | .ok (out, failures) =>
      let success := (successTrace tag out.length failures).map .happening
      ⟨engine, seen ++ success, .ok out⟩

def run (engine : Engine) (t : Transformer) (host : Host)
    (options : ReportOptions) (schedule : Schedule) (tag : String)
    (events : List Event) : Except Time.Overflow Execution :=
  (engine.outcomes t host tag events).map
    (engine.execute t options schedule tag events.length)

end Engine
end Reshape
