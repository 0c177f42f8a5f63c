import Reshape.Engine.Duration
import Reshape.Observe.Log

/-!
# Metrics

Counters of an engine.  Each update is a single step, whatever else is running;
a new run starts them over, except for its own number.  The counters are words
and wrap around.
-/

namespace Reshape
namespace Engine

structure Metrics where
  runId : UInt64
  elapsed : UInt64
  eventsProcessed : UInt64
  fieldErrors : UInt64
  chunksStarted : UInt64
  chunksFinished : UInt64
  throttleWait : UInt64
  activeChunks : UInt64
  maxActiveChunks : UInt64
  deriving DecidableEq

inductive Update where
  | beginRun
  | throttled (wait : Duration)
  | chunkStarted
  | eventsProcessed (events : Nat) (fieldErrors : Nat)
  | chunkEnded
  | endRun (elapsed : Duration)
  deriving DecidableEq

/-- The nanoseconds of a duration, or the greatest word if it holds more. -/
def clampWord (d : Duration) : UInt64 :=
  UInt64.ofNat (min d.nanoseconds 0xFFFFFFFFFFFFFFFF)

namespace Metrics

def zero : Metrics := ⟨0, 0, 0, 0, 0, 0, 0, 0, 0⟩

def apply (m : Metrics) : Update -> Metrics
  | .beginRun => { zero with runId := m.runId + 1 }
  | .throttled wait =>
      { m with throttleWait := m.throttleWait + clampWord wait }
  | .chunkStarted =>
      { m with
        chunksStarted := m.chunksStarted + 1
        activeChunks := m.activeChunks + 1
        maxActiveChunks := max m.maxActiveChunks (m.activeChunks + 1) }
  | .eventsProcessed events fieldErrors =>
      { m with
        eventsProcessed := m.eventsProcessed + UInt64.ofNat events
        fieldErrors := m.fieldErrors + UInt64.ofNat fieldErrors }
  | .chunkEnded =>
      { m with
        chunksFinished := m.chunksFinished + 1
        activeChunks := m.activeChunks - 1 }
  | .endRun elapsed => { m with elapsed := clampWord elapsed }

end Metrics

/-!
## Snapshots
-/

/-- The metrics at one moment.  Before the end of a run no time has elapsed. -/
structure Snapshot where
  runId : UInt64
  elapsed : Option Duration
  eventsProcessed : UInt64
  fieldErrors : UInt64
  chunksStarted : UInt64
  chunksFinished : UInt64
  throttleWait : Duration
  maxActiveChunks : UInt64
  deriving DecidableEq

def Metrics.snapshot (m : Metrics) : Snapshot :=
  { runId := m.runId
    elapsed := if m.elapsed = 0 then none else some ⟨m.elapsed.toNat⟩
    eventsProcessed := m.eventsProcessed
    fieldErrors := m.fieldErrors
    chunksStarted := m.chunksStarted
    chunksFinished := m.chunksFinished
    throttleWait := ⟨m.throttleWait.toNat⟩
    maxActiveChunks := m.maxActiveChunks }

namespace Snapshot

def wordText (n : UInt64) : String :=
  LogLine.natText n.toNat

def elapsedText : Option Duration -> String
  | none => "None"
  | some d => "Some(" ++ d.shown ++ ")"

def shown (s : Snapshot) : String :=
  "run_id=" ++ wordText s.runId ++ ", events_processed=" ++
    wordText s.eventsProcessed ++
    ", field_errors=" ++ wordText s.fieldErrors ++ ", chunks=" ++
      wordText s.chunksFinished ++ "/" ++
    wordText s.chunksStarted ++ ", max_active_chunks=" ++
      wordText s.maxActiveChunks ++
    ", throttle_wait=" ++ s.throttleWait.shown ++ ", elapsed=" ++
      elapsedText s.elapsed

end Snapshot

end Engine
end Reshape
