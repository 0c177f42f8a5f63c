import Reshape.Engine.Metrics

/-!
# Progress

What an engine tells about a run while it goes on.
-/

namespace Reshape
namespace Engine

inductive Progress where
  | runStarted (tag : String) (events : Nat)
  | throttleWaited (wait : Duration)
  | chunkStarted (start : Nat) (events : Nat)
  | chunkFinished (events : Nat) (fieldErrors : Nat)
  | chunkFailed (start : Nat)
  | runFinished (elapsed : Duration) (metrics : Snapshot)
  deriving DecidableEq

namespace Progress

def numberField (name : String) (n : Nat) : String :=
  name ++ ": " ++ LogLine.natText n

/-- A name with its fields between braces. -/
def braced (name : String) (fields : List String) : String :=
  name ++ " \x7b " ++ String.intercalate ", " fields ++ " \x7d"

def snapshotText (s : Snapshot) : String :=
  braced "ExecutionMetricsSnapshot"
    [numberField "run_id" s.runId.toNat,
      "elapsed: " ++ Snapshot.elapsedText s.elapsed,
      numberField "events_processed" s.eventsProcessed.toNat,
      numberField "field_errors" s.fieldErrors.toNat,
      numberField "chunks_started" s.chunksStarted.toNat,
      numberField "chunks_finished" s.chunksFinished.toNat,
      "throttle_wait: " ++ s.throttleWait.shown,
      numberField "max_active_chunks" s.maxActiveChunks.toNat]

def shown : Progress -> String
  | .runStarted tag events =>
      braced "RunStarted"
        ["tag: " ++ Unicode.quoted tag, numberField "event_count" events]
  | .throttleWaited wait => braced "ThrottleWaited" ["duration: " ++ wait.shown]
  | .chunkStarted start events =>
      braced "ChunkStarted"
        [numberField "start_event" start, numberField "event_count" events]
  | .chunkFinished events fieldErrors =>
      braced "ChunkFinished"
        [numberField "output_events" events,
          numberField "field_errors" fieldErrors]
  | .chunkFailed start => braced "ChunkFailed" [numberField "start_event" start]
  | .runFinished elapsed metrics =>
      braced "RunFinished"
        ["elapsed: " ++ elapsed.shown, "metrics: " ++ snapshotText metrics]

def logLine : Progress -> LogLine
  | .runFinished elapsed metrics =>
      ⟨.debug, "execution run finished",
        [("elapsed", elapsed.shown), ("metrics", metrics.shown)]⟩
  | progress => ⟨.debug, "execution event", [("event", progress.shown)]⟩

end Progress

end Engine
end Reshape
