import Reshape.Proofs.Engine.Settling

/-!
# Progress of a run

Between its start and its end a run tells of the progress of its chunks.  Each
chunk is started once and then finished or failed, in this order, however the
chunks are interleaved.
-/

namespace Reshape
namespace Engine

open Transformer (Happening)

/-!
## The progress of a chunk
-/

section Expected

variable (t : Transformer) (host : Host) (tag : String)

def chunkWork (chunk : Range × List Event) : List Progress :=
  [.chunkStarted chunk.1.start chunk.1.length,
    if t.Clears host tag chunk.2 then
      .chunkFinished chunk.2.length (t.errorCount host tag chunk.2)
    else .chunkFailed chunk.1.start]

def chunkProgress (wait : Duration) (chunk : Range × List Event) :
    List Progress :=
  (if wait.nanoseconds = 0 then [] else [.throttleWaited wait]) ++
    chunkWork t host tag chunk

end Expected

/-!
## The progress of steps
-/

variable {t : Transformer} {host : Host} {tag : String}

def Step.progress? : Step -> Option Progress
  | .tell progress => some progress
  | _ => none

def Sighting.progress? : Sighting -> Option Progress
  | .progress p => some p
  | .happening _ => none

def Execution.progress (execution : Execution) : List Progress :=
  execution.sightings.filterMap Sighting.progress?

theorem progress_sightings (steps : List Step) :
    (sightings steps).filterMap Sighting.progress? =
      steps.filterMap Step.progress? := by
  induction steps with
  | nil => rfl
  | cons step rest ih =>
      cases step with
      | update u => exact ih
      | tell progress => exact congrArg (progress :: ·) ih
      | trace h => exact ih

theorem progress_execute (engine : Engine) (t : Transformer)
    (options : ReportOptions) (schedule : Schedule) (tag : String)
    (length : Nat) (outcomes : List ChunkOutcome) :
    (engine.execute t options schedule tag length outcomes).progress =
      .runStarted tag length ::
        (interleave schedule.picks
            (lanes t options tag schedule.waits outcomes)).filterMap
          Step.progress? ++
        [.runFinished schedule.told
          (engine.execute t options schedule tag length
            outcomes).engine.metrics.snapshot] := by
  unfold Execution.progress execute
  cases collect outcomes with
  | error failure =>
      simp only [List.cons_append, List.filterMap_cons, List.filterMap_append,
        Sighting.progress?, progress_sightings, List.filterMap_nil]
  | ok merged =>
      simp only [List.cons_append, List.filterMap_cons, List.filterMap_append,
        Sighting.progress?, progress_sightings, List.filterMap_nil,
        List.append_assoc]
      rfl

theorem progress_chunkSteps {chunk : Range × List Event}
    {outcome : ChunkOutcome} (h : Settled t host tag chunk outcome)
    (options : ReportOptions) (wait : Duration) :
    (chunkSteps t options tag wait outcome).filterMap Step.progress? =
      chunkProgress t host tag wait chunk := by
  have htrace : forall trace : List Happening,
      (trace.map Step.trace).filterMap Step.progress? = [] := by
    intro trace
    rw [List.filterMap_map]
    exact List.filterMap_eq_nil_iff.mpr fun _ _ => rfl
  unfold chunkSteps chunkProgress chunkWork
  rw [List.filterMap_append, List.filterMap_append, List.filterMap_append,
    htrace, List.append_nil, List.append_assoc]
  congr 1
  · split <;> rfl
  · cases h with
    | cleared failures out clears events errors =>
        rw [if_pos clears, ← events, ← errors]
        rfl
    | stopped failures failure stops =>
        rw [if_neg stops]
        rfl

section Progress

variable {chunks : List (Range × List Event)} {outcomes : List ChunkOutcome}

/-- However the steps are interleaved, each chunk tells of its own progress in
order. -/
theorem interleaved_progress
    (h : List.Forall₂ (Settled t host tag) chunks outcomes)
    (options : ReportOptions) (picks : List Nat) (waits : List Duration) :
    Interleaved
      (chunks.mapIdx
        fun i chunk => chunkProgress t host tag (waits.getD i ⟨0⟩) chunk)
      ((interleave picks (lanes t options tag waits outcomes)).filterMap
        Step.progress?) := by
  have hlanes :
      (lanes t options tag waits outcomes).map (List.filterMap Step.progress?) =
        chunks.mapIdx
          fun i chunk => chunkProgress t host tag (waits.getD i ⟨0⟩) chunk := by
    refine map_mapIdx_of_forall₂ h ?_
    intro i chunk outcome hsettled
    exact progress_chunkSteps hsettled options (waits.getD i ⟨0⟩)
  rw [← hlanes]
  exact interleaved_filterMap Step.progress? (interleaved_interleave picks _)

theorem perm_of_interleaved_progress {β : Type} {f : Progress -> Option β}
    {waits : List Duration} {between : List Progress}
    (h :
      Interleaved
        (chunks.mapIdx
          fun i chunk => chunkProgress t host tag (waits.getD i ⟨0⟩) chunk)
        between)
    (hwait : forall wait, f (.throttleWaited wait) = none) :
    (between.filterMap f).Perm
      (chunks.flatMap
        fun chunk => (chunkWork t host tag chunk).filterMap f) := by
  have hchunk : forall i chunk,
      (chunkProgress t host tag (waits.getD i ⟨0⟩) chunk).filterMap f =
        (chunkWork t host tag chunk).filterMap f := by
    intro i chunk
    unfold chunkProgress
    split
    · rfl
    · exact List.filterMap_cons_none (hwait _)
  have hflatten := (perm_of_interleaved h).filterMap f
  rw [List.filterMap_flatten, map_mapIdx_of_forall hchunk,
    ← List.flatMap_def] at hflatten
  exact hflatten

end Progress

end Engine
end Reshape
