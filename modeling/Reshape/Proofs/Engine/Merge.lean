import Reshape.Engine.Execution
import Reshape.Proofs.Engine.Chunks
import Reshape.Proofs.Stream.Batch

/-!
# Merged chunks

Each chunk is a batch of its own, with a cache of its own.  When none of them
overflows, the chunks in order merge into the batch of all events: the same
events, the same number of failures, or the failure of the earliest event that
failed.
-/

namespace Reshape
namespace Engine

open Transformer (BatchOutcome FieldFailure)

variable {t : Transformer} {host : Host} {tag : String}

theorem ofEvents_eq_oneByOne (t : Transformer) (host : Host) (tag : String)
    (chunk : Range × List Event) :
    ChunkOutcome.ofEvents t host tag chunk =
      (t.oneByOne host tag chunk.1.start chunk.2).map
        fun batch => ⟨chunk.1, batch⟩ := by
  unfold ChunkOutcome.ofEvents
  rw [Transformer.applyBatch_eq_oneByOne (Transformer.steady_empty t host)]

/-!
## Collecting
-/

theorem collect_cons_of_error {outcome : ChunkOutcome} {failure : FieldFailure}
    (h : outcome.batch.result = .error failure) (rest : List ChunkOutcome) :
    collect (outcome :: rest) = .error failure := by
  rw [collect, h]
  rfl

theorem collect_cons_of_ok {outcome : ChunkOutcome} {out : List Event}
    (h : outcome.batch.result = .ok out) (rest : List ChunkOutcome) :
    collect (outcome :: rest) =
      (collect rest).map fun merged =>
        (out ++ merged.1, outcome.batch.failures.length + merged.2) := by
  rw [collect, h]
  show Except.bind (Except.ok out) _ = _
  cases collect rest <;> rfl

/-- Chunks in a row that all come to something merge into the batch of their
events. -/
theorem oneByOne_eq_collect {start : Nat} {chunks : List (Range × List Event)}
    {outcomes : List ChunkOutcome} (hrow : InRow start chunks)
    (h : chunks.mapM (ChunkOutcome.ofEvents t host tag) = .ok outcomes) :
    exists batch : BatchOutcome,
      t.oneByOne host tag start (chunks.flatMap Prod.snd) = .ok batch ∧
        collect outcomes =
          batch.result.map fun out => (out, batch.failures.length) := by
  induction chunks generalizing start outcomes with
  | nil =>
      cases h
      exact ⟨.nil, rfl, rfl⟩
  | cons chunk rest ih =>
      rcases mapM_cons_eq_ok h with ⟨outcome, more, houtcome, hmore, rfl⟩
      rcases hrow with ⟨hstart, hstop, hrest⟩
      rw [ofEvents_eq_oneByOne, hstart] at houtcome
      rcases except_map_eq_ok houtcome with ⟨batch, hbatch, rfl⟩
      rcases ih hrest hmore with ⟨next, hnext, hcollect⟩
      rw [hstop] at hnext
      rw [List.flatMap_cons, Transformer.oneByOne_append, hbatch, hnext]
      cases hresult : batch.result with
      | error failure =>
          refine ⟨batch, BatchOutcome.andThen_of_error hresult _, ?_⟩
          rw [collect_cons_of_error hresult, hresult]
          rfl
      | ok out =>
          refine ⟨batch.followedBy next, BatchOutcome.andThen_of_ok hresult _,
            ?_⟩
          rw [collect_cons_of_ok hresult, hcollect,
            BatchOutcome.result_followedBy hresult,
            BatchOutcome.length_failures_followedBy hresult]
          cases next.result <;> rfl

/-!
## The chunks of an engine
-/

def chunks (engine : Engine) (events : List Event) :
    List (Range × List Event) :=
  deal (chunkRanges events.length engine.chunkSize engine.positive) events

theorem batch_of_outcomes {engine : Engine} {events : List Event}
    {outcomes : List ChunkOutcome}
    (h : engine.outcomes t host tag events = .ok outcomes) :
    exists batch : BatchOutcome, t.oneByOne host tag 0 events = .ok batch ∧
      collect outcomes =
        batch.result.map fun out => (out, batch.failures.length) := by
  have hmerged :=
    oneByOne_eq_collect
      (inRow_deal_chunkRanges engine.chunkSize engine.positive events) h
  rw [flatMap_deal_chunkRanges] at hmerged
  exact hmerged

theorem outcomes_eq_error_iff {engine : Engine} {events : List Event} :
    (exists overflow, engine.outcomes t host tag events = .error overflow) <->
      exists chunk, chunk ∈ engine.chunks events ∧
        t.OverflowsFirst host tag chunk.2 := by
  have hchunk : forall chunk : Range × List Event,
      (exists overflow,
        ChunkOutcome.ofEvents t host tag chunk = .error overflow) <->
        t.OverflowsFirst host tag chunk.2 := by
    intro chunk
    rw [← Transformer.oneByOne_eq_error_iff chunk.1.start, ofEvents_eq_oneByOne]
    cases t.oneByOne host tag chunk.1.start chunk.2 <;> simp [Except.map]
  rw [outcomes, exists_mapM_eq_error_iff]
  simp only [hchunk]
  rfl

end Engine
end Reshape
