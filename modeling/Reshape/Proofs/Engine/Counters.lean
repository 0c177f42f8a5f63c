import Mathlib.Algebra.BigOperators.Group.List.Basic
import Mathlib.Algebra.Ring.Nat
import Reshape.Proofs.Engine.Interleaving

/-!
# Counters

Within a run the metrics only add up.  What a counter comes to is where it was
at the beginning and what the updates add to it, whatever their order, so it is
told by what each chunk adds.
-/

namespace Reshape
namespace Engine

/-!
## Amounts
-/

namespace Update

def chunksBegun : Update -> Nat
  | .chunkStarted => 1
  | _ => 0

def chunksDone : Update -> Nat
  | .chunkEnded => 1
  | _ => 0

def eventsDone : Update -> Nat
  | .eventsProcessed events _ => events
  | _ => 0

def errorsMet : Update -> Nat
  | .eventsProcessed _ fieldErrors => fieldErrors
  | _ => 0

end Update

namespace Metrics

/-- Every update adds its amount to the counter, but for the one that begins a
run. -/
def Adds (counter : Metrics -> UInt64) (amount : Update -> Nat) : Prop :=
  forall m u, u ≠ .beginRun ->
    counter (m.apply u) = counter m + UInt64.ofNat (amount u)

theorem adds_of_zero {counter : Metrics -> UInt64} {amount : Update -> Nat}
    {u : Update} (m : Metrics) (hkeeps : counter (m.apply u) = counter m)
    (hzero : amount u = 0) :
    counter (m.apply u) = counter m + UInt64.ofNat (amount u) := by
  rw [hkeeps, hzero]
  exact (UInt64.add_zero _).symm

theorem adds_runId : Adds Metrics.runId fun _ => 0 := by
  intro m u hne
  cases u with
  | beginRun => exact absurd rfl hne
  | _ => exact (UInt64.add_zero m.runId).symm

theorem adds_chunksStarted : Adds Metrics.chunksStarted Update.chunksBegun := by
  intro m u hne
  cases u with
  | beginRun => exact absurd rfl hne
  | chunkStarted => rfl
  | _ => exact adds_of_zero m rfl rfl

theorem adds_chunksFinished :
    Adds Metrics.chunksFinished Update.chunksDone := by
  intro m u hne
  cases u with
  | beginRun => exact absurd rfl hne
  | chunkEnded => rfl
  | _ => exact adds_of_zero m rfl rfl

theorem adds_eventsProcessed :
    Adds Metrics.eventsProcessed Update.eventsDone := by
  intro m u hne
  cases u with
  | beginRun => exact absurd rfl hne
  | eventsProcessed events fieldErrors => rfl
  | _ => exact adds_of_zero m rfl rfl

theorem adds_fieldErrors : Adds Metrics.fieldErrors Update.errorsMet := by
  intro m u hne
  cases u with
  | beginRun => exact absurd rfl hne
  | eventsProcessed events fieldErrors => rfl
  | _ => exact adds_of_zero m rfl rfl

theorem foldl_apply_of_adds {counter : Metrics -> UInt64}
    {amount : Update -> Nat} (hadds : Adds counter amount) {us : List Update}
    (hrun : Not (.beginRun ∈ us)) (m : Metrics) :
    counter (us.foldl apply m) =
      counter m + UInt64.ofNat (us.map amount).sum := by
  induction us generalizing m with
  | nil => exact (UInt64.add_zero _).symm
  | cons u rest ih =>
      have hne : u ≠ .beginRun := fun heq => hrun (heq ▸ List.mem_cons_self)
      have hrest : Not (.beginRun ∈ rest) :=
        fun hmem => hrun (List.mem_cons_of_mem u hmem)
      rw [List.foldl_cons, ih hrest, hadds m u hne, List.map_cons,
        List.sum_cons, UInt64.ofNat_add, UInt64.add_assoc]

end Metrics

/-!
## What steps add
-/

theorem updates_append (xs ys : List Step) :
    updates (xs ++ ys) = updates xs ++ updates ys :=
  List.filterMap_append

theorem updates_map_trace (trace : List Transformer.Happening) :
    updates (trace.map .trace) = [] := by
  apply List.filterMap_eq_nil_iff.mpr
  intro step hstep
  rcases List.mem_map.mp hstep with ⟨happening, _, rfl⟩
  rfl

section Amounts

variable (amount : Update -> Nat)

def total (steps : List Step) : Nat :=
  ((updates steps).map amount).sum

theorem total_append (xs ys : List Step) :
    total amount (xs ++ ys) = total amount xs + total amount ys := by
  unfold total
  rw [updates_append, List.map_append, List.sum_append]

theorem total_map_trace (trace : List Transformer.Happening) :
    total amount (trace.map .trace) = 0 := by
  unfold total
  rw [updates_map_trace]
  rfl

theorem total_interleave (picks : List Nat) (lists : List (List Step)) :
    total amount (interleave picks lists) = (lists.map (total amount)).sum := by
  have hperm :
      (updates (interleave picks lists)).Perm (updates lists.flatten) :=
    (interleave_perm picks lists).filterMap _
  have hlists : updates lists.flatten = (lists.map updates).flatten :=
    List.filterMap_flatten
  unfold total
  rw [(hperm.map amount).sum_eq, hlists, List.map_flatten, List.sum_flatten,
    List.map_map, List.map_map]
  rfl

theorem total_chunkSteps
    (hthrottled : forall wait, amount (.throttled wait) = 0) (t : Transformer)
    (options : ReportOptions) (tag : String) (wait : Duration)
    (outcome : ChunkOutcome) :
    total amount (chunkSteps t options tag wait outcome) =
      amount .chunkStarted + total amount (endSteps outcome) := by
  unfold chunkSteps
  rw [total_append, total_append, total_append, total_map_trace]
  have hwait : total amount
      (if wait.nanoseconds = 0 then []
        else [.update (.throttled wait), .tell (.throttleWaited wait)]) =
          0 := by
    split
    · rfl
    · exact hthrottled wait
  have hstart : total amount
      [.update .chunkStarted,
        .tell (.chunkStarted outcome.range.start outcome.range.length)] =
        amount .chunkStarted :=
    Nat.add_zero _
  rw [hwait, hstart, Nat.zero_add, Nat.add_zero]

end Amounts

/-!
## The metrics after a run
-/

theorem beginRun_not_mem_chunkSteps (t : Transformer) (options : ReportOptions)
    (tag : String) (wait : Duration) (outcome : ChunkOutcome) :
    Not (.update .beginRun ∈ chunkSteps t options tag wait outcome) := by
  intro hmem
  unfold chunkSteps at hmem
  simp only [List.mem_append] at hmem
  rcases hmem with ((hwait | hstart) | htrace) | hend
  · split at hwait
    · cases hwait
    · simp at hwait
  · simp at hstart
  · simp at htrace
  · unfold endSteps at hend
    split at hend
    · simp at hend
    · simp at hend

theorem beginRun_not_mem_updates (picks : List Nat) (t : Transformer)
    (options : ReportOptions) (tag : String) (waits : List Duration)
    (outcomes : List ChunkOutcome) :
    Not (.beginRun ∈
      updates (interleave picks (lanes t options tag waits outcomes))) := by
  intro hmem
  rcases List.mem_filterMap.mp hmem with ⟨step, hstep, hupdate⟩
  have hlanes :=
    (interleave_perm picks (lanes t options tag waits outcomes)).mem_iff.mp
      hstep
  rcases List.mem_flatten.mp hlanes with ⟨lane, hlane, hstep⟩
  rcases List.mem_mapIdx.mp hlane with ⟨i, hi, rfl⟩
  cases step with
  | update u =>
      cases hupdate
      exact beginRun_not_mem_chunkSteps t options tag _ _ hstep
  | tell progress => cases hupdate
  | trace happening => cases hupdate

theorem metrics_execute_eq_foldl (engine : Engine) (t : Transformer)
    (options : ReportOptions) (schedule : Schedule) (tag : String)
    (length : Nat) (outcomes : List ChunkOutcome) :
    (engine.execute t options schedule tag length outcomes).engine.metrics =
      ((updates
          (interleave schedule.picks
            (lanes t options tag schedule.waits outcomes))).foldl
          Metrics.apply (engine.metrics.apply .beginRun)).apply
        (.endRun schedule.elapsed) := by
  unfold execute
  cases collect outcomes <;> rfl

theorem metrics_execute {counter : Metrics -> UInt64} {amount : Update -> Nat}
    (hadds : Metrics.Adds counter amount)
    (hend : forall elapsed, amount (.endRun elapsed) = 0) (engine : Engine)
    (t : Transformer) (options : ReportOptions) (schedule : Schedule)
    (tag : String) (length : Nat) (outcomes : List ChunkOutcome) :
    counter
        (engine.execute t options schedule tag length outcomes).engine.metrics =
      counter (engine.metrics.apply .beginRun) +
        UInt64.ofNat
          ((lanes t options tag schedule.waits outcomes).map
            (total amount)).sum := by
  have hended : Update.endRun schedule.elapsed ≠ .beginRun := nofun
  rw [metrics_execute_eq_foldl, hadds _ _ hended, hend,
    Metrics.foldl_apply_of_adds hadds
      (beginRun_not_mem_updates schedule.picks t options tag schedule.waits
        outcomes)]
  show _ + UInt64.ofNat (total amount _) + _ = _
  rw [total_interleave]
  exact UInt64.add_zero _

end Engine
end Reshape
