import Reshape.Proofs.Engine.Counters
import Reshape.Proofs.Engine.Merge
import Reshape.Proofs.Stream.Calls

/-!
# Settled chunks

A chunk is cleared, or it stops at an event that fails as a whole.  What it adds
to the metrics depends on nothing else, and a run fails exactly if one of its
chunks stops.
-/

namespace Reshape
namespace Engine

open Transformer (PlacedFailure FieldFailure)

/-!
## What a chunk comes to
-/

section Settling

variable (t : Transformer) (host : Host) (tag : String)

inductive Settled (chunk : Range × List Event) : ChunkOutcome -> Prop
  | cleared (failures : List PlacedFailure) (out : List Event)
      (clears : t.Clears host tag chunk.2)
      (events : out.length = chunk.2.length)
      (errors : failures.length = t.errorCount host tag chunk.2) :
      Settled chunk ⟨chunk.1, ⟨failures, .ok out⟩⟩
  | stopped (failures : List PlacedFailure) (failure : FieldFailure)
      (stops : Not (t.Clears host tag chunk.2)) :
      Settled chunk ⟨chunk.1, ⟨failures, .error failure⟩⟩

end Settling

variable {t : Transformer} {host : Host} {tag : String}

theorem settled_of_ofEvents {chunk : Range × List Event}
    {outcome : ChunkOutcome}
    (h : ChunkOutcome.ofEvents t host tag chunk = .ok outcome) :
    Settled t host tag chunk outcome := by
  rw [ofEvents_eq_oneByOne] at h
  rcases except_map_eq_ok h with ⟨batch, hbatch, rfl⟩
  have hclears := Transformer.clears_iff_of_oneByOne hbatch
  have hfailures := Transformer.failures_oneByOne hbatch
  cases hresult : batch.result with
  | ok out =>
      have hlength := Transformer.length_of_oneByOne hbatch hresult
      rcases batch with ⟨failures, result⟩
      cases hresult
      have hcleared := hclears.mpr ⟨out, rfl⟩
      refine .cleared failures out hcleared hlength ?_
      rw [← t.length_failuresFrom_of_clears host tag hcleared chunk.1.start]
      exact congrArg List.length hfailures
  | error failure =>
      rcases batch with ⟨failures, result⟩
      cases hresult
      refine .stopped failures failure ?_
      intro hcleared
      rcases hclears.mp hcleared with ⟨out, hout⟩
      cases hout

theorem forall₂_settled {chunks : List (Range × List Event)}
    {outcomes : List ChunkOutcome}
    (h : chunks.mapM (ChunkOutcome.ofEvents t host tag) = .ok outcomes) :
    List.Forall₂ (Settled t host tag) chunks outcomes :=
  (mapM_eq_ok_iff.mp h).imp fun _ _ => settled_of_ofEvents

theorem exists_collect_eq_error_iff {chunks : List (Range × List Event)}
    {outcomes : List ChunkOutcome}
    (h : List.Forall₂ (Settled t host tag) chunks outcomes) :
    (exists failure, collect outcomes = .error failure) <->
      exists chunk, chunk ∈ chunks ∧ Not (t.Clears host tag chunk.2) := by
  induction h with
  | nil =>
      apply iff_of_false
      · intro h
        rcases h with ⟨failure, hfailure⟩
        cases hfailure
      · intro h
        rcases h with ⟨chunk, hchunk, _⟩
        cases hchunk
  | @cons chunk outcome chunks outcomes hsettled hmore ih =>
      cases hsettled with
      | stopped failures failure stops =>
          apply iff_of_true
          · exact ⟨failure, collect_cons_of_error rfl outcomes⟩
          · exact ⟨chunk, List.mem_cons_self, stops⟩
      | cleared failures out clears events errors =>
          rw [collect_cons_of_ok rfl]
          constructor
          · intro h
            rcases h with ⟨failure, hfailure⟩
            cases hcollect : collect outcomes with
            | ok merged =>
                rw [hcollect] at hfailure
                cases hfailure
            | error failure' =>
                rcases ih.mp ⟨failure', hcollect⟩ with ⟨other, hother, hstops⟩
                exact ⟨other, List.mem_cons_of_mem chunk hother, hstops⟩
          · intro h
            rcases h with ⟨other, hother, hstops⟩
            rcases List.mem_cons.mp hother with rfl | hlater
            · exact absurd clears hstops
            · rcases ih.mpr ⟨other, hlater, hstops⟩ with ⟨failure, hcollect⟩
              rw [hcollect]
              exact ⟨failure, rfl⟩

/-!
## What the chunks add up to
-/

section Lists

variable {α β γ δ : Type}

theorem map_mapIdx_of_forall₂ {R : α -> β -> Prop} {f : Nat -> β -> γ}
    {g : γ -> δ} {k : Nat -> α -> δ} {xs : List α} {ys : List β}
    (h : List.Forall₂ R xs ys)
    (hsame : forall i a b, R a b -> g (f i b) = k i a) :
    (ys.mapIdx f).map g = xs.mapIdx k := by
  induction h generalizing f k with
  | nil => rfl
  | cons hfirst hmore ih =>
      rw [List.mapIdx_cons, List.mapIdx_cons, List.map_cons, hsame 0 _ _ hfirst,
        ih fun i a b hab => hsame (i + 1) a b hab]

theorem sum_map_filter (p : α -> Prop) [DecidablePred p] (f : α -> Nat)
    (items : List α) :
    ((items.filter fun a => p a).map f).sum =
      (items.map fun a => if p a then f a else 0).sum := by
  rw [List.sum_map_ite, List.map_const', List.sum_replicate, nsmul_zero,
    Nat.add_zero]

end Lists

section Totals

variable {chunks : List (Range × List Event)} {outcomes : List ChunkOutcome}
  {amount : Update -> Nat}

def chunkTotal (t : Transformer) (host : Host) (tag : String)
    (amount : Update -> Nat) (chunk : Range × List Event) : Nat :=
  amount .chunkStarted +
    ((if t.Clears host tag chunk.2 then
        amount (.eventsProcessed chunk.2.length (t.errorCount host tag chunk.2))
      else 0) + amount .chunkEnded)

theorem total_endSteps {chunk : Range × List Event} {outcome : ChunkOutcome}
    (h : Settled t host tag chunk outcome) (amount : Update -> Nat) :
    total amount (endSteps outcome) =
      (if t.Clears host tag chunk.2 then
          amount
            (.eventsProcessed chunk.2.length (t.errorCount host tag chunk.2))
        else 0) + amount .chunkEnded := by
  cases h with
  | cleared failures out clears events errors =>
      rw [if_pos clears, ← events, ← errors]
      rfl
  | stopped failures failure stops =>
      rw [if_neg stops, Nat.zero_add]
      exact Nat.add_zero _

theorem total_lanes (hthrottled : forall wait, amount (.throttled wait) = 0)
    (h : List.Forall₂ (Settled t host tag) chunks outcomes)
    (options : ReportOptions) (waits : List Duration) :
    ((lanes t options tag waits outcomes).map (total amount)).sum =
      (chunks.map (chunkTotal t host tag amount)).sum := by
  have hlanes : (lanes t options tag waits outcomes).map (total amount) =
      chunks.mapIdx fun _ chunk => chunkTotal t host tag amount chunk := by
    refine map_mapIdx_of_forall₂ h ?_
    intro i chunk outcome hsettled
    rw [total_chunkSteps amount hthrottled, total_endSteps hsettled]
    rfl
  have hplace : forall (i : Nat) (chunk : Range × List Event),
      id (chunkTotal t host tag amount chunk) =
        chunkTotal t host tag amount chunk :=
    fun _ _ => rfl
  rw [hlanes, ← map_mapIdx_of_forall hplace, List.map_id]

end Totals

end Engine
end Reshape
