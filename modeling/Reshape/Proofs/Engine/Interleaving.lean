import Reshape.Engine.Execution
import Reshape.Proofs.Stream.Reports

/-!
# Interleaved steps

A schedule only reorders: the steps of a run are the steps of its chunks, each
exactly once.  No chunk reports a success, so however the steps are interleaved,
the one success that a run reports is its own.
-/

namespace Reshape
namespace Engine

open Transformer (Happening successes)

/-!
## Every step once
-/

section Steps

variable {α : Type}

theorem takeStep_eq_some {place : Nat} {lists lists' : List (List α)} {step : α}
    (h : takeStep place lists = some (step, lists')) :
    exists before steps after, lists = before ++ (step :: steps) :: after ∧
      lists' = before ++ steps :: after ∧ before.length = place := by
  induction lists generalizing place lists' with
  | nil =>
      cases place <;> cases h
  | cons steps rest ih =>
      cases place with
      | zero =>
          cases steps with
          | nil => cases h
          | cons first steps =>
              cases h
              exact ⟨[], steps, rest, rfl, rfl, rfl⟩
      | succ place =>
          rw [takeStep] at h
          cases htake : takeStep place rest with
          | none =>
              rw [htake] at h
              cases h
          | some taken =>
              rw [htake] at h
              cases h
              rcases ih htake with ⟨before, more, after, hrest, htaken, hplace⟩
              refine ⟨steps :: before, more, after, ?_, ?_, ?_⟩
              · rw [hrest]
                rfl
              · rw [htaken]
                rfl
              · rw [List.length_cons, hplace]

/-- One list has all items of the lists, those of each list in their order. -/
inductive Interleaved : List (List α) -> List α -> Prop
  | done {lists : List (List α)}
      (h : forall steps, steps ∈ lists -> steps = []) : Interleaved lists []
  | step (before : List (List α)) (first : α) (steps : List α)
      (after : List (List α)) {out : List α}
      (rest : Interleaved (before ++ steps :: after) out) :
      Interleaved (before ++ (first :: steps) :: after) (first :: out)

theorem interleaved_nil_cons {lists : List (List α)} {out : List α}
    (h : Interleaved lists out) : Interleaved ([] :: lists) out := by
  induction h with
  | done h =>
      refine .done ?_
      intro steps hsteps
      rcases List.mem_cons.mp hsteps with rfl | hlater
      · rfl
      · exact h steps hlater
  | step before first steps after _ ih =>
      exact .step ([] :: before) first steps after ih

theorem interleaved_flatten (lists : List (List α)) :
    Interleaved lists lists.flatten := by
  induction lists with
  | nil => exact .done fun _ => nofun
  | cons steps rest ih =>
      induction steps with
      | nil => exact interleaved_nil_cons ih
      | cons first steps ih' => exact .step [] first steps rest ih'

theorem interleaved_interleave (picks : List Nat) (lists : List (List α)) :
    Interleaved lists (interleave picks lists) := by
  induction picks generalizing lists with
  | nil => exact interleaved_flatten lists
  | cons pick picks ih =>
      rw [interleave]
      cases htake : takeStep pick lists with
      | none => exact ih lists
      | some taken =>
          rcases taken with ⟨step, lists'⟩
          rcases takeStep_eq_some htake with ⟨before, steps, after, rfl, rfl, _⟩
          exact .step before step steps after (ih (before ++ steps :: after))

theorem perm_of_interleaved {lists : List (List α)} {out : List α}
    (h : Interleaved lists out) : out.Perm lists.flatten := by
  induction h with
  | done h => rw [List.flatten_eq_nil_iff.mpr h]
  | step before first steps after _ ih =>
      rw [List.flatten_append, List.flatten_cons] at ih ⊢
      exact (ih.cons first).trans List.perm_middle.symm

theorem interleave_perm (picks : List Nat) (lists : List (List α)) :
    (interleave picks lists).Perm lists.flatten :=
  perm_of_interleaved (interleaved_interleave picks lists)

theorem interleaved_filterMap {β : Type} (f : α -> Option β)
    {lists : List (List α)} {out : List α} (h : Interleaved lists out) :
    Interleaved (lists.map (List.filterMap f)) (out.filterMap f) := by
  induction h with
  | done h =>
      refine .done ?_
      intro shown hshown
      rcases List.mem_map.mp hshown with ⟨steps, hsteps, rfl⟩
      rw [h steps hsteps]
      rfl
  | step before first steps after _ ih =>
      rw [List.map_append, List.map_cons] at ih ⊢
      cases hfirst : f first with
      | none =>
          rw [List.filterMap_cons_none hfirst, List.filterMap_cons_none hfirst]
          exact ih
      | some b =>
          rw [List.filterMap_cons_some hfirst, List.filterMap_cons_some hfirst]
          exact .step _ b _ _ ih

/-!
## Steps of one list only

Steps that all stand in one of the lists keep their order, whatever is taken
between them.
-/

variable {β : Type} {f : α -> Option β}

/-- At most one of the lists has steps that show. -/
def Apart (f : α -> Option β) (xs ys : List α) : Prop :=
  xs.filterMap f = [] ∨ ys.filterMap f = []

theorem filterMap_eq_nil_of_cons {step : α} {steps : List α}
    (h : (step :: steps).filterMap f = []) :
    f step = none ∧ steps.filterMap f = [] := by
  cases hstep : f step with
  | none =>
      rw [List.filterMap_cons_none hstep] at h
      exact ⟨rfl, h⟩
  | some b =>
      rw [List.filterMap_cons_some hstep] at h
      cases h

theorem filterMap_of_takeStep {place : Nat} {lists lists' : List (List α)}
    {step : α} (hapart : lists.Pairwise (Apart f))
    (h : takeStep place lists = some (step, lists')) :
    (step :: lists'.flatten).filterMap f = lists.flatten.filterMap f := by
  rcases takeStep_eq_some h with ⟨before, steps, after, rfl, rfl, _⟩
  simp only [List.flatten_append, List.flatten_cons, List.cons_append,
    List.filterMap_append]
  cases hstep : f step with
  | none =>
      rw [List.filterMap_cons_none hstep, List.filterMap_cons_none hstep]
      simp only [List.filterMap_append]
  | some b =>
      have hbefore : before.flatten.filterMap f = [] := by
        rw [List.filterMap_eq_nil_iff]
        intro other hother
        rcases List.mem_flatten.mp hother with ⟨xs, hxs, hmem⟩
        have hcross := (List.pairwise_append.mp hapart).right.right xs hxs
          (step :: steps) List.mem_cons_self
        rcases hcross with hnone | hnone
        · exact List.filterMap_eq_nil_iff.mp hnone other hmem
        · rw [(filterMap_eq_nil_of_cons hnone).left] at hstep
          cases hstep
      rw [List.filterMap_cons_some hstep, List.filterMap_cons_some hstep]
      simp only [List.filterMap_append, hbefore, List.nil_append]

theorem apart_of_takeStep {place : Nat} {lists lists' : List (List α)}
    {step : α} (hapart : lists.Pairwise (Apart f))
    (h : takeStep place lists = some (step, lists')) :
    lists'.Pairwise (Apart f) := by
  rcases takeStep_eq_some h with ⟨before, steps, after, rfl, rfl, _⟩
  have hfewer : forall xs, Apart f xs (step :: steps) -> Apart f xs steps := by
    intro xs hxs
    exact hxs.imp_right fun hnone => (filterMap_eq_nil_of_cons hnone).right
  rcases List.pairwise_append.mp hapart with ⟨hbefore, htail, hcross⟩
  rcases List.pairwise_cons.mp htail with ⟨hhead, hafter⟩
  refine List.pairwise_append.mpr
    ⟨hbefore, List.pairwise_cons.mpr ⟨?_, hafter⟩, ?_⟩
  · intro ys hys
    exact (hhead ys hys).imp_left
      fun hnone => (filterMap_eq_nil_of_cons hnone).right
  · intro xs hxs ys hys
    rcases List.mem_cons.mp hys with rfl | hlater
    · exact hfewer xs (hcross xs hxs (step :: ys) List.mem_cons_self)
    · exact hcross xs hxs ys (List.mem_cons_of_mem _ hlater)

theorem filterMap_interleave (picks : List Nat) {lists : List (List α)}
    (hapart : lists.Pairwise (Apart f)) :
    (interleave picks lists).filterMap f = lists.flatten.filterMap f := by
  induction picks generalizing lists with
  | nil => rfl
  | cons pick picks ih =>
      rw [interleave]
      cases htake : takeStep pick lists with
      | none => exact ih hapart
      | some taken =>
          rcases taken with ⟨step, lists'⟩
          rw [← filterMap_of_takeStep hapart htake, List.filterMap_cons,
            List.filterMap_cons, ih (apart_of_takeStep hapart htake)]

end Steps

/-!
## What an observer hears
-/

def Step.happening? : Step -> Option Happening
  | .trace happening => some happening
  | _ => none

def Sighting.happening? : Sighting -> Option Happening
  | .happening h => some h
  | .progress _ => none

def happenings (steps : List Step) : List Happening :=
  steps.filterMap Step.happening?

def Execution.trace (execution : Execution) : List Happening :=
  execution.sightings.filterMap Sighting.happening?

theorem happenings_append (xs ys : List Step) :
    happenings (xs ++ ys) = happenings xs ++ happenings ys :=
  List.filterMap_append

theorem happenings_map_trace (trace : List Happening) :
    happenings (trace.map .trace) = trace := by
  unfold happenings
  rw [List.filterMap_map]
  exact List.filterMap_some

theorem happenings_sightings (steps : List Step) :
    (sightings steps).filterMap Sighting.happening? = happenings steps := by
  induction steps with
  | nil => rfl
  | cons step rest ih =>
      cases step with
      | update u => exact ih
      | tell progress => exact ih
      | trace h => exact congrArg (h :: ·) ih

theorem map_mapIdx_of_forall {α β γ : Type} {f : Nat -> α -> β} {g : β -> γ}
    {k : α -> γ} (h : forall i a, g (f i a) = k a) (items : List α) :
    (items.mapIdx f).map g = items.map k := by
  induction items generalizing f with
  | nil => rfl
  | cons a rest ih =>
      rw [List.mapIdx_cons, List.map_cons, List.map_cons, h 0 a,
        ih fun i => h (i + 1)]

section Reports

variable (t : Transformer) (options : ReportOptions) (tag : String)

theorem happenings_endSteps (outcome : ChunkOutcome) :
    happenings (endSteps outcome) = [] := by
  unfold endSteps
  cases outcome.batch.result <;> rfl

theorem happenings_chunkSteps (wait : Duration) (outcome : ChunkOutcome) :
    happenings (chunkSteps t options tag wait outcome) =
      outcome.batch.failures.flatMap (t.placedTrace options tag) := by
  unfold chunkSteps
  rw [happenings_append, happenings_append, happenings_append,
    happenings_map_trace, happenings_endSteps, List.append_nil]
  split <;> rfl

theorem happenings_lanes (waits : List Duration)
    (outcomes : List ChunkOutcome) :
    happenings (lanes t options tag waits outcomes).flatten =
      outcomes.flatMap
        fun outcome =>
          outcome.batch.failures.flatMap (t.placedTrace options tag) := by
  have hlanes : (lanes t options tag waits outcomes).map happenings =
      outcomes.map
        fun outcome =>
          outcome.batch.failures.flatMap (t.placedTrace options tag) :=
    map_mapIdx_of_forall
      (fun i outcome =>
          happenings_chunkSteps t options tag (waits.getD i ⟨0⟩) outcome)
        outcomes
  unfold happenings at hlanes ⊢
  rw [List.filterMap_flatten, hlanes, List.flatMap_def]

theorem successes_happenings_interleave (picks : List Nat)
    (waits : List Duration) (outcomes : List ChunkOutcome) :
    successes
        (happenings (interleave picks (lanes t options tag waits outcomes))) =
      [] := by
  have hperm :=
    (interleave_perm picks (lanes t options tag waits outcomes)).filterMap
    Step.happening?
  have hreports := hperm.filterMap Happening.success?
  have hnone :
      successes (happenings (lanes t options tag waits outcomes).flatten) =
        [] := by
    rw [happenings_lanes]
    apply Transformer.successes_flatMap_eq_nil
    intro outcome
    exact Transformer.successes_flatMap_placedTrace t options tag
      outcome.batch.failures
  unfold successes happenings at hnone ⊢
  rw [hnone] at hreports
  exact hreports.eq_nil

end Reports

end Engine
end Reshape
