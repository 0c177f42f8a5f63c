import Mathlib.Algebra.Order.BigOperators.Group.List
import Mathlib.Algebra.Order.Group.Nat
import Mathlib.Data.List.Infix
import Reshape.Proofs.Engine.Accounts

/-!
# Overlapping runs

Runs that share an engine may overlap, and each update of the metrics is one
step among those of the other runs.  The engine counts the chunks that are
running, but a run that begins starts this counter over with all others.  So the
counter is right exactly as long as no run begins while a chunk of another is
running.
-/

namespace Reshape
namespace Engine

/-!
## Chunks that are running
-/

def tally (amount : Update -> Nat) (us : List Update) : Nat :=
  (us.map amount).sum

def running (us : List Update) : Nat :=
  tally Update.chunksBegun us - tally Update.chunksDone us

def InOrder (us : List Update) : Prop :=
  forall past, past <+: us ->
    tally Update.chunksDone past ≤ tally Update.chunksBegun past

theorem tally_append (amount : Update -> Nat) (xs ys : List Update) :
    tally amount (xs ++ ys) = tally amount xs + tally amount ys := by
  unfold tally
  rw [List.map_append, List.sum_append]

theorem tally_cons (amount : Update -> Nat) (u : Update) (us : List Update) :
    tally amount (u :: us) = amount u + tally amount us :=
  rfl

theorem tally_concat (amount : Update -> Nat) (us : List Update) (u : Update) :
    tally amount (us ++ [u]) = tally amount us + amount u :=
  tally_append amount us [u]

theorem tally_of_interleaved (amount : Update -> Nat)
    {lanes : List (List Update)} {us : List Update} (h : Interleaved lanes us) :
    tally amount us = (lanes.map (tally amount)).sum := by
  unfold tally
  rw [((perm_of_interleaved h).map amount).sum_eq, List.map_flatten,
    List.sum_flatten, List.map_map]
  rfl

theorem running_concat (us : List Update) (u : Update) :
    running (us ++ [u]) = tally Update.chunksBegun us + u.chunksBegun -
      (tally Update.chunksDone us + u.chunksDone) := by
  unfold running
  rw [tally_concat, tally_concat]

theorem tally_past_le (amount : Update -> Nat) {past us : List Update}
    (h : past <+: us) : tally amount past ≤ tally amount us := by
  rcases h with ⟨rest, rfl⟩
  rw [tally_append]
  exact Nat.le_add_right _ _

theorem inOrder_past {past us : List Update} (hpart : past <+: us)
    (h : InOrder us) : InOrder past :=
  fun earlier hearlier => h earlier (hearlier.trans hpart)

theorem inOrder_cons_of_not_ended {u : Update} {us : List Update}
    (hu : u.chunksDone = 0) (h : InOrder us) : InOrder (u :: us) := by
  intro past hpast
  cases past with
  | nil => exact Nat.le_refl _
  | cons first past =>
      rcases List.cons_prefix_cons.mp hpast with ⟨rfl, hlater⟩
      rw [tally_cons, tally_cons, hu, Nat.zero_add]
      exact Nat.le_trans (h past hlater) (Nat.le_add_left _ _)

theorem inOrder_concat {u : Update} {us : List Update} (hu : u.chunksDone = 0)
    (h : InOrder us) : InOrder (us ++ [u]) := by
  intro past hpast
  rcases List.prefix_concat_iff.mp hpast with rfl | hearlier
  · rw [tally_concat, tally_concat, hu]
    exact Nat.le_trans (h us (List.prefix_refl us)) (Nat.le_add_right _ _)
  · exact h past hearlier

theorem inOrder_started {us : List Update}
    (h : tally Update.chunksDone us ≤ 1) : InOrder (.chunkStarted :: us) := by
  intro past hpast
  cases past with
  | nil => exact Nat.le_refl _
  | cons first past =>
      rcases List.cons_prefix_cons.mp hpast with ⟨rfl, hlater⟩
      rw [tally_cons, tally_cons]
      calc
        0 + tally Update.chunksDone past ≤ 1 := by
          rw [Nat.zero_add]
          exact Nat.le_trans (tally_past_le _ hlater) h
        _ ≤ 1 + tally Update.chunksBegun past := Nat.le_add_right _ _

/-!
## Interleaving
-/

section Lists

variable {α β : Type} {R : α -> β -> Prop}

theorem exists_append_of_forall₂ {xs ys : List α} {zs : List β}
    (h : List.Forall₂ R (xs ++ ys) zs) :
    exists before after, zs = before ++ after ∧ List.Forall₂ R xs before ∧
      List.Forall₂ R ys after := by
  induction xs generalizing zs with
  | nil => exact ⟨[], zs, rfl, .nil, h⟩
  | cons x xs ih =>
      cases h with
      | @cons _ b _ rest hfirst hrest =>
          rcases ih hrest with ⟨before, after, rfl, hbefore, hafter⟩
          exact ⟨b :: before, after, rfl, .cons hfirst hbefore, hafter⟩

theorem forall_mem_of_forall₂ {P : α -> Prop} {Q : β -> Prop}
    (hstep : forall a b, R a b -> P a -> Q b) {xs : List α} {ys : List β}
    (h : List.Forall₂ R xs ys) (hxs : forall a, a ∈ xs -> P a) :
    forall b, b ∈ ys -> Q b := by
  induction h with
  | nil => nofun
  | cons hfirst _ ih =>
      intro b hb
      rcases List.mem_cons.mp hb with rfl | hlater
      · exact hstep _ _ hfirst (hxs _ List.mem_cons_self)
      · exact ih (fun a ha => hxs a (List.mem_cons_of_mem _ ha)) b hlater

theorem exists_parts_of_interleaved {lanes : List (List α)} {out past : List α}
    (h : Interleaved lanes out) (hpast : past <+: out) :
    exists parts, List.Forall₂ (fun lane part => part <+: lane) lanes parts ∧
      Interleaved parts past := by
  induction h generalizing past with
  | @done lanes hempty =>
      rw [List.prefix_nil.mp hpast]
      exact ⟨lanes, List.forall₂_same.mpr fun lane _ => List.prefix_refl lane,
        .done hempty⟩
  | step before first steps after _ ih =>
      cases past with
      | nil =>
          refine ⟨(before ++ (first :: steps) :: after).map fun _ => [], ?_, ?_⟩
          · rw [List.forall₂_map_right_iff]
            exact List.forall₂_same.mpr fun lane _ => List.nil_prefix
          · refine .done ?_
            intro part hpart
            rcases List.mem_map.mp hpart with ⟨_, _, rfl⟩
            rfl
      | cons earliest past =>
          rcases List.cons_prefix_cons.mp hpast with ⟨rfl, hlater⟩
          rcases ih hlater with ⟨parts, hparts, hinterleaved⟩
          rcases exists_append_of_forall₂ hparts with
            ⟨partsBefore, rest, rfl, hbefore, hrest⟩
          cases hrest with
          | @cons _ part _ partsAfter hpart hafter =>
              refine ⟨partsBefore ++ (earliest :: part) :: partsAfter, ?_, ?_⟩
              · exact List.rel_append hbefore
                  (.cons (List.cons_prefix_cons.mpr ⟨rfl, hpart⟩) hafter)
              · exact .step partsBefore earliest part partsAfter hinterleaved

end Lists

theorem inOrder_of_interleaved {lanes : List (List Update)} {us : List Update}
    (h : Interleaved lanes us)
    (hlanes : forall lane, lane ∈ lanes -> InOrder lane) : InOrder us := by
  intro past hpast
  rcases exists_parts_of_interleaved h hpast with ⟨parts, hparts, hinterleaved⟩
  rw [tally_of_interleaved _ hinterleaved, tally_of_interleaved _ hinterleaved]
  apply List.sum_le_sum
  intro part hpart
  have hall :=
    forall_mem_of_forall₂ (fun _ _ hpart => inOrder_past hpart) hparts hlanes
  exact hall part hpart part (List.prefix_refl part)

/-!
## What a call does to the metrics
-/

section Chunks

variable (t : Transformer) (host : Host) (tag : String)

def waitUpdates (wait : Duration) : List Update :=
  if wait.nanoseconds = 0 then [] else [.throttled wait]

/-- The updates of a chunk.  One that overflows does not end. -/
def chunkUpdates (wait : Duration) (chunk : Range × List Event) : List Update :=
  waitUpdates wait ++ .chunkStarted ::
    match ChunkOutcome.ofEvents t host tag chunk with
    | .error _ => []
    | .ok outcome => updates (endSteps outcome)

theorem updates_chunkSteps (options : ReportOptions) (wait : Duration)
    (outcome : ChunkOutcome) :
    updates (chunkSteps t options tag wait outcome) =
      waitUpdates wait ++ .chunkStarted :: updates (endSteps outcome) := by
  have hwait : updates
      (if wait.nanoseconds = 0 then []
        else [.update (.throttled wait), .tell (.throttleWaited wait)]) =
          waitUpdates wait := by
    unfold waitUpdates
    split <;> rfl
  unfold chunkSteps
  rw [updates_append, updates_append, updates_append, updates_map_trace, hwait,
    List.append_nil, List.append_assoc]
  rfl

theorem tally_endSteps (outcome : ChunkOutcome) :
    tally Update.chunksDone (updates (endSteps outcome)) = 1 := by
  unfold endSteps
  split <;> rfl

theorem inOrder_chunkUpdates (wait : Duration) (chunk : Range × List Event) :
    InOrder (chunkUpdates t host tag wait chunk) := by
  have hchunk : InOrder (.chunkStarted ::
      match ChunkOutcome.ofEvents t host tag chunk with
      | .error _ => []
      | .ok outcome => updates (endSteps outcome)) := by
    apply inOrder_started
    split
    · exact Nat.zero_le 1
    · rename_i outcome _
      exact Nat.le_of_eq (tally_endSteps outcome)
  unfold chunkUpdates waitUpdates
  split
  · exact hchunk
  · exact inOrder_cons_of_not_ended rfl hchunk

end Chunks

section Calls

variable (size : Nat) (positive : 0 < size)

def Call.updateLanes (call : Call) : List (List Update) :=
  (call.chunks size positive).mapIdx fun i chunk =>
    chunkUpdates call.transformer call.host call.tag
      (call.schedule.waits.getD i ⟨0⟩) chunk

/-- What a call does to the metrics, whatever they are.  A run that is still
going on, or that has overflowed, has made a part of the updates of each chunk
and has not ended. -/
inductive Makes (call : Call) : List Update -> Prop
  | ended {between : List Update}
      (goes : forall chunk, chunk ∈ call.chunks size positive ->
        Not (call.transformer.OverflowsFirst call.host call.tag chunk.2))
      (each : Interleaved (call.updateLanes size positive) between) :
      Makes call (.beginRun :: between ++ [.endRun call.schedule.elapsed])
  | partly {parts : List (List Update)} {between : List Update}
      (part : List.Forall₂ (fun lane part => part <+: lane)
        (call.updateLanes size positive) parts)
      (each : Interleaved parts between) : Makes call (.beginRun :: between)

/-- What the calls that share an engine do to its metrics, in any order that the
runs can be in. -/
def Shared (calls : List Call) (history : List Update) : Prop :=
  exists lanes, List.Forall₂ (Makes size positive) calls lanes ∧
    Interleaved lanes history

variable {size positive}

theorem exists_makes_of_run {engine : Engine} {call : Call}
    {execution : Execution} (h : call.run engine = .ok execution) :
    exists us, Makes engine.chunkSize engine.positive call us ∧
      execution.engine.metrics = us.foldl Metrics.apply engine.metrics := by
  have hgoes := (exists_run_iff engine call).mp ⟨execution, h⟩
  rcases except_map_eq_ok h with ⟨outcomes, houtcomes, rfl⟩
  have hlanes :
      (lanes call.transformer call.options call.tag call.schedule.waits
          outcomes).map
          updates =
        call.updateLanes engine.chunkSize engine.positive := by
    refine map_mapIdx_of_forall₂ (mapM_eq_ok_iff.mp houtcomes) ?_
    intro i chunk outcome hchunk
    rw [updates_chunkSteps]
    unfold chunkUpdates
    rw [hchunk]
  have heach : Interleaved (call.updateLanes engine.chunkSize engine.positive)
      (updates
        (interleave call.schedule.picks
          (lanes call.transformer call.options call.tag call.schedule.waits
            outcomes))) := by
    rw [← hlanes]
    exact interleaved_filterMap _ (interleaved_interleave _ _)
  refine ⟨_, .ended hgoes heach, ?_⟩
  rw [metrics_execute_eq_foldl, List.cons_append, List.foldl_cons,
    List.foldl_append]
  rfl

theorem inOrder_of_makes {call : Call} {us : List Update}
    (h : Makes size positive call us) : InOrder us := by
  have hlanes :
      forall lane, lane ∈ call.updateLanes size positive -> InOrder lane := by
    intro lane hlane
    rcases List.mem_mapIdx.mp hlane with ⟨i, hi, rfl⟩
    exact inOrder_chunkUpdates _ _ _ _ _
  cases h with
  | ended goes each =>
      have hbetween := inOrder_of_interleaved each hlanes
      exact inOrder_concat rfl (inOrder_cons_of_not_ended rfl hbetween)
  | partly part each =>
      have hparts :=
        forall_mem_of_forall₂ (fun _ _ hpart => inOrder_past hpart) part hlanes
      exact inOrder_cons_of_not_ended rfl (inOrder_of_interleaved each hparts)

theorem inOrder_of_shared {calls : List Call} {history : List Update}
    (h : Shared size positive calls history) : InOrder history := by
  rcases h with ⟨lanes, hlanes, hhistory⟩
  apply inOrder_of_interleaved hhistory
  exact forall_mem_of_forall₂ (P := fun _ => True)
    (fun _ _ hmakes _ => inOrder_of_makes hmakes) hlanes
    fun _ _ => trivial

end Calls

/-!
## The counter of running chunks
-/

def after (us : List Update) : Metrics :=
  us.foldl Metrics.apply .zero

/-- The metrics count the chunks that are running, and no more of them at a time
than have started. -/
structure Counted (past : List Update) (m : Metrics) : Prop where
  active : m.activeChunks.toNat = running past
  most : m.maxActiveChunks.toNat ≤ tally Update.chunksBegun past

section Words

variable {n : UInt64} {begun done : Nat} (h : n.toNat = begun - done)

include h

theorem toNat_started (horder : done ≤ begun)
    (hfew : begun + 1 - (done + 0) < 2 ^ 64) :
    (n + 1).toNat = begun + 1 - (done + 0) := by
  rw [UInt64.toNat_add, h, UInt64.toNat_one, Nat.mod_eq_of_lt (by omega)]
  omega

theorem toNat_ended (horder : done + 1 ≤ begun + 0) :
    (n - 1).toNat = begun + 0 - (done + 1) := by
  have hsome : 1 ≤ n := by
    rw [UInt64.le_iff_toNat_le, h, UInt64.toNat_one]
    omega
  rw [UInt64.toNat_sub_of_le _ _ hsome, h, UInt64.toNat_one]
  omega

end Words

/-- Each update keeps the count, but a run must not begin while a chunk is
running. -/
theorem counted_apply {past : List Update} {m : Metrics} {u : Update}
    (h : Counted past m) (horder : InOrder (past ++ [u]))
    (hidle : u = .beginRun -> running past = 0)
    (hfew : running (past ++ [u]) < 2 ^ 64) :
    Counted (past ++ [u]) (m.apply u) := by
  rcases h with ⟨hactive, hmost⟩
  have hbefore := horder past (List.prefix_append past [u])
  have hnow := horder (past ++ [u]) (List.prefix_refl _)
  rw [tally_concat, tally_concat] at hnow
  rw [running_concat] at hfew
  constructor
  case active =>
    rw [running_concat]
    unfold running at hactive hidle
    cases u with
    | beginRun => exact (hidle rfl).symm
    | chunkStarted => exact toNat_started hactive hbefore hfew
    | chunkEnded => exact toNat_ended hactive hnow
    | _ => exact hactive
  case most =>
    rw [tally_concat]
    cases u with
    | beginRun => exact Nat.zero_le _
    | chunkStarted =>
        show (if m.maxActiveChunks ≤ m.activeChunks + 1 then m.activeChunks + 1
          else m.maxActiveChunks).toNat ≤ _
        split
        · rw [toNat_started hactive hbefore hfew]
          exact Nat.sub_le _ _
        · exact Nat.le_succ_of_le hmost
    | _ => exact hmost

def BeginsIdle (history : List Update) : Prop :=
  forall past, past ++ [.beginRun] <+: history -> running past = 0

def Fits (history : List Update) : Prop :=
  forall past, past <+: history -> running past < 2 ^ 64

theorem counted_foldl {past us : List Update} {m : Metrics} (h : Counted past m)
    (horder : InOrder (past ++ us)) (hidle : BeginsIdle (past ++ us))
    (hfits : Fits (past ++ us)) :
    Counted (past ++ us) (us.foldl Metrics.apply m) := by
  induction us generalizing past m with
  | nil =>
      rw [List.append_nil]
      exact h
  | cons u rest ih =>
      have hmove : past ++ u :: rest = past ++ [u] ++ rest := by
        rw [List.append_assoc]
        rfl
      rw [hmove] at horder hidle hfits ⊢
      have hnext : past ++ [u] <+: past ++ [u] ++ rest :=
        List.prefix_append _ rest
      refine ih (counted_apply h (inOrder_past hnext horder) ?_ (hfits _ hnext))
        horder hidle hfits
      intro hbegins
      exact hidle past (hbegins ▸ hnext)

theorem counted_after {history past : List Update} (hpast : past <+: history)
    (horder : InOrder history) (hidle : BeginsIdle history)
    (hfits : Fits history) : Counted past (after past) := by
  have hnew : Counted [] .zero := ⟨rfl, Nat.le_refl 0⟩
  show Counted ([] ++ past) (past.foldl Metrics.apply .zero)
  refine counted_foldl hnew (inOrder_past hpast horder) ?_ ?_
  · intro earlier hearlier
    exact hidle earlier (hearlier.trans hpast)
  · intro earlier hearlier
    exact hfits earlier (hearlier.trans hpast)

/-- All the time the metrics tell how many chunks are running. -/
structure Tracks (history : List Update) : Prop where
  active : forall past, past <+: history ->
    (after past).activeChunks.toNat = running past
  /-- The end of a chunk never takes the counter below zero. -/
  unwrapped : forall past, past ++ [.chunkEnded] <+: history ->
    0 < (after past).activeChunks
  most : forall past, past <+: history ->
    (after past).maxActiveChunks.toNat ≤ tally Update.chunksBegun past
  idle : forall past, past <+: history -> running past = 0 ->
    (after past).activeChunks = 0

/-- Runs that share an engine are counted right exactly if none of them begins
while a chunk of another is running, up to more chunks at a time than a word can
count. -/
theorem tracks_iff {size : Nat} {positive : 0 < size} {calls : List Call}
    {history : List Update} (h : Shared size positive calls history) :
    Tracks history <-> BeginsIdle history ∧ Fits history := by
  have horder := inOrder_of_shared h
  constructor
  · intro htracks
    constructor
    · intro past hbegins
      have hcount := htracks.active (past ++ [.beginRun]) hbegins
      have hzero : (after (past ++ [.beginRun])).activeChunks = 0 := by
        unfold after
        rw [List.foldl_append]
        rfl
      rw [hzero, running_concat] at hcount
      exact hcount.symm
    · intro past hpast
      rw [← htracks.active past hpast]
      exact UInt64.toNat_lt _
  · intro hconditions
    rcases hconditions with ⟨hidle, hfits⟩
    have hcounted :
        forall past, past <+: history -> Counted past (after past) :=
      fun past hpast => counted_after hpast horder hidle hfits
    constructor
    case active => exact fun past hpast => (hcounted past hpast).active
    case unwrapped =>
      intro past hended
      have hactive :=
        (hcounted past ((List.prefix_append past _).trans hended)).active
      have hnow := horder _ hended
      rw [tally_concat, tally_concat] at hnow
      rw [UInt64.lt_iff_toNat_lt, hactive]
      exact Nat.sub_pos_of_lt hnow
    case most => exact fun past hpast => (hcounted past hpast).most
    case idle =>
      intro past hpast hnone
      rw [← UInt64.toNat_inj, (hcounted past hpast).active]
      exact hnone

def plainCall (events : List Event) : Call :=
  ⟨⟨[], .keepAll, none, .omit, none, none⟩, ⟨[], [], 0⟩, .default,
    .sequential ⟨1⟩, "a", events⟩

theorem makes_plainCall {events : List Event} {between : List Update}
    (h : Interleaved ((plainCall events).updateLanes 1 (by decide)) between) :
    Makes 1 (by decide) (plainCall events)
      (.beginRun :: between ++ [.endRun ⟨1⟩]) := by
  refine .ended ?_ h
  intro chunk _ hoverflows
  rcases hoverflows with ⟨event, overflow, _, halone⟩
  cases halone

def plainChunk : List Update :=
  [.chunkStarted, .eventsProcessed 1 0, .chunkEnded]

/-- Two chunks side by side, and a run with one chunk, in the order of the
picks. -/
def twoRuns (picks : List Nat) : List Update :=
  interleave picks
    [.beginRun :: interleave [0, 1] [plainChunk, plainChunk] ++ [.endRun ⟨1⟩],
      .beginRun :: plainChunk ++ [.endRun ⟨1⟩]]

theorem shared_twoRuns (picks : List Nat) :
    Shared 1 (by decide) [plainCall [(0, []), (1, [])], plainCall [(0, [])]]
      (twoRuns picks) := by
  have htwo : (plainCall [(0, []), (1, [])]).updateLanes 1 (by decide) =
      [plainChunk, plainChunk] := by
    with_unfolding_all rfl
  have hone :
      (plainCall [(0, [])]).updateLanes 1 (by decide) = [plainChunk] := by
    with_unfolding_all rfl
  refine ⟨_, ?_, interleaved_interleave picks _⟩
  refine .cons (makes_plainCall ?_) (.cons (makes_plainCall ?_) .nil)
  · rw [htwo]
    exact interleaved_interleave [0, 1] [plainChunk, plainChunk]
  · rw [hone]
    exact interleaved_flatten [plainChunk]

theorem tracks_iff_begun_first :
    Shared 1 (by decide) [plainCall [(0, []), (1, [])], plainCall [(0, [])]]
        (twoRuns [0, 1, 0, 0, 1]) ∧
      (after ((twoRuns [0, 1, 0, 0, 1]).take 5)).activeChunks = 3 ∧
      Tracks (twoRuns [0, 1, 0, 0, 1]) := by
  have hall : forall past, past ∈ (twoRuns [0, 1, 0, 0, 1]).inits ->
      (past ++ [.beginRun] <+: twoRuns [0, 1, 0, 0, 1] -> running past = 0) ∧
        running past < 2 ^ 64 := by
    decide
  refine ⟨shared_twoRuns _, by
    decide, (tracks_iff (shared_twoRuns _)).mpr ⟨?_, ?_⟩⟩
  · intro past hbegins
    have hpast := (List.prefix_append past [.beginRun]).trans hbegins
    exact (hall past ((List.mem_inits _ _).mpr hpast)).left hbegins
  · intro past hpast
    exact (hall past ((List.mem_inits _ _).mpr hpast)).right

/-- The second run begins while both chunks of the first are running, and sets
the counter to zero.  As these chunks end, it goes below zero, and it is not
zero when none is running.  As one more chunk starts, more are told to have been
running at a time than have started. -/
theorem twoRuns_lose_count :
    Shared 1 (by decide) [plainCall [(0, []), (1, [])], plainCall [(0, [])]]
        (twoRuns [0, 0, 0, 1]) ∧
      (twoRuns [0, 0, 0, 1]).take 9 =
        [.beginRun, .chunkStarted, .chunkStarted, .beginRun,
          .eventsProcessed 1 0, .chunkEnded,
          .eventsProcessed 1 0, .chunkEnded, .endRun ⟨1⟩] ∧
      (after ((twoRuns [0, 0, 0, 1]).take 5)).activeChunks = 0 ∧
      running ((twoRuns [0, 0, 0, 1]).take 8) = 0 ∧
      (after ((twoRuns [0, 0, 0, 1]).take 8)).activeChunks =
        0xFFFFFFFFFFFFFFFE ∧
      tally Update.chunksBegun ((twoRuns [0, 0, 0, 1]).take 10) = 3 ∧
      (after ((twoRuns [0, 0, 0, 1]).take 10)).maxActiveChunks =
        0xFFFFFFFFFFFFFFFF ∧
      Not (Tracks (twoRuns [0, 0, 0, 1])) := by
  refine ⟨shared_twoRuns _, by decide, by decide, by decide, by decide, by
    decide, by decide, ?_⟩
  intro htracks
  have hidle :=
    htracks.idle _ (List.take_prefix 8 (twoRuns [0, 0, 0, 1])) (by decide)
  revert hidle
  decide

end Engine
end Reshape
