import Reshape.Proofs.Engine.Merge

/-!
# Chunks at work

Threads work on the chunks event by event, and nothing says whose event comes
next.  What a worker has done and what is still before it together come to the
outcome of its chunk; no event that any worker takes changes that.  So however
the events are interleaved, once every chunk is seen through the outcomes are
those of the chunks one after another, and an overflow comes up in one order
exactly if it does in all.
-/

namespace Reshape
namespace Engine

open Transformer (BatchOutcome FieldFailure)

/-!
## Workers
-/

/-- A chunk at work. -/
structure Worker where
  range : Range
  cache : TimeCache
  /-- The position of the next event. -/
  position : Nat
  pending : List Event
  /-- What the events before came to. -/
  batch : BatchOutcome

namespace Worker

def ofChunk (chunk : Range × List Event) : Worker :=
  ⟨chunk.1, .empty, chunk.1.start, chunk.2, .nil⟩

def outcome (w : Worker) : ChunkOutcome :=
  ⟨w.range, w.batch⟩

/-- How many events the worker may still take.  One that failed takes no
more. -/
def remaining (w : Worker) : Nat :=
  match w.batch.result with
  | .error _ => 0
  | .ok _ => w.pending.length

def step (t : Transformer) (host : Host) (tag : String) (w : Worker) :
    Except Time.Overflow Worker :=
  match w.batch.result, w.pending with
  | .ok _, event :: rest =>
      (t.applyEvent host tag w.cache event).map fun applied =>
        { w with
          cache := applied.2
          position := w.position + 1
          pending := rest
          batch := w.batch.followedBy (.single w.position event applied.1) }
  | _, _ => .ok w

def prospect (t : Transformer) (host : Host) (tag : String) (w : Worker) :
    Except Time.Overflow ChunkOutcome :=
  (w.batch.andThen (t.applyBatch host tag w.cache w.position w.pending)).map
    fun batch =>
    ⟨w.range, batch⟩

end Worker

/-!
## Orders

An order says from which worker each event is taken.
-/

section Orders

variable (t : Transformer) (host : Host) (tag : String)

def advance : Nat -> List Worker -> Except Time.Overflow (List Worker)
  | _, [] => .ok []
  | 0, w :: crew => (w.step t host tag).map (· :: crew)
  | place + 1, w :: crew => (advance place crew).map (w :: ·)

def work : List Nat -> List Worker -> Except Time.Overflow (List Worker)
  | [], crew => .ok crew
  | place :: order, crew => (advance t host tag place crew).bind (work order)

/-- The order comes back to each worker as often as it may take an event. -/
def SeesThrough (order : List Nat) (crew : List Worker) : Prop :=
  forall place w, crew[place]? = some w -> w.remaining ≤ order.count place

end Orders

variable {t : Transformer} {host : Host} {tag : String}

/-!
## One event
-/

theorem step_of_failed {w : Worker} {failure : FieldFailure}
    (h : w.batch.result = .error failure) : w.step t host tag = .ok w := by
  unfold Worker.step
  rw [h]

theorem step_of_nil {w : Worker} (h : w.pending = []) :
    w.step t host tag = .ok w := by
  unfold Worker.step
  rw [h]
  cases w.batch.result <;> rfl

theorem step_of_cons {w : Worker} {out : List Event} {event : Event}
    {rest : List Event} (hresult : w.batch.result = .ok out)
    (hpending : w.pending = event :: rest) :
    w.step t host tag =
      (t.applyEvent host tag w.cache event).map fun applied =>
        ⟨w.range, applied.2, w.position + 1, rest,
          w.batch.followedBy (.single w.position event applied.1)⟩ := by
  unfold Worker.step
  rw [hresult, hpending]

theorem prospect_of_step (t : Transformer) (host : Host) (tag : String)
    (w : Worker) :
    (w.step t host tag).bind (Worker.prospect t host tag) =
      w.prospect t host tag := by
  cases hresult : w.batch.result with
  | error failure =>
      rw [step_of_failed hresult]
      rfl
  | ok out =>
      cases hpending : w.pending with
      | nil =>
          rw [step_of_nil hpending]
          rfl
      | cons event rest =>
          rw [step_of_cons hresult hpending]
          unfold Worker.prospect
          rw [hpending, Transformer.applyBatch_cons]
          cases t.applyEvent host tag w.cache event with
          | error overflow =>
              rw [BatchOutcome.andThen_of_ok hresult]
              rfl
          | ok applied =>
              have hassoc := BatchOutcome.andThen_assoc w.batch
                (.ok (.single w.position event applied.1))
                (t.applyBatch host tag applied.2 (w.position + 1) rest)
              rw [BatchOutcome.andThen_of_ok hresult] at hassoc
              exact congrArg (Except.map (ChunkOutcome.mk w.range)) hassoc

theorem remaining_of_step {w w' : Worker} (h : w.step t host tag = .ok w') :
    w'.remaining ≤ w.remaining - 1 := by
  cases hresult : w.batch.result with
  | error failure =>
      rw [step_of_failed hresult] at h
      cases h
      unfold Worker.remaining
      rw [hresult]
      exact Nat.zero_le _
  | ok out =>
      cases hpending : w.pending with
      | nil =>
          rw [step_of_nil hpending] at h
          cases h
          unfold Worker.remaining
          rw [hresult, hpending]
          exact Nat.zero_le _
      | cons event rest =>
          rw [step_of_cons hresult hpending] at h
          rcases except_map_eq_ok h with ⟨applied, _, rfl⟩
          unfold Worker.remaining
          rw [hresult, hpending]
          cases (w.batch.followedBy
            (.single w.position event applied.1)).result with
          | error failure => exact Nat.zero_le _
          | ok more => exact Nat.le_refl rest.length

theorem prospect_of_done (t : Transformer) (host : Host) (tag : String)
    {w : Worker} (h : w.remaining = 0) :
    w.prospect t host tag = .ok w.outcome := by
  unfold Worker.prospect
  cases hresult : w.batch.result with
  | error failure =>
      rw [BatchOutcome.andThen_of_error hresult]
      rfl
  | ok out =>
      unfold Worker.remaining at h
      rw [hresult] at h
      have hnil : w.pending = [] := List.length_eq_zero_iff.mp h
      rw [hnil]
      show Except.map _ (w.batch.andThen (.ok .nil)) = _
      rw [BatchOutcome.andThen_nil]
      rfl

/-!
## All workers
-/

theorem prospects_of_advance (t : Transformer) (host : Host) (tag : String)
    (place : Nat) (crew : List Worker) :
    (advance t host tag place crew).bind
        (List.mapM (Worker.prospect t host tag)) =
      crew.mapM (Worker.prospect t host tag) := by
  induction crew generalizing place with
  | nil =>
      cases place <;> rfl
  | cons w crew ih =>
      cases place with
      | zero =>
          have hstep := prospect_of_step t host tag w
          cases hw : w.step t host tag with
          | error overflow =>
              rw [hw] at hstep
              rw [advance, hw, mapM_cons_of_error hstep.symm]
              rfl
          | ok w' =>
              rw [hw] at hstep
              have hsame :
                  w'.prospect t host tag = w.prospect t host tag := hstep
              rw [advance, hw]
              show (w' :: crew).mapM _ = (w :: crew).mapM _
              rw [List.mapM_cons, List.mapM_cons, hsame]
      | succ place =>
          have hcrew := ih place
          rw [advance]
          cases hadvance : advance t host tag place crew with
          | error overflow =>
              rw [hadvance] at hcrew
              rw [List.mapM_cons, ← hcrew]
              cases w.prospect t host tag <;> rfl
          | ok crew' =>
              rw [hadvance] at hcrew
              have hsame : crew'.mapM (Worker.prospect t host tag) =
                  crew.mapM (Worker.prospect t host tag) := hcrew
              show (w :: crew').mapM _ = (w :: crew).mapM _
              rw [List.mapM_cons, List.mapM_cons, hsame]

/-- No order of events changes what the workers come to. -/
theorem prospects_of_work (t : Transformer) (host : Host) (tag : String)
    (order : List Nat) (crew : List Worker) :
    (work t host tag order crew).bind (List.mapM (Worker.prospect t host tag)) =
      crew.mapM (Worker.prospect t host tag) := by
  induction order generalizing crew with
  | nil => rfl
  | cons place order ih =>
      have hadvance := prospects_of_advance t host tag place crew
      rw [work, ← hadvance]
      cases advance t host tag place crew with
      | error overflow => rfl
      | ok crew' => exact ih crew'

theorem getElem?_of_advance {place : Nat} {crew crew' : List Worker}
    (h : advance t host tag place crew = .ok crew') {other : Nat} {w' : Worker}
    (hw' : crew'[other]? = some w') :
    exists w, crew[other]? = some w ∧
      if other = place then w.step t host tag = .ok w' else w' = w := by
  induction crew generalizing place crew' other with
  | nil =>
      cases place <;>
        · cases h
          cases hw'
  | cons w crew ih =>
      cases place with
      | zero =>
          rw [advance] at h
          rcases except_map_eq_ok h with ⟨moved, hmoved, rfl⟩
          cases other with
          | zero =>
              cases hw'
              exact ⟨w, rfl, by rw [if_pos rfl]; exact hmoved⟩
          | succ other =>
              exact ⟨w', hw', by rw [if_neg (Nat.succ_ne_zero other)]⟩
      | succ place =>
          rw [advance] at h
          rcases except_map_eq_ok h with ⟨more, hmore, rfl⟩
          cases other with
          | zero =>
              cases hw'
              exact ⟨w', rfl, by rw [if_neg (Nat.succ_ne_zero place).symm]⟩
          | succ other =>
              rcases ih hmore hw' with ⟨before, hbefore, hmoved⟩
              refine ⟨before, hbefore, ?_⟩
              simpa using hmoved

theorem seesThrough_of_advance {place : Nat} {order : List Nat}
    {crew crew' : List Worker} (hsees : SeesThrough (place :: order) crew)
    (h : advance t host tag place crew = .ok crew') :
    SeesThrough order crew' := by
  intro other w' hw'
  rcases getElem?_of_advance h hw' with ⟨w, hw, hmoved⟩
  have hcount := hsees other w hw
  by_cases hplace : other = place
  · rw [if_pos hplace] at hmoved
    have hless := remaining_of_step hmoved
    rw [hplace, List.count_cons_self] at hcount
    rw [hplace]
    lia
  · rw [if_neg hplace] at hmoved
    rw [List.count_cons_of_ne (Ne.symm hplace)] at hcount
    rw [hmoved]
    exact hcount

theorem remaining_of_work {order : List Nat} {crew crew' : List Worker}
    (hsees : SeesThrough order crew)
    (h : work t host tag order crew = .ok crew') :
    forall w, w ∈ crew' -> w.remaining = 0 := by
  induction order generalizing crew with
  | nil =>
      cases h
      intro w hw
      rcases List.mem_iff_getElem?.mp hw with ⟨place, hplace⟩
      have hcount := hsees place w hplace
      rw [List.count_nil] at hcount
      exact Nat.le_zero.mp hcount
  | cons place order ih =>
      rw [work] at h
      cases hadvance : advance t host tag place crew with
      | error overflow =>
          rw [hadvance] at h
          cases h
      | ok moved =>
          rw [hadvance] at h
          exact ih (seesThrough_of_advance hsees hadvance) h

theorem exists_seesThrough (crew : List Worker) :
    exists order, SeesThrough order crew := by
  induction crew with
  | nil =>
      exists []
      intro place w hw
      cases hw
  | cons first crew ih =>
      rcases ih with ⟨order, hsees⟩
      exists List.replicate first.remaining 0 ++ order.map (· + 1)
      intro place w hw
      rw [List.count_append]
      cases place with
      | zero =>
          cases hw
          rw [List.count_replicate_self]
          exact Nat.le_add_right _ _
      | succ place =>
          calc
            w.remaining ≤ order.count place := hsees place w hw
            _ ≤ (order.map (· + 1)).count (place + 1) := List.count_le_count_map
            _ ≤ _ := Nat.le_add_left _ _

theorem mapM_prospect_of_done {crew : List Worker}
    (h : forall w, w ∈ crew -> w.remaining = 0) :
    crew.mapM (Worker.prospect t host tag) = .ok (crew.map Worker.outcome) := by
  induction crew with
  | nil => rfl
  | cons w crew ih =>
      have hw := prospect_of_done t host tag (h w List.mem_cons_self)
      have hcrew :=
        ih fun other hother => h other (List.mem_cons_of_mem w hother)
      rw [mapM_cons_of_ok hw, hcrew]
      rfl

/-!
## The outcomes
-/

theorem mapM_prospect_ofChunk (chunks : List (Range × List Event)) :
    (chunks.map Worker.ofChunk).mapM (Worker.prospect t host tag) =
      chunks.mapM (ChunkOutcome.ofEvents t host tag) := by
  induction chunks with
  | nil => rfl
  | cons chunk rest ih =>
      have hchunk : (Worker.ofChunk chunk).prospect t host tag =
          ChunkOutcome.ofEvents t host tag chunk := by
        unfold Worker.prospect Worker.ofChunk ChunkOutcome.ofEvents
        rw [BatchOutcome.nil_andThen]
      rw [List.map_cons, List.mapM_cons, List.mapM_cons, hchunk, ih]

/-- Whatever the order of the events, the workers come to the outcomes of the
chunks. -/
theorem outcomes_eq_work {engine : Engine} {events : List Event}
    {order : List Nat}
    (hsees : SeesThrough order ((engine.chunks events).map Worker.ofChunk)) :
    (work t host tag order ((engine.chunks events).map Worker.ofChunk)).map
        (List.map Worker.outcome) =
      engine.outcomes t host tag events := by
  have hprospects := prospects_of_work t host tag order
    ((engine.chunks events).map Worker.ofChunk)
  rw [mapM_prospect_ofChunk] at hprospects
  unfold outcomes
  show _ = (engine.chunks events).mapM _
  rw [← hprospects]
  cases hwork : work t host tag order
    ((engine.chunks events).map Worker.ofChunk) with
  | error overflow => rfl
  | ok crew =>
      exact (mapM_prospect_of_done (remaining_of_work hsees hwork)).symm

end Engine
end Reshape
