import Reshape.Proofs.Stream.Alone

/-!
# Batches

A batch is its events one by one: the first that fails ends it with its failure,
and the first that overflows ends all that is going on.  Batches of consecutive
events put together are the batch of all of them.
-/

namespace Reshape
namespace Transformer

/-!
## Putting batches together
-/

namespace BatchOutcome

def nil : BatchOutcome := ⟨[], .ok []⟩

def single (position : Nat) (event : Event) (outcome : Outcome Record) :
    BatchOutcome :=
  ⟨outcome.failures.map fun failure => ⟨position, failure⟩,
    outcome.result.map fun record => [(event.1, record)]⟩

/-- A batch with the one after it.  A batch that failed has none after it. -/
def followedBy (batch next : BatchOutcome) : BatchOutcome :=
  match batch.result with
  | .error _ => batch
  | .ok out => ⟨batch.failures ++ next.failures, next.result.map (out ++ ·)⟩

def andThen (batch : BatchOutcome) (next : Except Time.Overflow BatchOutcome) :
    Except Time.Overflow BatchOutcome :=
  match batch.result with
  | .error _ => .ok batch
  | .ok _ => next.map batch.followedBy

theorem followedBy_assoc (a b c : BatchOutcome) :
    (a.followedBy b).followedBy c = a.followedBy (b.followedBy c) := by
  rcases a with ⟨failures, result⟩
  rcases b with ⟨failures', result'⟩
  rcases c with ⟨failures'', result''⟩
  cases result with
  | error failure => rfl
  | ok out =>
      cases result' with
      | error failure => rfl
      | ok more =>
          cases result'' <;>
            simp [followedBy, Except.map]

theorem result_followedBy {batch : BatchOutcome} {out : List Event}
    (h : batch.result = .ok out) (next : BatchOutcome) :
    (batch.followedBy next).result = next.result.map (out ++ ·) := by
  unfold followedBy
  rw [h]

theorem length_failures_followedBy {batch : BatchOutcome} {out : List Event}
    (h : batch.result = .ok out) (next : BatchOutcome) :
    (batch.followedBy next).failures.length =
      batch.failures.length + next.failures.length := by
  unfold followedBy
  rw [h]
  exact List.length_append

theorem length_failures_single (position : Nat) (event : Event)
    (outcome : Outcome Record) :
    (single position event outcome).failures.length = outcome.failures.length :=
  List.length_map _

theorem andThen_of_error {batch : BatchOutcome} {failure : FieldFailure}
    (h : batch.result = .error failure)
    (next : Except Time.Overflow BatchOutcome) :
    batch.andThen next = .ok batch := by
  unfold andThen
  rw [h]

theorem andThen_of_ok {batch : BatchOutcome} {out : List Event}
    (h : batch.result = .ok out) (next : Except Time.Overflow BatchOutcome) :
    batch.andThen next = next.map batch.followedBy := by
  unfold andThen
  rw [h]

theorem nil_andThen (next : Except Time.Overflow BatchOutcome) :
    nil.andThen next = next := by
  cases next with
  | error overflow => rfl
  | ok batch =>
      rcases batch with ⟨failures, result⟩
      cases result <;> rfl

theorem andThen_nil (batch : BatchOutcome) :
    batch.andThen (.ok nil) = .ok batch := by
  rcases batch with ⟨failures, result⟩
  cases result <;>
    simp [andThen, followedBy, nil, Except.map]

theorem andThen_assoc (batch : BatchOutcome)
    (next last : Except Time.Overflow BatchOutcome) :
    (batch.andThen next).bind (·.andThen last) =
      batch.andThen (next.bind (·.andThen last)) := by
  cases hresult : batch.result with
  | error failure =>
      rw [andThen_of_error hresult, andThen_of_error hresult]
      exact andThen_of_error hresult last
  | ok out =>
      rw [andThen_of_ok hresult, andThen_of_ok hresult]
      cases next with
      | error overflow => rfl
      | ok middle =>
          show (batch.followedBy middle).andThen last =
              (middle.andThen last).map batch.followedBy
          cases hmiddle : middle.result with
          | error failure =>
              have hboth :
                  (batch.followedBy middle).result = .error failure := by
                rw [result_followedBy hresult, hmiddle]
                rfl
              rw [andThen_of_error hmiddle, andThen_of_error hboth]
              rfl
          | ok more =>
              have hboth :
                  (batch.followedBy middle).result = .ok (out ++ more) := by
                rw [result_followedBy hresult, hmiddle]
                rfl
              rw [andThen_of_ok hmiddle, andThen_of_ok hboth, except_map_map]
              cases last with
              | error overflow => rfl
              | ok end' =>
                  exact congrArg Except.ok (followedBy_assoc batch middle end')

end BatchOutcome

/-!
## One by one
-/

theorem applyBatch_cons (t : Transformer) (host : Host) (tag : String)
    (cache : TimeCache) (first : Nat) (event : Event) (rest : List Event) :
    t.applyBatch host tag cache first (event :: rest) =
      (t.applyEvent host tag cache event).bind fun applied =>
        (BatchOutcome.single first event applied.1).andThen
          (t.applyBatch host tag applied.2 (first + 1) rest) := by
  rw [applyBatch]
  cases t.applyEvent host tag cache event with
  | error overflow => rfl
  | ok applied =>
      rcases applied with ⟨⟨failures, result⟩, cache'⟩
      cases result with
      | error failure => rfl
      | ok record =>
          show Except.bind (t.applyBatch host tag cache' (first + 1) rest) _ =
              Except.map _ _
          cases t.applyBatch host tag cache' (first + 1) rest <;> rfl

/-- The events from a position on, each by itself, up to the first that does not
go through. -/
def oneByOne (t : Transformer) (host : Host) (tag : String) (first : Nat) :
    List Event -> Except Time.Overflow BatchOutcome
  | [] => .ok .nil
  | event :: rest =>
      (t.alone host tag event).bind fun outcome =>
        (BatchOutcome.single first event outcome).andThen
          (t.oneByOne host tag (first + 1) rest)

theorem applyBatch_eq_oneByOne {t : Transformer} {host : Host}
    {cache : TimeCache} (hcache : t.Steady host cache) (tag : String)
    (first : Nat) (events : List Event) :
    t.applyBatch host tag cache first events =
      t.oneByOne host tag first events := by
  induction events generalizing cache first with
  | nil => rfl
  | cons event rest ih =>
      have halone := applyEvent_of_steady hcache tag event
      rw [applyBatch_cons, oneByOne, ← halone]
      cases happlied : t.applyEvent host tag cache event with
      | error overflow => rfl
      | ok applied =>
          have hrest := ih (steady_of_applyEvent hcache happlied) (first + 1)
          show BatchOutcome.andThen _
                (t.applyBatch host tag applied.2 (first + 1) rest) =
              _
          rw [hrest]
          rfl

theorem oneByOne_append (t : Transformer) (host : Host) (tag : String)
    (first : Nat) (xs ys : List Event) :
    t.oneByOne host tag first (xs ++ ys) =
      (t.oneByOne host tag first xs).bind
        (·.andThen (t.oneByOne host tag (first + xs.length) ys)) := by
  induction xs generalizing first with
  | nil =>
      exact (BatchOutcome.nil_andThen (t.oneByOne host tag first ys)).symm
  | cons event rest ih =>
      have hlength :
          first + (event :: rest).length = first + 1 + rest.length := by
        rw [List.length_cons, Nat.add_comm rest.length 1, Nat.add_assoc]
      rw [List.cons_append, oneByOne, oneByOne, hlength, ih (first + 1)]
      cases t.alone host tag event with
      | error overflow => rfl
      | ok outcome =>
          exact (BatchOutcome.andThen_assoc (.single first event outcome)
            _ _).symm

/-!
## The first event that does not go through
-/

section Stops

variable (t : Transformer) (host : Host) (tag : String)

def Passes (event : Event) : Prop :=
  exists outcome record, t.alone host tag event = .ok outcome ∧
    outcome.result = .ok record

def Reaches (events : List Event) (event : Event) : Prop :=
  exists before after, events = before ++ event :: after ∧
    forall earlier, earlier ∈ before -> t.Passes host tag earlier

def FailsFirst (failure : FieldFailure) (events : List Event) : Prop :=
  exists event outcome, t.Reaches host tag events event ∧
    t.alone host tag event = .ok outcome ∧ outcome.result = .error failure

def OverflowsFirst (events : List Event) : Prop :=
  exists event overflow, t.Reaches host tag events event ∧
    t.alone host tag event = .error overflow

end Stops

variable {t : Transformer} {host : Host} {tag : String}

theorem oneByOne_cons_of_overflow {event : Event} {overflow : Time.Overflow}
    (h : t.alone host tag event = .error overflow) (first : Nat)
    (rest : List Event) :
    t.oneByOne host tag first (event :: rest) = .error overflow := by
  rw [oneByOne, h]
  rfl

theorem oneByOne_cons_of_ok {event : Event} {outcome : Outcome Record}
    (h : t.alone host tag event = .ok outcome) (first : Nat)
    (rest : List Event) :
    t.oneByOne host tag first (event :: rest) =
      (BatchOutcome.single first event outcome).andThen
        (t.oneByOne host tag (first + 1) rest) := by
  rw [oneByOne, h]
  rfl

theorem single_of_failure {outcome : Outcome Record} {failure : FieldFailure}
    (h : outcome.result = .error failure) (position : Nat) (event : Event) :
    (BatchOutcome.single position event outcome).result = .error failure := by
  unfold BatchOutcome.single
  rw [h]
  rfl

theorem single_of_success {outcome : Outcome Record} {record : Record}
    (h : outcome.result = .ok record) (position : Nat) (event : Event) :
    (BatchOutcome.single position event outcome).result =
      .ok [(event.1, record)] := by
  unfold BatchOutcome.single
  rw [h]
  rfl

/-!
## How a batch ends

All events pass, or there is a first one that fails, or there is a first one
that overflows.  Each case settles what the batch comes to.
-/

theorem mem_of_reaches {events : List Event} {event : Event}
    (h : t.Reaches host tag events event) : event ∈ events := by
  rcases h with ⟨before, after, rfl, _⟩
  exact List.mem_append_right before List.mem_cons_self

theorem reaches_head (event : Event) (rest : List Event) :
    t.Reaches host tag (event :: rest) event := by
  refine ⟨[], rest, rfl, ?_⟩
  intro earlier hearlier
  cases hearlier

theorem reaches_cons {event stop : Event} {rest : List Event}
    (hevent : t.Passes host tag event) (h : t.Reaches host tag rest stop) :
    t.Reaches host tag (event :: rest) stop := by
  rcases h with ⟨before, after, rfl, hbefore⟩
  refine ⟨event :: before, after, rfl, ?_⟩
  intro earlier hearlier
  rcases List.mem_cons.mp hearlier with rfl | hlater
  · exact hevent
  · exact hbefore earlier hlater

theorem passes_or_stops (t : Transformer) (host : Host) (tag : String)
    (events : List Event) :
    (forall event, event ∈ events -> t.Passes host tag event) ∨
      (exists failure, t.FailsFirst host tag failure events) ∨
      t.OverflowsFirst host tag events := by
  induction events with
  | nil =>
      left
      intro event hevent
      cases hevent
  | cons event rest ih =>
      cases halone : t.alone host tag event with
      | error overflow =>
          right
          right
          exact ⟨event, overflow, reaches_head event rest, halone⟩
      | ok outcome =>
          cases hresult : outcome.result with
          | error failure =>
              right
              left
              exact ⟨failure, event, outcome, reaches_head event rest,
                halone, hresult⟩
          | ok record =>
              have hpasses : t.Passes host tag event :=
                ⟨outcome, record, halone, hresult⟩
              rcases ih with hall | ⟨failure, stop, outcome', hstop, hfails⟩ |
                ⟨stop, overflow, hstop, hoverflows⟩
              · left
                intro other hother
                rcases List.mem_cons.mp hother with rfl | hlater
                · exact hpasses
                · exact hall other hlater
              · right
                left
                exact ⟨failure, stop, outcome',
                  reaches_cons hpasses hstop, hfails⟩
              · right
                right
                exact ⟨stop, overflow, reaches_cons hpasses hstop, hoverflows⟩

theorem oneByOne_of_passes {events : List Event}
    (h : forall event, event ∈ events -> t.Passes host tag event)
    (first : Nat) :
    exists batch out, t.oneByOne host tag first events = .ok batch ∧
      batch.result = .ok out := by
  induction events generalizing first with
  | nil => exact ⟨.nil, [], rfl, rfl⟩
  | cons event rest ih =>
      rcases h event List.mem_cons_self with ⟨outcome, record, halone, hresult⟩
      have hrest : forall later, later ∈ rest -> t.Passes host tag later := by
        intro later hlater
        exact h later (List.mem_cons_of_mem event hlater)
      rcases ih hrest (first + 1) with ⟨batch, out, hbatch, hout⟩
      have hsingle := single_of_success hresult first event
      rw [oneByOne_cons_of_ok halone, hbatch,
        BatchOutcome.andThen_of_ok hsingle]
      refine ⟨_, (event.1, record) :: out, rfl, ?_⟩
      rw [BatchOutcome.result_followedBy hsingle, hout]
      rfl

theorem oneByOne_of_reaches {events : List Event} {event : Event}
    (h : t.Reaches host tag events event) (first : Nat) :
    exists (batch : BatchOutcome) (out : List Event) (position : Nat)
      (after : List Event),
      batch.result = .ok out ∧
      t.oneByOne host tag first events =
        batch.andThen (t.oneByOne host tag position (event :: after)) := by
  rcases h with ⟨before, after, rfl, hbefore⟩
  rcases oneByOne_of_passes hbefore first with ⟨batch, out, hbatch, hout⟩
  refine ⟨batch, out, first + before.length, after, hout, ?_⟩
  rw [oneByOne_append, hbatch]
  rfl

theorem oneByOne_of_failsFirst {events : List Event} {failure : FieldFailure}
    (h : t.FailsFirst host tag failure events) (first : Nat) :
    exists batch, t.oneByOne host tag first events = .ok batch ∧
      batch.result = .error failure := by
  rcases h with ⟨event, outcome, hreaches, halone, hresult⟩
  rcases oneByOne_of_reaches hreaches first with
    ⟨batch, out, position, after, hout, hall⟩
  have hsingle := single_of_failure hresult position event
  rw [hall, oneByOne_cons_of_ok halone, BatchOutcome.andThen_of_error hsingle,
    BatchOutcome.andThen_of_ok hout]
  refine ⟨_, rfl, ?_⟩
  rw [BatchOutcome.result_followedBy hout, hsingle]
  rfl

theorem oneByOne_of_overflowsFirst {events : List Event}
    (h : t.OverflowsFirst host tag events) (first : Nat) :
    exists overflow, t.oneByOne host tag first events = .error overflow := by
  rcases h with ⟨event, overflow, hreaches, halone⟩
  rcases oneByOne_of_reaches hreaches first with
    ⟨batch, out, position, after, hout, hall⟩
  rw [hall, oneByOne_cons_of_overflow halone, BatchOutcome.andThen_of_ok hout]
  exact ⟨overflow, rfl⟩

theorem oneByOne_eq_error_iff {events : List Event} (first : Nat) :
    (exists overflow, t.oneByOne host tag first events = .error overflow) <->
      t.OverflowsFirst host tag events := by
  constructor
  · intro h
    rcases h with ⟨overflow, hoverflow⟩
    rcases passes_or_stops t host tag events with
      hall | ⟨failure, hfails⟩ | hoverflows
    · rcases oneByOne_of_passes hall first with ⟨batch, out, hbatch, _⟩
      rw [hbatch] at hoverflow
      cases hoverflow
    · rcases oneByOne_of_failsFirst hfails first with ⟨batch, hbatch, _⟩
      rw [hbatch] at hoverflow
      cases hoverflow
    · exact hoverflows
  · intro h
    exact oneByOne_of_overflowsFirst h first

theorem oneByOne_eq_failure_iff {events : List Event} {failure : FieldFailure}
    (first : Nat) :
    (exists batch, t.oneByOne host tag first events = .ok batch ∧
        batch.result = .error failure) <->
      t.FailsFirst host tag failure events := by
  constructor
  · intro h
    rcases h with ⟨batch, hbatch, hfailure⟩
    rcases passes_or_stops t host tag events with
      hall | ⟨failure', hfails⟩ | hoverflows
    · rcases oneByOne_of_passes hall first with ⟨batch', out, hbatch', hout⟩
      rw [hbatch] at hbatch'
      cases hbatch'
      rw [hfailure] at hout
      cases hout
    · rcases oneByOne_of_failsFirst hfails first with
        ⟨batch', hbatch', hfailure'⟩
      rw [hbatch] at hbatch'
      cases hbatch'
      rw [hfailure] at hfailure'
      cases hfailure'
      exact hfails
    · rcases oneByOne_of_overflowsFirst hoverflows first with
        ⟨overflow, hbatch'⟩
      rw [hbatch] at hbatch'
      cases hbatch'
  · intro h
    exact oneByOne_of_failsFirst h first

end Transformer
end Reshape
