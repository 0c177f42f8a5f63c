import Reshape.Proofs.Stream.Calls
import Reshape.Proofs.Stream.Reports

/-!
# Groups of observers

A group hands every report on to each of its members.  As long as no two members
share a sink, the sinks of a member are told what they would be told if the
member listened alone, and make the same of it.  What a run comes to is the same
whoever listens.
-/

namespace Reshape

open Transformer (Happening)

namespace Observer

/-!
## Who is told
-/

section Deliveries

variable (report : Report)

mutual

theorem deliver_eq_map (observer : Observer) :
    observer.deliver report = observer.sinks.map fun s => (s, report) := by
  cases observer with
  | sink s => rfl
  | group members => exact deliverAll_eq_map members

theorem deliverAll_eq_map (members : List Observer) :
    deliverAll members report =
      (memberSinks members).map fun s => (s, report) := by
  cases members with
  | nil => rfl
  | cons member rest =>
      rw [deliverAll, memberSinks, List.map_append, deliver_eq_map member,
        deliverAll_eq_map rest]

end

theorem mem_sinks_of_mem_deliver {observer : Observer}
    {delivery : Sink × Report} (h : delivery ∈ observer.deliver report) :
    delivery.1 ∈ observer.sinks := by
  rw [deliver_eq_map] at h
  rcases List.mem_map.mp h with ⟨s, hs, rfl⟩
  exact hs

theorem filter_deliver_self (observer : Observer) :
    (observer.deliver report).filter
      (fun delivery => delivery.1 ∈ observer.sinks) =
      observer.deliver report := by
  apply List.filter_eq_self.mpr
  intro delivery hdelivery
  exact decide_eq_true (mem_sinks_of_mem_deliver report hdelivery)

theorem filter_deliver_eq_nil {observer : Observer} {sinks : List Sink}
    (h : forall s, s ∈ observer.sinks -> Not (s ∈ sinks)) :
    (observer.deliver report).filter (fun delivery => delivery.1 ∈ sinks) =
      [] := by
  rw [List.filter_eq_nil_iff]
  intro delivery hdelivery hsink
  exact h delivery.1 (mem_sinks_of_mem_deliver report hdelivery)
    (of_decide_eq_true hsink)

end Deliveries

def Apart (first second : Observer) : Prop :=
  forall s, s ∈ first.sinks -> Not (s ∈ second.sinks)

instance (first second : Observer) : Decidable (Apart first second) :=
  inferInstanceAs
    (Decidable (forall s, s ∈ first.sinks -> Not (s ∈ second.sinks)))

section Members

variable {members : List Observer} (report : Report)

theorem deliverAll_eq_flatMap (members : List Observer) :
    deliverAll members report =
      members.flatMap fun member => member.deliver report := by
  induction members with
  | nil => rfl
  | cons member rest ih => rw [deliverAll, ih, List.flatMap_cons]

theorem filter_deliverAll_of_apart {observer : Observer}
    (hapart : forall other, other ∈ members -> Apart observer other) :
    (deliverAll members report).filter
      (fun delivery => delivery.1 ∈ observer.sinks) = [] := by
  induction members with
  | nil => rfl
  | cons first rest ih =>
      have hfirst := filter_deliver_eq_nil report fun s hs hobserver =>
        hapart first List.mem_cons_self s hobserver hs
      rw [deliverAll, List.filter_append, hfirst,
        ih fun other hother => hapart other (List.mem_cons_of_mem first hother)]
      rfl

theorem filter_deliverAll (hapart : members.Pairwise Apart) {member : Observer}
    (hmember : member ∈ members) :
    (deliverAll members report).filter
      (fun delivery => delivery.1 ∈ member.sinks) =
      member.deliver report := by
  induction hapart with
  | nil => cases hmember
  | @cons first rest hfirst _ ih =>
      rw [deliverAll, List.filter_append]
      rcases List.mem_cons.mp hmember with rfl | hrest
      · rw [filter_deliver_self, filter_deliverAll_of_apart report hfirst,
          List.append_nil]
      · rw [filter_deliver_eq_nil report (hfirst member hrest), ih hrest,
          List.nil_append]

end Members

def deliveries (observer : Observer) (reports : List Report) :
    List (Sink × Report) :=
  reports.flatMap observer.deliver

theorem filter_deliveries_group {members : List Observer}
    (hapart : members.Pairwise Apart) {member : Observer}
    (hmember : member ∈ members) (reports : List Report) :
    ((group members).deliveries reports).filter
      (fun delivery => delivery.1 ∈ member.sinks) =
      member.deliveries reports := by
  unfold deliveries
  rw [List.filter_flatMap]
  exact congrArg reports.flatMap
    (funext fun report => filter_deliverAll report hapart hmember)

end Observer

/-!
## Runs
-/

def Transformer.Run.reports {α : Type} (run : Transformer.Run α) :
    List Report :=
  run.trace.filterMap Happening.report?

namespace ReportOptions

theorem traceEffects_reported (observer : Observer) (alertFrom : Severity)
    (reports : List Report) :
    ReportOptions.traceEffects ⟨some observer, alertFrom⟩
      (reports.map Happening.reported) =
      (observer.deliveries reports).map
        fun delivery => delivery.1.effect delivery.2 := by
  unfold traceEffects Observer.deliveries
  rw [List.flatMap_map, List.map_flatMap]
  rfl

end ReportOptions

namespace Observer

section Runs

variable {α : Type}
  (run : ReportOptions -> Except Time.Overflow (Transformer.Run α))
  (members : List Observer) (alertFrom : Severity)

/-- What a group hands on in a run, and what its members would be told without
it. -/
structure FansOut : Prop where
  /-- Each report goes to the members one after another, to each of them
  once. -/
  inTurn : forall reports : List Report,
    (group members).deliveries reports =
      reports.flatMap
        fun report => members.flatMap fun member => member.deliver report
  /-- The sinks of a member are told what they are told if the member listens
  alone. -/
  delivered : forall member, member ∈ members ->
    (run ⟨some (group members), alertFrom⟩).map
        (fun done => ((group members).deliveries done.reports).filter
          fun delivery => delivery.1 ∈ member.sinks) =
      (run ⟨some member, alertFrom⟩).map
        fun done => member.deliveries done.reports
  /-- They make the same of it, also those that take an alert for one more
  failure. -/
  effects : forall member, member ∈ members ->
    (run ⟨some (group members), alertFrom⟩).map
        (fun done => (((group members).deliveries done.reports).filter
          fun delivery => delivery.1 ∈ member.sinks).map fun delivery =>
            delivery.1.effect delivery.2) =
      (run ⟨some member, alertFrom⟩).map fun done =>
        ReportOptions.traceEffects ⟨some member, alertFrom⟩
          (done.reports.map Happening.reported)
  /-- The run comes to what it comes to if nobody listens. -/
  result : forall threshold : Severity,
    (run ⟨some (group members), alertFrom⟩).map Transformer.Run.result =
      (run ⟨none, threshold⟩).map Transformer.Run.result

/-- A run that asks its options for the threshold only, and that only for its
reports. -/
structure Indifferent : Prop where
  listeners : forall first second : Option Observer,
    run ⟨first, alertFrom⟩ = run ⟨second, alertFrom⟩
  thresholds : forall threshold : Severity,
    (run ⟨none, alertFrom⟩).map Transformer.Run.result =
      (run ⟨none, threshold⟩).map Transformer.Run.result

variable {run members alertFrom}

theorem fansOut_of_indifferent (hrun : Indifferent run alertFrom)
    (hapart : members.Pairwise Apart) : FansOut run members alertFrom where
  inTurn reports :=
    congrArg reports.flatMap
      (funext fun report => deliverAll_eq_flatMap report members)
  delivered member hmember := by
    rw [hrun.listeners (some (group members)) (some member)]
    congr 1
    funext done
    exact filter_deliveries_group hapart hmember done.reports
  effects member hmember := by
    rw [hrun.listeners (some (group members)) (some member)]
    congr 1
    funext done
    rw [filter_deliveries_group hapart hmember,
      ReportOptions.traceEffects_reported]
  result threshold := by
    rw [hrun.listeners (some (group members)) none, hrun.thresholds threshold]

end Runs

section Indifference

variable (alertFrom : Severity)

theorem indifferent_create (config : Config) :
    Indifferent (fun options => .ok (Transformer.create config options))
      alertFrom where
  listeners _ _ := by
    unfold Transformer.create
    cases Transformer.build config <;> rfl
  thresholds _ := by
    unfold Transformer.create
    cases Transformer.build config <;> rfl

variable (t : Transformer) (host : Host) (tag : String)

theorem indifferent_transform (event : Event) :
    Indifferent (fun options => t.transform host options tag event)
      alertFrom where
  listeners _ _ := rfl
  thresholds _ := by
    unfold Transformer.transform
    cases t.applyEvent host tag .empty event <;> rfl

theorem indifferent_transformStream (events : List Event) :
    Indifferent (fun options => t.transformStream host options tag events)
      alertFrom where
  listeners _ _ := rfl
  thresholds _ := by
    unfold Transformer.transformStream
    cases t.applyBatch host tag .empty 0 events with
    | error overflow => rfl
    | ok batch =>
        show Except.ok (t.streamRun _ tag batch).result =
            .ok (t.streamRun _ tag batch).result
        rw [Transformer.streamRun_result, Transformer.streamRun_result]

end Indifference

/-- Whatever is built or transformed, a group of observers that share no sink
tells each of them what it would be told alone. -/
theorem group_fansOut {members : List Observer}
    (hapart : members.Pairwise Apart) (alertFrom : Severity) :
    (forall config,
      FansOut (fun options => .ok (Transformer.create config options)) members
        alertFrom) ∧
      forall (t : Transformer) (host : Host) (tag : String),
        (forall event,
          FansOut (fun options => t.transform host options tag event) members
            alertFrom) ∧
        forall events,
          FansOut (fun options => t.transformStream host options tag events)
            members alertFrom := by
  constructor
  · intro config
    exact fansOut_of_indifferent (indifferent_create alertFrom config) hapart
  · intro t host tag
    constructor
    · intro event
      exact fansOut_of_indifferent
        (indifferent_transform alertFrom t host tag event) hapart
    · intro events
      exact fansOut_of_indifferent
        (indifferent_transformStream alertFrom t host tag events) hapart

def assorted : List Observer :=
  [.sink ⟨0, .recorder false⟩,
    .group [.sink ⟨1, .file⟩, .group [], .sink ⟨2, .recorder true⟩],
    .sink ⟨3, .log⟩]

theorem group_fansOut_assorted :
    assorted.Pairwise Apart ∧
      (exists done,
        Transformer.fragile.transformStream ⟨[], [], 0⟩
          ⟨some (.group assorted), .warning⟩ "a"
            [(1, [("id", .int 7)])] = .ok done ∧
          ((group assorted).deliveries done.reports).length = 20) ∧
      FansOut
        (fun options =>
          Transformer.fragile.transformStream ⟨[], [], 0⟩ options "a"
        [(1, [("id", .int 7)])]) assorted .warning := by
  have hapart : assorted.Pairwise Apart := by decide
  refine ⟨hapart, ⟨_, rfl, rfl⟩, ?_⟩
  exact ((group_fansOut hapart .warning).right Transformer.fragile ⟨[], [], 0⟩
    "a").right
    [(1, [("id", .int 7)])]

end Observer
end Reshape
