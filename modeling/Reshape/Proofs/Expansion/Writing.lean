import Reshape.Proofs.Expansion.Building
import Reshape.Proofs.Fields
import Reshape.Proofs.Stream.Alone

/-!
# What is written into a record

A transformer that neither reduces keys nor normalizes texts does nothing to a
record but write into it: the tag, the time, and then what its fields come to.
The record that comes out is told by these writes alone, whichever of them fall
on keys of the record or on one another.
-/

namespace Reshape

open Template

structure Overwritten (record : Record) (writes : List (String × Value))
    (out : Record) : Prop where
  /-- The keys of the record stay where they are, and the new ones follow as
  they are first written. -/
  keys : out.keys = record.keys ++ record.newKeys writes
  distinct : record.Distinct -> out.Distinct
  unwritten : forall key, key ∉ Fields.keys writes ->
    out.get? key = record.get? key
  last_written : forall before key value after,
    writes = before ++ (key, value) :: after ->
    key ∉ Fields.keys after -> out.get? key = some value

theorem overwritten_writeAll (record : Record)
    (writes : List (String × Value)) :
    Overwritten record writes (record.writeAll writes) where
  keys := Fields.keys_writeAll record writes
  distinct h := Fields.distinct_writeAll h writes
  unwritten _ h := Fields.get?_writeAll_of_not_mem h record
  last_written before _ value _ heq h := by
    rw [heq]
    exact Fields.get?_writeAll_around h record before value

structure Config.OnlyWrites (config : Config) : Prop where
  removes : config.removeKeys = none
  keeps : config.whitelistKeys = none
  encodes : config.charEncoding = none

namespace Transformer

/-!
## The writes of an event
-/

/-- What fields write, one after another.  Each sees what the ones before it
wrote.  One that fails writes nothing or null, as the policy has it, and under
the policy that ends the event there are no writes at all. -/
inductive FieldWrites (policy : ErrorPolicy) :
    Context -> List Field -> List (String × Value) -> Prop
  | nil (ctx : Context) : FieldWrites policy ctx [] []
  | value {ctx : Context} {field : Field} {rest : List Field} {value : Value}
      {writes : List (String × Value)}
      (gives : field.plan.evaluate ctx = .ok value)
      (later :
        FieldWrites policy
          { ctx with record := ctx.record.insert field.key value } rest
          writes) :
      FieldWrites policy ctx (field :: rest) ((field.key, value) :: writes)
  | omitted {ctx : Context} {field : Field} {rest : List Field}
      {source : EvalError} {writes : List (String × Value)}
      (omits : policy = .omit) (fails : field.plan.evaluate ctx = .error source)
      (later : FieldWrites policy ctx rest writes) :
      FieldWrites policy ctx (field :: rest) writes
  | nulled {ctx : Context} {field : Field} {rest : List Field}
      {source : EvalError} {writes : List (String × Value)}
      (nulls : policy = .null) (fails : field.plan.evaluate ctx = .error source)
      (later :
        FieldWrites policy
          { ctx with record := ctx.record.insert field.key .null } rest
          writes) :
      FieldWrites policy ctx (field :: rest) ((field.key, .null) :: writes)

def tagWrites (t : Transformer) (tag : String) : List (String × Value) :=
  match t.tagKey with
  | none => []
  | some key => [(key, .ofString tag)]

inductive TimeWrites (t : Transformer) (host : Host) (time : Int64) :
    List (String × Value) -> Prop
  | untimed (none : t.timeField = none) : TimeWrites t host time []
  | timed {key : String} {f : TimeFormatter} {value : Value}
      (some : t.timeField = some (key, f))
      (renders : f.render host time = .ok value) :
      TimeWrites t host time [(key, value)]

inductive EventWrites (t : Transformer) (host : Host) (tag : String)
    (event : Event) : List (String × Value) -> Prop
  | inOrder {times fields : List (String × Value)}
      (timed : t.TimeWrites host event.1 times)
      (expanded :
        FieldWrites t.errorPolicy
          (t.context host tag event.1
            (event.2.writeAll (t.tagWrites tag ++ times)))
          t.fields fields) :
      EventWrites t host tag event (t.tagWrites tag ++ times ++ fields)

theorem writeTag_eq_writeAll (t : Transformer) (tag : String)
    (record : Record) :
    t.writeTag tag record = record.writeAll (t.tagWrites tag) := by
  unfold writeTag tagWrites
  cases t.tagKey <;> rfl

theorem exists_timeWrites {t : Transformer} {host : Host} {time : Int64}
    {record stamped : Record} (h : t.stamp host time record = .ok stamped) :
    exists times, t.TimeWrites host time times ∧
      stamped = record.writeAll times := by
  unfold stamp at h
  cases hfield : t.timeField with
  | none =>
      rw [hfield] at h
      cases h
      exact ⟨[], .untimed hfield, rfl⟩
  | some field =>
      rcases field with ⟨key, f⟩
      rw [hfield] at h
      rcases except_map_eq_ok h with ⟨value, hvalue, rfl⟩
      exact ⟨[(key, value)], .timed hfield hvalue, rfl⟩

theorem exists_fieldWrites {policy : ErrorPolicy} {ctx : Context}
    {fields : List Field} {out : Record}
    (h : (writeFields policy ctx fields).result = .ok out) :
    exists writes, FieldWrites policy ctx fields writes ∧
      out = ctx.record.writeAll writes := by
  induction fields generalizing ctx with
  | nil =>
      cases h
      exact ⟨[], .nil ctx, rfl⟩
  | cons field rest ih =>
      rw [writeFields] at h
      cases hvalue : field.plan.evaluate ctx with
      | ok value =>
          rw [hvalue] at h
          rcases ih h with ⟨writes, hwrites, rfl⟩
          exact ⟨_, .value hvalue hwrites, rfl⟩
      | error source =>
          rw [hvalue] at h
          cases policy
          · rcases ih h with ⟨writes, hwrites, rfl⟩
            exact ⟨writes, .omitted rfl hvalue hwrites, rfl⟩
          · rcases ih h with ⟨writes, hwrites, rfl⟩
            exact ⟨_, .nulled rfl hvalue hwrites, rfl⟩
          · cases h

/-!
## Transformers that only write
-/

/-- The transformer writes under the keys of the configuration what its
templates stand for. -/
structure Follows (config : Config) (t : Transformer) : Prop where
  tag : t.tagKey = config.tagKey
  time : t.timeField.map Prod.fst = config.timeKey
  fields : List.Forall₂ (fun entry field => field.key = entry.1 ∧
    Plan.compile entry.2 = .ok field.plan) config.record t.fields
  policy : t.errorPolicy = config.errorPolicy

theorem follows_of_build {config : Config} {t : Transformer}
    (h : build config = .ok t) : t.Follows config := by
  rcases build_eq_ok h with ⟨fields, _, _, timeField, hfields, _, _, htime, rfl⟩
  exact {
    tag := rfl
    time := buildTimeField_eq_ok htime
    fields := (mapM_eq_ok_iff.mp hfields).imp fun _ _ => buildField_eq_ok
    policy := rfl }

theorem finish_of_onlyWrites {config : Config} (honly : config.OnlyWrites)
    {t : Transformer} (h : build config = .ok t) (record : Record) :
    t.finish record = record := by
  rcases build_eq_ok h with
    ⟨_, keyPolicy, encoding, _, _, hpolicy, hencoding, _, rfl⟩
  rw [buildPolicy, honly.removes, honly.keeps] at hpolicy
  rw [honly.encodes] at hencoding
  cases hpolicy
  cases hencoding
  rfl

theorem transform_overwrites {config : Config} (honly : config.OnlyWrites)
    {t : Transformer} (hbuild : build config = .ok t) {host : Host}
    {options : ReportOptions} {tag : String} {event : Event} {run : Run Record}
    (hrun : t.transform host options tag event = .ok run) {out : Record}
    (hout : run.result = .ok out) :
    t.Follows config ∧
      exists writes, t.EventWrites host tag event writes ∧
        Overwritten event.2 writes out := by
  refine ⟨follows_of_build hbuild, ?_⟩
  rw [transform_eq_alone] at hrun
  rcases except_map_eq_ok hrun with ⟨outcome, halone, rfl⟩
  rcases except_map_eq_ok halone with ⟨stamped, hstamp, rfl⟩
  rcases except_map_eq_ok (except_mapError_eq_ok hout) with
    ⟨written, hwritten, hfinish⟩
  rw [finish_of_onlyWrites honly hbuild] at hfinish
  subst hfinish
  rw [writeTag_eq_writeAll] at hstamp
  rcases exists_timeWrites hstamp with ⟨times, htimes, rfl⟩
  rw [← Fields.writeAll_append] at hwritten
  rcases exists_fieldWrites hwritten with ⟨fields, hfields, rfl⟩
  refine ⟨t.tagWrites tag ++ times ++ fields, .inOrder htimes hfields, ?_⟩
  show Overwritten event.2 _
      ((event.2.writeAll (t.tagWrites tag ++ times)).writeAll fields)
  rw [← Fields.writeAll_append]
  exact overwritten_writeAll event.2 _

/-- Writes the time over a key of the record and the tag under a new one, which
a later field writes again.  Its first field looks into a number and fails. -/
def relabelingConfig : Config :=
  { Config.default with
    record :=
      [("id", "$\x7brecord['id']['x']\x7d"), ("note", "n"),
        ("tag", "t$\x7brecord['tag']\x7d")]
    tagKey := some "tag"
    timeKey := some "ts"
    timeAsEpoch := true }

def relabeling : Transformer :=
  ⟨[⟨"id", .raw ⟨.record, [.key "id", .key "x"]⟩⟩, ⟨"note", .literal "n"⟩,
      ⟨"tag", .template [.literal "t", .expr ⟨.record, [.key "tag"]⟩]⟩],
    .keepAll, none, .omit, some "tag", some ("ts", ⟨.epoch, false⟩)⟩

theorem transform_overwrites_relabeled :
    relabeling.Follows relabelingConfig ∧
      exists writes,
        relabeling.EventWrites ⟨[], [], 0⟩ "a"
          (1, [("ts", .null), ("id", .int 7)]) writes ∧
        Overwritten [("ts", .null), ("id", .int 7)] writes
          [("ts", .int 1), ("id", .int 7), ("tag", .ofString "ta"),
            ("note", .ofString "n")] := by
  have hbuild : build relabelingConfig = .ok relabeling := by
    with_unfolding_all rfl
  have honly : relabelingConfig.OnlyWrites := ⟨rfl, rfl, rfl⟩
  have hrun : exists trace,
      relabeling.transform ⟨[], [], 0⟩ .default "a"
        (1, [("ts", .null), ("id", .int 7)]) =
        .ok ⟨trace,
          .ok [("ts", .int 1), ("id", .int 7), ("tag", .ofString "ta"),
            ("note", .ofString "n")]⟩ :=
    ⟨_, by with_unfolding_all rfl⟩
  rcases hrun with ⟨trace, hrun⟩
  exact transform_overwrites honly hbuild hrun rfl

end Transformer
end Reshape
