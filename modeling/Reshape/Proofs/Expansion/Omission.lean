import Mathlib.Data.List.Nodup
import Reshape.Proofs.Expansion.Noninterference
import Reshape.Proofs.Expansion.Policies
import Reshape.Proofs.Key.Without

/-!
# Omitted fields and nulls

A field that fails is left unwritten under one policy and written as null under
another.  An indexed expression cannot tell the two apart, so the same fields
fail with the same errors, and the records differ in the null fields alone.
Nothing that happens to a record afterwards changes that.
-/

namespace Reshape

open Template

namespace Transformer

/-!
## The same results
-/

theorem agree_insert_null {names : List String} {r r' : Record}
    (h : Record.Agree names r r') {key : String} (hkey : r.get? key = none) :
    Record.Agree names r (r'.insert key .null) := by
  intro name hname
  by_cases hsame : name = key
  · rw [hsame, Record.valueAt_insert_self]
    unfold Record.valueAt
    rw [hkey]
    rfl
  · rw [Record.valueAt_insert_of_ne r' hsame]
    exact h name hname

/-- As long as the fields still to come are not in the record, omitting a field
and writing null make no difference to what they evaluate to. -/
theorem evaluations_omit_eq_null {names : List String} {fields : List Field}
    (hfields : forall field, field ∈ fields -> field.plan.Confined names)
    (hdistinct : (fields.map Field.key).Nodup) {r r' : Record}
    (hagree : Record.Agree names r r')
    (habsent : forall key, key ∈ fields.map Field.key -> r.get? key = none)
    (ctx : Context) :
    evaluations .omit { ctx with record := r } fields =
      evaluations .null { ctx with record := r' } fields := by
  induction fields generalizing r r' with
  | nil => rfl
  | cons field rest ih =>
      have hsame :=
        evaluate_plan_of_agree hagree ctx (hfields field List.mem_cons_self)
      have hrest : forall later, later ∈ rest -> later.plan.Confined names := by
        intro later hlater
        exact hfields later (List.mem_cons_of_mem field hlater)
      rw [List.map_cons, List.nodup_cons] at hdistinct
      rcases hdistinct with ⟨hnew, hdistinct⟩
      rw [evaluations, evaluations, hsame]
      cases field.plan.evaluate { ctx with record := r' } with
      | ok value =>
          have hlater : forall key, key ∈ rest.map Field.key ->
              (r.insert field.key value).get? key = none := by
            intro key hkey
            have hne : key ≠ field.key := by
              intro heq
              rw [heq] at hkey
              exact hnew hkey
            rw [Fields.get?_insert_of_ne r hne]
            exact habsent key (List.mem_cons_of_mem field.key hkey)
          exact congrArg (_ :: ·)
            (ih hrest hdistinct (agree_insert hagree field.key value) hlater)
      | error source =>
          have hnull :=
            agree_insert_null hagree (habsent field.key List.mem_cons_self)
          have hlater :
              forall key, key ∈ rest.map Field.key -> r.get? key = none := by
            intro key hkey
            exact habsent key (List.mem_cons_of_mem field.key hkey)
          exact congrArg (_ :: ·) (ih hrest hdistinct hnull hlater)

theorem keys_evaluations_null (ctx : Context) (fields : List Field) :
    (evaluations .null ctx fields).map Prod.fst = fields.map Field.key := by
  induction fields generalizing ctx with
  | nil => rfl
  | cons field rest ih =>
      rw [evaluations]
      cases field.plan.evaluate ctx with
      | ok value =>
          exact congrArg (field.key :: ·)
            (ih { ctx with record := ctx.record.insert field.key value })
      | error source =>
          exact congrArg (field.key :: ·)
            (ih { ctx with record := ctx.record.insert field.key .null })

/-!
## The same record but for the nulls
-/

def failedKeys (results : List FieldResult) : List String :=
  (results.filterMap FieldResult.failure?).map FieldFailure.field

theorem field_of_failure? {result : FieldResult} {failure : FieldFailure}
    (h : FieldResult.failure? result = some failure) :
    failure.field = result.1 := by
  rcases result with ⟨key, outcome⟩
  cases outcome with
  | ok value => cases h
  | error source =>
      cases h
      rfl

theorem mem_keys_of_mem_failedKeys {results : List FieldResult} {key : String}
    (h : key ∈ failedKeys results) : key ∈ results.map Prod.fst := by
  rcases List.mem_map.mp h with ⟨failure, hfailure, hkey⟩
  rcases List.mem_filterMap.mp hfailure with ⟨result, hresult, hsome⟩
  rw [← hkey, field_of_failure? hsome]
  exact List.mem_map_of_mem hresult

theorem mem_failedKeys_of_error {results : List FieldResult} {key : String}
    {source : EvalError} (h : (key, .error source) ∈ results) :
    key ∈ failedKeys results := by
  have hfailure :
      FieldFailure.mk key source ∈ results.filterMap FieldResult.failure? :=
    List.mem_filterMap.mpr ⟨(key, .error source), h, rfl⟩
  exact List.mem_map_of_mem hfailure

theorem not_mem_failedKeys_of_ok {results : List FieldResult}
    (hdistinct : (results.map Prod.fst).Nodup) {key : String} {value : Value}
    (h : (key, .ok value) ∈ results) : key ∉ failedKeys results := by
  intro hmem
  rcases List.mem_map.mp hmem with ⟨failure, hfailure, hkey⟩
  rcases List.mem_filterMap.mp hfailure with ⟨result, hresult, hsome⟩
  have hsame : result = (key, .ok value) := by
    apply List.inj_on_of_nodup_map hdistinct hresult h
    rw [← field_of_failure? hsome]
    exact hkey
  rw [hsame] at hsome
  cases hsome

/-- Written with nulls and without, results give records that differ in the
failed keys only. -/
theorem replay_omit_eq_without {keys : List String} {results : List FieldResult}
    (hok : forall key value, (key, .ok value) ∈ results -> key ∉ keys)
    (herror : forall key source, (key, .error source) ∈ results -> key ∈ keys)
    {record : Record} (hhollow : Record.Hollow keys record) :
    exists out, (replay .null record results).result = .ok out ∧
      (replay .omit (record.without keys) results).result =
        .ok (out.without keys) ∧
      Record.Hollow keys out := by
  induction results generalizing record with
  | nil => exact ⟨record, rfl, rfl, hhollow⟩
  | cons first rest ih =>
      have hok' : forall key value, (key, .ok value) ∈ rest -> key ∉ keys := by
        intro key value h
        exact hok key value (List.mem_cons_of_mem first h)
      have herror' :
          forall key source, (key, .error source) ∈ rest -> key ∈ keys := by
        intro key source h
        exact herror key source (List.mem_cons_of_mem first h)
      rcases first with ⟨key, result⟩
      cases result with
      | ok value =>
          have hkey := hok key value List.mem_cons_self
          have hwritten :=
            ih hok' herror' (Record.hollow_insert_of_not_mem hhollow hkey value)
          rw [Fields.without_insert_of_not_mem hkey] at hwritten
          exact hwritten
      | error source =>
          have hkey := herror key source List.mem_cons_self
          have hwritten :=
            ih hok' herror' (Record.hollow_insert_null hhollow key)
          rw [Fields.without_insert_of_mem hkey] at hwritten
          exact hwritten

theorem finish_without (t : Transformer) {keys : List String} {record : Record}
    (h : Record.Hollow keys record) :
    t.finish (record.without keys) = Fields.without keys (t.finish record) := by
  unfold finish
  rw [KeyPolicy.reduce_without t.keyPolicy h]
  cases t.encoding with
  | none => rfl
  | some spec =>
      exact EncodingSpec.normalizeFields_without spec keys
        (t.keyPolicy.reduce record)

/-!
## Two calls
-/

section Calls

variable {t : Transformer} (ctx : Context)

theorem evaluations_of_absent (hindexed : t.Indexed)
    (hdistinct : (t.fields.map Field.key).Nodup)
    (habsent :
      forall key, key ∈ t.fields.map Field.key -> ctx.record.get? key = none) :
    evaluations .omit ctx t.fields = evaluations .null ctx t.fields := by
  have hfields :
      forall field, field ∈ t.fields -> field.plan.Confined t.readKeys := by
    intro field hfield
    exact confined_of_indexed hindexed hfield
  have hsame : Record.Agree t.readKeys ctx.record ctx.record := fun _ _ => rfl
  exact evaluations_omit_eq_null hfields hdistinct hsame habsent ctx

theorem writeFields_omit_eq_without (hindexed : t.Indexed)
    (hdistinct : (t.fields.map Field.key).Nodup)
    (habsent :
      forall key, key ∈ t.fields.map Field.key -> key ∉ ctx.record.keys) :
    (writeFields .omit ctx t.fields).failures =
      (writeFields .null ctx t.fields).failures ∧
      exists out, (writeFields .null ctx t.fields).result = .ok out ∧
        (writeFields .omit ctx t.fields).result =
          .ok (out.without
            ((writeFields .null ctx t.fields).failures.map
              FieldFailure.field)) ∧
        Record.Hollow
          ((writeFields .null ctx t.fields).failures.map FieldFailure.field)
          out := by
  have hmissing : forall key, key ∈ t.fields.map Field.key ->
      ctx.record.get? key = none := by
    intro key hkey
    exact Fields.get?_eq_none_of_not_mem (habsent key hkey)
  have hresults := evaluations_of_absent ctx hindexed hdistinct hmissing
  have hfailures := failures_writeFields .null ctx t.fields
  have hkeys := keys_evaluations_null ctx t.fields
  constructor
  · rw [failures_writeFields, failures_writeFields, hresults]
  · rw [hfailures, writeFields_eq_replay, writeFields_eq_replay, hresults]
    rw [← hkeys] at hdistinct habsent
    generalize evaluations .null ctx t.fields = results at hdistinct habsent
    have hfresh :
        forall key, key ∈ failedKeys results -> key ∉ ctx.record.keys := by
      intro key hkey
      exact habsent key (mem_keys_of_mem_failedKeys hkey)
    have hhollow : Record.Hollow (failedKeys results) ctx.record := by
      intro field hfield hkey
      exact absurd (List.mem_map_of_mem hfield) (hfresh field.1 hkey)
    have hwritten := replay_omit_eq_without
      (fun key value => not_mem_failedKeys_of_ok hdistinct)
      (fun key source => mem_failedKeys_of_error) hhollow
    rw [Fields.without_eq_self hfresh] at hwritten
    exact hwritten

end Calls

end Transformer

def Error.field? : Error -> Option String
  | .evaluation field _ => some field
  | _ => none

namespace Transformer

def failedFields (trace : List Happening) : List String :=
  (failureErrors trace).filterMap Error.field?

theorem failedFields_callUnder (t : Transformer) (options : ReportOptions)
    (tag : String) (ctx : Context) (policy : ErrorPolicy) :
    failedFields (t.callUnder options tag ctx policy).trace =
      (writeFields policy ctx t.fields).failures.map FieldFailure.field := by
  unfold failedFields
  have hfield :
      Error.field? ∘ FieldFailure.error = some ∘ FieldFailure.field := rfl
  rw [failureErrors_callUnder, List.filterMap_map, hfield,
    List.filterMap_eq_map]

theorem not_mem_keys_of_stamp {t : Transformer} {host : Host} {tag : String}
    {event : Event} {stamped : Record}
    (h : t.stamp host event.1 (t.writeTag tag event.2) = .ok stamped)
    {key : String} (htag : t.tagKey ≠ some key)
    (htime : forall f, t.timeField ≠ some (key, f))
    (hkey : key ∉ event.2.keys) : key ∉ stamped.keys := by
  have htagged : key ∉ (t.writeTag tag event.2).keys := by
    unfold writeTag
    cases htagKey : t.tagKey with
    | none => exact hkey
    | some other =>
        have hne : key ≠ other := by
          intro heq
          rw [heq] at htag
          exact htag htagKey
        exact Fields.not_mem_keys_insert hne hkey (.ofString tag)
  unfold stamp at h
  cases hfield : t.timeField with
  | none =>
      rw [hfield] at h
      cases h
      exact htagged
  | some field =>
      rcases field with ⟨other, f⟩
      rw [hfield] at h
      rcases except_map_eq_ok h with ⟨value, _, rfl⟩
      have hne : key ≠ other := by
        intro heq
        rw [heq] at htime
        exact htime f hfield
      exact Fields.not_mem_keys_insert hne htagged value

theorem transform_omit_eq_without {config : Config} {t : Transformer}
    (hbuild : build config = .ok t) (hdistinct : config.record.Distinct)
    (hindexed : t.Indexed)
    (htag : forall key, config.tagKey = some key -> key ∉ config.record.keys)
    (htime : forall key, config.timeKey = some key -> key ∉ config.record.keys)
    (host : Host) (options : ReportOptions) (tag : String) (event : Event)
    (habsent : forall key, key ∈ config.record.keys -> key ∉ event.2.keys) :
    (forall policy,
      build (config.withErrorPolicy policy) = .ok (t.withErrorPolicy policy)) ∧
    ((exists key f overflow, t.timeField = some (key, f) ∧
        f.render host event.1 = .error overflow ∧
        forall policy,
          (t.withErrorPolicy policy).transform host options tag event =
            .error overflow) ∨
      (exists omitted nulled record,
        (t.withErrorPolicy .omit).transform host options tag event =
          .ok omitted ∧
        (t.withErrorPolicy .null).transform host options tag event =
          .ok nulled ∧
        failureErrors omitted.trace = failureErrors nulled.trace ∧
        nulled.result = .ok record ∧
        omitted.result =
          .ok (record.without (failedFields nulled.trace)))) := by
  have hkeys := keys_of_build hbuild
  constructor
  · exact build_of_withErrorPolicy hbuild
  · rcases transform_overflows_or_calls t host options tag event with
      hoverflows | ⟨stamped, hstamped, hcalls⟩
    · exact .inl hoverflows
    · right
      have hfresh :
          forall key, key ∈ t.fields.map Field.key -> key ∉ stamped.keys := by
        intro key hkey
        rw [hkeys] at hkey
        apply not_mem_keys_of_stamp hstamped _ _ (habsent key hkey)
        · intro htagged
          rw [tagKey_of_build hbuild] at htagged
          exact htag key htagged hkey
        · intro f htimed
          exact htime key (timeKey_of_build hbuild htimed) hkey
      have hnodup : (t.fields.map Field.key).Nodup := by
        rw [hkeys]
        exact hdistinct
      have hwritten :=
        writeFields_omit_eq_without (t.context host tag event.1 stamped)
          hindexed
        hnodup hfresh
      rcases hwritten with ⟨hfailures, out, hnulled, homitted, hhollow⟩
      refine ⟨_, _, t.finish out, hcalls .omit, hcalls .null, ?_, ?_, ?_⟩
      · rw [failureErrors_callUnder, failureErrors_callUnder, hfailures]
      · rw [result_callUnder, hnulled]
        rfl
      · rw [result_callUnder, homitted, failedFields_callUnder,
          ← finish_without t hhollow]
        rfl

/-- Goes into a number, goes on from where that failed, and writes a text with
what it found; then it removes below the first field and declares a charset. -/
def chainConfig : Config :=
  { Config.default with
    record :=
      [("inner", "$\x7brecord['id']['x']\x7d"),
        ("below", "$\x7brecord['inner']['y']\x7d"),
        ("shown", "v$\x7brecord['inner']\x7d")]
    removeKeys := some (.csv "$.inner.z,id")
    charEncoding := some "utf-8"
    tagKey := some "tag" }

def chain : Transformer :=
  ⟨[⟨"inner", .raw ⟨.record, [.key "id", .key "x"]⟩⟩,
    ⟨"below", .raw ⟨.record, [.key "inner", .key "y"]⟩⟩,
    ⟨"shown", .template [.literal "v", .expr ⟨.record, [.key "inner"]⟩]⟩],
    .remove [⟨"$.inner.z", [.key "inner", .key "z"]⟩, ⟨"id", [.key "id"]⟩],
    some (.setOnly .utf8), .omit, some "tag", none⟩

theorem indexed_chain : chain.Indexed := by
  intro e he
  have hmem : e ∈
      [Expr.mk .record [.key "id", .key "x"],
        Expr.mk .record [.key "inner", .key "y"],
        Expr.mk .record [.key "inner"]] := he
  simp only [List.mem_cons, List.not_mem_nil, or_false] at hmem
  rcases hmem with rfl | rfl | rfl <;>
    · intro _ h
      cases h

theorem transform_omit_eq_without_chain :
    exists omitted nulled record,
      (chain.withErrorPolicy .omit).transform ⟨[], [], 0⟩ .default "a.b"
        (1, [("id", .int 7)]) =
        .ok omitted ∧
      (chain.withErrorPolicy .null).transform ⟨[], [], 0⟩ .default "a.b"
        (1, [("id", .int 7)]) =
        .ok nulled ∧
      failureErrors omitted.trace = failureErrors nulled.trace ∧
      nulled.result = .ok record ∧
      omitted.result = .ok (record.without (failedFields nulled.trace)) := by
  have hbuild : build chainConfig = .ok chain := by with_unfolding_all rfl
  have htag : forall key, chainConfig.tagKey = some key ->
      key ∉ chainConfig.record.keys := by
    intro key hkey
    cases hkey
    decide
  have htime : forall key, chainConfig.timeKey = some key ->
      key ∉ chainConfig.record.keys := by
    intro key hkey
    cases hkey
  have habsent : forall key, key ∈ chainConfig.record.keys ->
      key ∉ Fields.keys [("id", Value.int 7)] := by
    decide
  have hdistinct : chainConfig.record.keys.Nodup := by decide
  rcases (transform_omit_eq_without hbuild hdistinct indexed_chain htag htime
    ⟨[], [], 0⟩ .default "a.b" (1, [("id", .int 7)]) habsent).right with
    ⟨key, f, overflow, hfield, _⟩ | hcalls
  · cases hfield
  · exact hcalls

end Transformer
end Reshape
