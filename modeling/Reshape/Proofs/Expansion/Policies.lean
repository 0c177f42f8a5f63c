import Reshape.Proofs.Expansion.Building
import Reshape.Proofs.Expansion.Failures

/-!
# One event under three policies

Up to the first failure the policies make no difference.  So an event that goes
through under the policy that ends it has no failure under the others, and comes
to the same record; and an event that fails fails with what the others report
first.  A time that cannot be rendered stops all three before any field is
evaluated.
-/

namespace Reshape

open Template

namespace Transformer

/-!
## The first failure
-/

/-- Either no field fails under any policy, or the same field fails first under
all of them. -/
theorem writeFields_agree_or_fail_alike (ctx : Context) (fields : List Field) :
    (exists record, forall policy,
      writeFields policy ctx fields = ⟨[], .ok record⟩) ∨
      (exists failure,
        writeFields .fail ctx fields = ⟨[failure], .error failure⟩ ∧
        forall policy,
          (writeFields policy ctx fields).failures.head? = some failure) := by
  induction fields generalizing ctx with
  | nil =>
      left
      exact ⟨ctx.record, fun policy => rfl⟩
  | cons field rest ih =>
      simp only [writeFields]
      cases field.plan.evaluate ctx with
      | ok value =>
          exact ih { ctx with record := ctx.record.insert field.key value }
      | error source =>
          right
          refine ⟨⟨field.key, source⟩, rfl, ?_⟩
          intro policy
          cases policy <;> rfl

theorem timeField_of_stamp_eq_error {t : Transformer} {host : Host}
    {time : Int64} {record : Record} {overflow : Time.Overflow}
    (h : t.stamp host time record = .error overflow) :
    exists key f, t.timeField = some (key, f) ∧
      f.render host time = .error overflow := by
  unfold stamp at h
  cases hfield : t.timeField with
  | none =>
      rw [hfield] at h
      cases h
  | some field =>
      rcases field with ⟨key, f⟩
      rw [hfield] at h
      cases hrender : f.render host time with
      | error overflow' =>
          simp only [hrender] at h
          cases h
          exact ⟨key, f, rfl, hrender⟩
      | ok value =>
          simp only [hrender] at h
          cases h

/-!
## Three calls for one event
-/

/-- How the calls under the three policies have to do with one another. -/
structure PoliciesAgree (omitted nulled failed : Run Record) : Prop where
  omitted_ends : exists record, omitted.result = .ok record
  nulled_ends : exists record, nulled.result = .ok record
  /-- The call that ends at a failure gives a record exactly if there is no
  failure. -/
  passes_iff : (exists record, failed.result = .ok record) <->
    failureErrors omitted.trace = []
  same_record : forall record, failed.result = .ok record ->
    omitted.result = .ok record ∧ nulled.result = .ok record
  /-- Otherwise it gives the failure that the others report first. -/
  first_failure : forall error, failed.result = .error error ->
    (exists field source, error = .evaluation field source) ∧
    (failureErrors omitted.trace).head? = some error ∧
    (failureErrors nulled.trace).head? = some error

section Calls

variable (t : Transformer) (options : ReportOptions) (tag : String)

def callUnder (ctx : Context) (policy : ErrorPolicy) : Run Record :=
  (t.withErrorPolicy policy).runOfOutcome options tag
    (writeFields policy ctx t.fields)

theorem transform_withErrorPolicy (policy : ErrorPolicy) (host : Host)
    (event : Event) :
    (t.withErrorPolicy policy).transform host options tag event =
      (t.stamp host event.1 (t.writeTag tag event.2)).map fun record =>
        t.callUnder options tag (t.context host tag event.1 record) policy := by
  rw [transform_eq_replay]
  show (t.stamp host event.1 (t.writeTag tag event.2)).map _ = _
  apply congrArg (Except.map · (t.stamp host event.1 (t.writeTag tag event.2)))
  funext record
  rw [callUnder, writeFields_eq_replay]
  rfl

theorem failureErrors_callUnder (ctx : Context) (policy : ErrorPolicy) :
    failureErrors (t.callUnder options tag ctx policy).trace =
      (writeFields policy ctx t.fields).failures.map FieldFailure.error :=
  failureErrors_runOfOutcome (t.withErrorPolicy policy) options tag _

theorem result_callUnder (ctx : Context) (policy : ErrorPolicy) :
    (t.callUnder options tag ctx policy).result =
      ((writeFields policy ctx t.fields).result.map t.finish).mapError
        FieldFailure.error :=
  rfl

theorem exists_result_callUnder {policy : ErrorPolicy}
    (hpolicy : policy ≠ .fail) (ctx : Context) :
    exists record,
      (t.callUnder options tag ctx policy).result = .ok record := by
  rcases exists_result_writeFields hpolicy ctx t.fields with ⟨record, hrecord⟩
  exists t.finish record
  rw [result_callUnder, hrecord]
  rfl

theorem policiesAgree_callUnder (ctx : Context) :
    PoliciesAgree (t.callUnder options tag ctx .omit)
      (t.callUnder options tag ctx .null)
      (t.callUnder options tag ctx .fail) := by
  have homits : ErrorPolicy.omit ≠ .fail := by decide
  have hnulls : ErrorPolicy.null ≠ .fail := by decide
  have homitted := exists_result_callUnder t options tag homits ctx
  have hnulled := exists_result_callUnder t options tag hnulls ctx
  rcases writeFields_agree_or_fail_alike ctx t.fields with
    ⟨out, hout⟩ | ⟨failure, hfailed, hfirst⟩
  · have hresult : forall policy,
        (t.callUnder options tag ctx policy).result = .ok (t.finish out) := by
      intro policy
      rw [result_callUnder, hout policy]
      rfl
    have hnone :
        failureErrors (t.callUnder options tag ctx .omit).trace = [] := by
      rw [failureErrors_callUnder, hout .omit]
      rfl
    refine ⟨homitted, hnulled, ?_, ?_, ?_⟩
    · exact iff_of_true ⟨_, hresult .fail⟩ hnone
    · intro record hrecord
      rw [hresult .fail] at hrecord
      rw [hresult .omit, hresult .null]
      exact ⟨hrecord, hrecord⟩
    · intro error herror
      rw [hresult .fail] at herror
      cases herror
  · have hresult :
        (t.callUnder options tag ctx .fail).result = .error failure.error := by
      rw [result_callUnder, hfailed]
      rfl
    have herrors : forall policy,
        (failureErrors (t.callUnder options tag ctx policy).trace).head? =
          some failure.error := by
      intro policy
      rw [failureErrors_callUnder, List.head?_map, hfirst policy]
      rfl
    refine ⟨homitted, hnulled, ?_, ?_, ?_⟩
    · apply iff_of_false
      · intro hpasses
        rcases hpasses with ⟨record, hrecord⟩
        rw [hresult] at hrecord
        cases hrecord
      · intro hnone
        have hsome := herrors .omit
        rw [hnone] at hsome
        cases hsome
    · intro record hrecord
      rw [hresult] at hrecord
      cases hrecord
    · intro error herror
      rw [hresult] at herror
      cases herror
      exact ⟨⟨failure.field, failure.source, rfl⟩, herrors .omit, herrors .null⟩

end Calls

theorem transform_overflows_or_calls (t : Transformer) (host : Host)
    (options : ReportOptions) (tag : String) (event : Event) :
    (exists key f overflow, t.timeField = some (key, f) ∧
        f.render host event.1 = .error overflow ∧
        forall policy,
          (t.withErrorPolicy policy).transform host options tag event =
            .error overflow) ∨
      (exists record,
        t.stamp host event.1 (t.writeTag tag event.2) = .ok record ∧
        forall policy,
          (t.withErrorPolicy policy).transform host options tag event =
            .ok (t.callUnder options tag (t.context host tag event.1 record)
              policy)) := by
  simp only [transform_withErrorPolicy]
  cases hstamp : t.stamp host event.1 (t.writeTag tag event.2) with
  | error overflow =>
      left
      rcases timeField_of_stamp_eq_error hstamp with ⟨key, f, hfield, hrender⟩
      exact ⟨key, f, overflow, hfield, hrender, fun policy => rfl⟩
  | ok record =>
      right
      exact ⟨record, rfl, fun policy => rfl⟩

theorem transform_under_policies {config : Config} {t : Transformer}
    (hbuild : build config = .ok t) (host : Host) (options : ReportOptions)
    (tag : String) (event : Event) :
    (forall policy,
      build (config.withErrorPolicy policy) = .ok (t.withErrorPolicy policy)) ∧
    ((exists key f overflow, t.timeField = some (key, f) ∧
        f.render host event.1 = .error overflow ∧
        forall policy,
          (t.withErrorPolicy policy).transform host options tag event =
            .error overflow) ∨
      (exists omitted nulled failed,
        (t.withErrorPolicy .omit).transform host options tag event =
          .ok omitted ∧
        (t.withErrorPolicy .null).transform host options tag event =
          .ok nulled ∧
        (t.withErrorPolicy .fail).transform host options tag event =
          .ok failed ∧
        PoliciesAgree omitted nulled failed)) := by
  constructor
  · exact build_of_withErrorPolicy hbuild
  · rcases transform_overflows_or_calls t host options tag event with
      hoverflows | ⟨record, _, hcalls⟩
    · exact .inl hoverflows
    · right
      exact ⟨_, _, _, hcalls .omit, hcalls .null, hcalls .fail,
        policiesAgree_callUnder t options tag
          (t.context host tag event.1 record)⟩

/-- Goes into a number under a key that it overwrites, writes a text with what
it found there and looks for a part that the tag does not have. -/
def fragileConfig : Config :=
  { Config.default with
    record :=
      [("id", "$\x7brecord['id']['x']\x7d"),
        ("shown", "v$\x7brecord['id']\x7d"),
        ("part", "$\x7btag_parts[5]\x7d")] }

def fragile : Transformer :=
  ⟨[⟨"id", .raw ⟨.record, [.key "id", .key "x"]⟩⟩,
      ⟨"shown", .template [.literal "v", .expr ⟨.record, [.key "id"]⟩]⟩,
      ⟨"part", .raw ⟨.tagParts, [.position 5]⟩⟩],
    .keepAll, none, .omit, none, none⟩

theorem transform_under_policies_two_failures :
    exists omitted nulled failed,
      (fragile.withErrorPolicy .omit).transform ⟨[], [], 0⟩ .default "a"
        (1, [("id", .int 7)]) =
        .ok omitted ∧
      (fragile.withErrorPolicy .null).transform ⟨[], [], 0⟩ .default "a"
        (1, [("id", .int 7)]) =
        .ok nulled ∧
      (fragile.withErrorPolicy .fail).transform ⟨[], [], 0⟩ .default "a"
        (1, [("id", .int 7)]) =
        .ok failed ∧
      PoliciesAgree omitted nulled failed := by
  have hbuild : build fragileConfig = .ok fragile := by with_unfolding_all rfl
  rcases (transform_under_policies hbuild ⟨[], [], 0⟩ .default "a"
    (1, [("id", .int 7)])).right with
    ⟨key, f, overflow, hfield, _⟩ | hcalls
  · cases hfield
  · exact hcalls

end Transformer
end Reshape
