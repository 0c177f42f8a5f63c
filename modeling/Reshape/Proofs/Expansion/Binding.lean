import Reshape.Proofs.Expansion.Noninterference
import Reshape.Proofs.Expansion.Policies
import Reshape.Proofs.Template.Compile
import Reshape.Proofs.Template.Failures
import Reshape.Proofs.Unicode.Lines

/-!
# Variables are bound where they are used

The parts of the tag are bound for all fields of a transformer or for none, and
for none only if no field uses them.  A field that does not use them evaluates
to the same either way.  So everything is as if they were always bound, and what
is built never misses a binding: its fields fail at positions that the tag does
not have and in paths that the record does not go along with.
-/

namespace Reshape
namespace Template

/-!
## Plans
-/

theorem shaped_of_compile {raw : String} {plan : Plan}
    (h : Plan.compile raw = .ok plan) {e : Expr} (he : e ∈ plan.exprs) :
    e.Shaped := by
  unfold Plan.compile at h
  cases hsplit : split raw with
  | error offset =>
      rw [hsplit] at h
      cases h
  | ok spans =>
      rw [hsplit] at h
      simp only at h
      unfold Plan.ofSpans at h
      split at h
      · rcases except_bind_eq_ok h with ⟨e', hparse, hplan⟩
        cases hplan
        rw [List.mem_singleton.mp he]
        exact shaped_of_parse (parsePlaceholder_eq_ok_iff.mp hparse)
      · split at h
        · cases h
          cases he
        · rcases except_bind_eq_ok h with ⟨segments, hsegments, hplan⟩
          cases hplan
          rcases List.mem_filterMap.mp he with ⟨segment, hsegment, hexpr⟩
          rcases exists_of_mem_mapM hsegments hsegment with ⟨span, _, hspan⟩
          cases span with
          | text chars =>
              cases hspan
              cases hexpr
          | placeholder content offset =>
              rcases except_bind_eq_ok hspan with ⟨e', hparse, hok⟩
              cases hok
              cases hexpr
              exact shaped_of_parse (parsePlaceholder_eq_ok_iff.mp hparse)

theorem exists_failing_expr {plan : Plan} {ctx : Context} {error : EvalError}
    (h : plan.evaluate ctx = .error error) :
    exists e, e ∈ plan.exprs ∧ e.evaluate ctx = .error error := by
  cases plan with
  | literal s => cases h
  | raw e => exact ⟨e, List.mem_cons_self, h⟩
  | template segments =>
      have hsegments : segments.mapM (Segment.evaluate ctx) = .error error := by
        cases hall : segments.mapM (Segment.evaluate ctx) with
        | ok texts =>
            rw [Plan.evaluate, hall] at h
            cases h
        | error error' =>
            rw [Plan.evaluate, hall] at h
            cases h
            rfl
      rcases exists_of_mapM_eq_error hsegments with ⟨segment, hsegment, hfails⟩
      cases segment with
      | literal s => cases hfails
      | expr e =>
          refine ⟨e, List.mem_filterMap.mpr ⟨.expr e, hsegment, rfl⟩, ?_⟩
          cases he : e.evaluate ctx with
          | ok value =>
              rw [Segment.evaluate, he] at hfails
              cases hfails
          | error error' =>
              rw [Segment.evaluate, he] at hfails
              cases hfails
              rfl

theorem usesTagParts_of_mem_exprs {plan : Plan} (h : plan.usesTagParts = false)
    {e : Expr} (he : e ∈ plan.exprs) : e.usesTagParts = false := by
  cases plan with
  | literal s => cases he
  | raw e' =>
      rw [List.mem_singleton.mp he]
      exact h
  | template segments =>
      rcases List.mem_filterMap.mp he with ⟨segment, hsegment, hexpr⟩
      have hunused := List.any_eq_false.mp h segment hsegment
      cases segment with
      | literal s => cases hexpr
      | expr e' =>
          cases hexpr
          exact Bool.eq_false_iff.mpr hunused

theorem evaluate_plan_of_not_usesTagParts {plan : Plan}
    (h : plan.usesTagParts = false) (ctx : Context)
    (parts : Option (List String)) :
    plan.evaluate { ctx with tagParts := parts } = plan.evaluate ctx :=
  evaluate_plan_congr fun _ he =>
    evaluate_of_not_usesTagParts (usesTagParts_of_mem_exprs h he) ctx parts

end Template

open Template

namespace Transformer

/-!
## Fields with the parts bound
-/

def boundContext (host : Host) (tag : String) (time : Int64) (record : Record) :
    Context :=
  ⟨host, tag, time, record, some (partsOf tag)⟩

theorem length_partsOf (tag : String) :
    (partsOf tag).length = tag.toList.count '.' + 1 := by
  unfold partsOf
  rw [List.length_map, Unicode.length_splitOn]

section Bound

variable (t : Transformer) (host : Host) (tag : String) (time : Int64)
  (record : Record)

theorem context_eq_bound_or_unused :
    t.context host tag time record = boundContext host tag time record ∨
      forall field, field ∈ t.fields -> field.plan.usesTagParts = false := by
  cases hneeds : t.needsTagParts with
  | true =>
      left
      unfold context boundContext
      rw [hneeds]
      rfl
  | false =>
      right
      intro field hfield
      exact Bool.eq_false_iff.mpr (List.any_eq_false.mp hneeds field hfield)

theorem evaluate_context {field : Field} (hfield : field ∈ t.fields) {e : Expr}
    (he : e ∈ field.plan.exprs) :
    e.evaluate (t.context host tag time record) =
      e.evaluate (boundContext host tag time record) := by
  rcases t.context_eq_bound_or_unused host tag time record with hbound | hunused
  · rw [hbound]
  · exact (evaluate_of_not_usesTagParts
      (usesTagParts_of_mem_exprs (hunused field hfield) he)
      (t.context host tag time record) (some (partsOf tag))).symm

end Bound

theorem writeFields_of_not_usesTagParts (policy : ErrorPolicy)
    {fields : List Field}
    (h : forall field, field ∈ fields -> field.plan.usesTagParts = false)
    (ctx : Context) (parts : Option (List String)) :
    writeFields policy { ctx with tagParts := parts } fields =
      writeFields policy ctx fields := by
  induction fields generalizing ctx with
  | nil => rfl
  | cons field rest ih =>
      have hrest :=
        ih fun later hlater => h later (List.mem_cons_of_mem field hlater)
      rw [writeFields, writeFields,
        evaluate_plan_of_not_usesTagParts (h field List.mem_cons_self)
          ctx parts]
      cases field.plan.evaluate ctx with
      | ok value =>
          exact hrest { ctx with record := ctx.record.insert field.key value }
      | error source =>
          cases policy
          · exact congrArg (Outcome.after ⟨field.key, source⟩) (hrest ctx)
          · exact congrArg (Outcome.after ⟨field.key, source⟩)
              (hrest { ctx with record := ctx.record.insert field.key .null })
          · rfl

theorem writeFields_context (t : Transformer) (policy : ErrorPolicy)
    (host : Host) (tag : String) (time : Int64) (record : Record) :
    writeFields policy (t.context host tag time record) t.fields =
      writeFields policy (boundContext host tag time record) t.fields := by
  rcases t.context_eq_bound_or_unused host tag time record with hbound | hunused
  · rw [hbound]
  · exact (writeFields_of_not_usesTagParts policy hunused
      (t.context host tag time record) (some (partsOf tag))).symm

/-!
## Events with the parts bound
-/

section Events

variable (t : Transformer) (host : Host) (tag : String)

def applyEventBound (cache : TimeCache) (event : Event) :
    Except Time.Overflow (Outcome Record × TimeCache) :=
  (t.writeTime host cache event.1 (t.writeTag tag event.2)).map fun timed =>
    let outcome :=
      writeFields t.errorPolicy (boundContext host tag event.1 timed.1) t.fields
    (⟨outcome.failures, outcome.result.map t.finish⟩, timed.2)

theorem applyEvent_eq_bound (cache : TimeCache) (event : Event) :
    t.applyEvent host tag cache event =
      t.applyEventBound host tag cache event := by
  unfold applyEvent applyEventBound
  apply congrArg
    (Except.map · (t.writeTime host cache event.1 (t.writeTag tag event.2)))
  funext timed
  unfold applyFields
  rw [writeFields_context]

end Events

/-!
## Failures of what is built
-/

theorem shaped_of_build {config : Config} {t : Transformer}
    (h : build config = .ok t) {field : Field} (hfield : field ∈ t.fields)
    {e : Expr} (he : e ∈ field.plan.exprs) : e.Shaped := by
  rcases build_eq_ok h with ⟨fields, _, _, _, hfields, _, _, _, rfl⟩
  rcases exists_of_mem_mapM hfields hfield with ⟨entry, _, hentry⟩
  unfold buildField at hentry
  split at hentry
  · rename_i plan hplan
    cases hentry
    exact shaped_of_compile hplan he
  · cases hentry

/-- A field with the key fails on the record that the fields before it leave. -/
def FailsAt (policy : ErrorPolicy) (ctx : Context) (fields : List Field)
    (failure : FieldFailure) (field : Field) (record : Record) : Prop :=
  exists earlier later, fields = earlier ++ field :: later ∧
    field.key = failure.field ∧
    (writeFields policy ctx earlier).result = .ok record ∧
    field.plan.evaluate { ctx with record := record } = .error failure.source

theorem failsAt_cons {policy : ErrorPolicy} {ctx : Context} {first : Field}
    {rest : List Field} {failure : FieldFailure} {field : Field}
    {start record : Record}
    (hstart : (writeFields policy ctx [first]).result = .ok start)
    (h :
      FailsAt policy { ctx with record := start } rest failure field record) :
    FailsAt policy ctx (first :: rest) failure field record := by
  rcases h with ⟨earlier, later, rfl, hkey, hrecord, hfails⟩
  refine ⟨first :: earlier, later, rfl, hkey, ?_, hfails⟩
  have hboth := result_writeFields_append policy ctx [first] earlier
  rw [hstart] at hboth
  exact hboth.trans hrecord

theorem exists_field_of_failure {policy : ErrorPolicy} {ctx : Context}
    {fields : List Field} {failure : FieldFailure}
    (h : failure ∈ (writeFields policy ctx fields).failures) :
    exists field record, FailsAt policy ctx fields failure field record := by
  induction fields generalizing ctx with
  | nil => cases h
  | cons first rest ih =>
      have hlater :
          forall start, (writeFields policy ctx [first]).result = .ok start ->
            failure ∈
              (writeFields policy { ctx with record := start } rest).failures ->
            exists field record,
              FailsAt policy ctx (first :: rest) failure field record := by
        intro start hstart hmore
        rcases ih hmore with ⟨field, record, hfails⟩
        exact ⟨field, record, failsAt_cons hstart hfails⟩
      rw [writeFields] at h hlater
      cases hvalue : first.plan.evaluate ctx with
      | ok value =>
          rw [hvalue] at h hlater
          exact hlater _ rfl h
      | error source =>
          have hfirst : failure = ⟨first.key, source⟩ ->
              exists field record,
                FailsAt policy ctx (first :: rest) failure field record := by
            intro hsame
            subst hsame
            exact ⟨first, ctx.record, [], rest, rfl, rfl, rfl, hvalue⟩
          rw [hvalue] at h hlater
          cases policy
          · exact (List.mem_cons.mp h).elim hfirst (hlater _ rfl)
          · exact (List.mem_cons.mp h).elim hfirst (hlater _ rfl)
          · exact hfirst (List.mem_singleton.mp h)

theorem mem_failures_of_result {policy : ErrorPolicy} {ctx : Context}
    {fields : List Field} {failure : FieldFailure}
    (h : (writeFields policy ctx fields).result = .error failure) :
    failure ∈ (writeFields policy ctx fields).failures := by
  induction fields generalizing ctx with
  | nil => cases h
  | cons field rest ih =>
      rw [writeFields] at h ⊢
      cases hvalue : field.plan.evaluate ctx with
      | ok value =>
          rw [hvalue] at h
          exact ih h
      | error source =>
          rw [hvalue] at h
          cases policy
          · exact List.mem_cons_of_mem _ (ih h)
          · exact List.mem_cons_of_mem _ (ih h)
          · cases h
            exact List.mem_cons_self

/-- A field fails on the record that the fields before it leave, for the reason
of one of its expressions. -/
def Explained (t : Transformer) (host : Host) (tag : String) (time : Int64)
    (start : Record) (failure : FieldFailure) : Prop :=
  exists field record e,
    FailsAt t.errorPolicy (t.context host tag time start) t.fields failure
      field record ∧
    e ∈ field.plan.exprs ∧ e.Fails tag record failure.source

section Built

variable {config : Config} {t : Transformer} (hbuild : build config = .ok t)

include hbuild

theorem evaluate_built_eq_error_iff (host : Host) (tag : String) (time : Int64)
    (record : Record) {field : Field} (hfield : field ∈ t.fields) {e : Expr}
    (he : e ∈ field.plan.exprs) (error : EvalError) :
    e.evaluate (t.context host tag time record) = .error error <->
      e.Fails tag record error := by
  rw [t.evaluate_context host tag time record hfield he]
  exact evaluate_eq_error_iff (shaped_of_build hbuild hfield he) rfl
    (length_partsOf tag)

theorem exists_fails_of_evaluate (host : Host) (tag : String) (time : Int64)
    (record : Record) {field : Field} (hfield : field ∈ t.fields)
    {error : EvalError}
    (h : field.plan.evaluate (t.context host tag time record) = .error error) :
    exists e, e ∈ field.plan.exprs ∧ e.Fails tag record error := by
  rcases exists_failing_expr h with ⟨e, he, hfails⟩
  exact ⟨e, he,
    (evaluate_built_eq_error_iff hbuild host tag time record hfield he error).mp
      hfails⟩

theorem explained_of_applyFields {host : Host} {tag : String} {time : Int64}
    {start : Record} {failure : FieldFailure}
    (h : failure ∈ (t.applyFields host tag time start).failures) :
    t.Explained host tag time start failure := by
  rcases exists_field_of_failure h with ⟨field, record, hfails⟩
  rcases hfails with ⟨earlier, later, hfields, hkey, hrecord, hevaluate⟩
  have hfield : field ∈ t.fields := by
    rw [hfields]
    exact List.mem_append_right earlier List.mem_cons_self
  rcases exists_fails_of_evaluate hbuild host tag time record hfield
      hevaluate with
    ⟨e, he, hreason⟩
  exact ⟨field, record, e, ⟨earlier, later, hfields, hkey, hrecord, hevaluate⟩,
    he, hreason⟩

end Built

theorem mem_failures_of_applyFields {t : Transformer} {host : Host}
    {tag : String} {time : Int64} {start : Record} {failure : FieldFailure}
    (h : (t.applyFields host tag time start).result = .error failure) :
    failure ∈ (t.applyFields host tag time start).failures := by
  have h : (writeFields t.errorPolicy (t.context host tag time start)
      t.fields).result.map t.finish = .error failure := h
  cases hfields : (writeFields t.errorPolicy (t.context host tag time start)
    t.fields).result with
  | ok record =>
      rw [hfields] at h
      cases h
  | error failure' =>
      rw [hfields] at h
      cases h
      exact mem_failures_of_result hfields

/-- The fields of a transformer that was built fail in the ways of its
expressions only, and everything comes out as if the parts of the tag were
always bound.  Single calls, streams and chunks all apply their events like
this, with one cache or another. -/
theorem failures_of_built {config : Config} {t : Transformer}
    (hbuild : build config = .ok t) (host : Host) (tag : String) :
    (forall field time record, field ∈ t.fields ->
      (forall e error, e ∈ field.plan.exprs ->
        (e.evaluate (t.context host tag time record) = .error error <->
          e.Fails tag record error)) ∧
      forall error,
        field.plan.evaluate (t.context host tag time record) = .error error ->
        exists e, e ∈ field.plan.exprs ∧ e.Fails tag record error) ∧
    (forall cache event applied,
      t.applyEvent host tag cache event = .ok applied ->
      exists timed,
        t.writeTime host cache event.1 (t.writeTag tag event.2) = .ok timed ∧
        forall failure, failure ∈ applied.1.failures ∨
          applied.1.result = .error failure ->
          t.Explained host tag event.1 timed.1 failure ∧
            forall name, failure.source ≠ .missingBinding name) ∧
    (forall (plan : Plan) ctx parts, plan.usesTagParts = false ->
      plan.evaluate { ctx with tagParts := parts } = plan.evaluate ctx) ∧
    forall cache event,
      t.applyEvent host tag cache event =
        t.applyEventBound host tag cache event := by
  refine ⟨?_, ?_, ?_, t.applyEvent_eq_bound host tag⟩
  · intro field time record hfield
    constructor
    · intro e error he
      exact evaluate_built_eq_error_iff hbuild host tag time record hfield
        he error
    · intro error h
      exact exists_fails_of_evaluate hbuild host tag time record hfield h
  · intro cache event applied happlied
    unfold applyEvent at happlied
    rcases except_map_eq_ok happlied with ⟨timed, htimed, rfl⟩
    refine ⟨timed, htimed, ?_⟩
    intro failure hfailure
    have hexplained := explained_of_applyFields hbuild
      (hfailure.elim id mem_failures_of_applyFields)
    refine ⟨hexplained, ?_⟩
    rcases hexplained with ⟨_, _, _, _, _, hfails⟩
    exact hfails.ne_missingBinding
  · intro plan ctx parts hunused
    exact evaluate_plan_of_not_usesTagParts hunused ctx parts

theorem failures_of_built_fragile :
    build fragileConfig = .ok fragile ∧
      exists applied,
        fragile.applyEvent ⟨[], [], 0⟩ "a" .empty (1, [("id", .int 7)]) =
          .ok applied ∧
        applied.1.failures =
          [⟨"id", .notIndexable "integer" (Accessor.key "x").shown⟩,
            ⟨"part", .indexOutOfRange "tag_parts" 5 1⟩] ∧
        forall failure, failure ∈ applied.1.failures ->
          fragile.Explained ⟨[], [], 0⟩ "a" 1 [("id", .int 7)] failure ∧
            forall name, failure.source ≠ .missingBinding name := by
  have hbuild : build fragileConfig = .ok fragile := by with_unfolding_all rfl
  refine ⟨hbuild, _, rfl, rfl, ?_⟩
  intro failure hfailure
  rcases (failures_of_built hbuild ⟨[], [], 0⟩ "a").right.left .empty
    (1, [("id", .int 7)]) _ rfl with
    ⟨timed, htimed, hexplained⟩
  cases htimed
  exact hexplained failure (.inl hfailure)

end Transformer
end Reshape
