import Reshape.Proofs.Expansion.Evaluations

/-!
# Failures of fields

The failures of an event are its results that are errors, in the order of the
fields.  Only one policy lets a failure end the event, and then there is no
failure after it.  The errors that an observer is told of are read off the
trace.
-/

namespace Reshape

open Template

namespace Transformer

/-!
## Results and failures
-/

def FieldResult.failure? : FieldResult -> Option FieldFailure
  | (_, .ok _) => none
  | (key, .error source) => some ⟨key, source⟩

theorem failures_writeFields (policy : ErrorPolicy) (ctx : Context)
    (fields : List Field) :
    (writeFields policy ctx fields).failures =
      (evaluations policy ctx fields).filterMap FieldResult.failure? := by
  induction fields generalizing ctx with
  | nil => rfl
  | cons field rest ih =>
      rw [writeFields, evaluations]
      cases field.plan.evaluate ctx with
      | ok value =>
          exact ih { ctx with record := ctx.record.insert field.key value }
      | error source =>
          cases policy
          · exact congrArg (⟨field.key, source⟩ :: ·) (ih ctx)
          · exact congrArg (⟨field.key, source⟩ :: ·)
              (ih { ctx with record := ctx.record.insert field.key .null })
          · rfl

theorem exists_result_writeFields {policy : ErrorPolicy}
    (hpolicy : policy ≠ .fail) (ctx : Context) (fields : List Field) :
    exists record, (writeFields policy ctx fields).result = .ok record := by
  induction fields generalizing ctx with
  | nil => exact ⟨ctx.record, rfl⟩
  | cons field rest ih =>
      rw [writeFields]
      cases field.plan.evaluate ctx with
      | ok value =>
          exact ih { ctx with record := ctx.record.insert field.key value }
      | error source =>
          cases policy
          · exact ih ctx
          · exact ih { ctx with record := ctx.record.insert field.key .null }
          · exact absurd rfl hpolicy

/-- More fields go on with the record that the fields before them leave. -/
theorem result_writeFields_append (policy : ErrorPolicy) (ctx : Context)
    (fields more : List Field) :
    (writeFields policy ctx (fields ++ more)).result =
      (writeFields policy ctx fields).result.bind fun record =>
        (writeFields policy { ctx with record := record } more).result := by
  induction fields generalizing ctx with
  | nil => rfl
  | cons field rest ih =>
      rw [List.cons_append, writeFields, writeFields]
      cases field.plan.evaluate ctx with
      | ok value =>
          exact ih { ctx with record := ctx.record.insert field.key value }
      | error source =>
          cases policy
          · exact ih ctx
          · exact ih { ctx with record := ctx.record.insert field.key .null }
          · rfl

/-!
## Errors in a trace
-/

def Happening.failureError? : Happening -> Option Error
  | .reported (.failure _ _ error) => some error
  | _ => none

def failureErrors (trace : List Happening) : List Error :=
  trace.filterMap Happening.failureError?

theorem failureErrors_failureTrace (t : Transformer) (options : ReportOptions)
    (subject : Subject) (failure : FieldFailure) :
    failureErrors (t.failureTrace options subject failure) =
      [failure.error] := by
  unfold failureTrace ReportOptions.failureReports
  split <;> rfl

theorem failureErrors_runOfOutcome (t : Transformer) (options : ReportOptions)
    (tag : String) (outcome : Outcome Record) :
    failureErrors (t.runOfOutcome options tag outcome).trace =
      outcome.failures.map FieldFailure.error := by
  unfold runOfOutcome
  generalize outcome.failures = failures
  induction failures with
  | nil => rfl
  | cons failure rest ih =>
      have hone := failureErrors_failureTrace t options ⟨tag, none⟩ failure
      unfold failureErrors at ih hone ⊢
      rw [List.flatMap_cons, List.filterMap_append, ih, hone]
      rfl

end Transformer
end Reshape
