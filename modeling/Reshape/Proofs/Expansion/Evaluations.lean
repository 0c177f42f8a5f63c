import Reshape.Proofs.Stream.Alone

/-!
# The results of fields

Writing the fields of an event comes down to a list of results, one for each
field that is evaluated, in order.  The list with the record at the start gives
the outcome, so whatever two events differ in, equal lists mean equal failures.
-/

namespace Reshape

open Template

namespace Transformer

abbrev FieldResult := String × Except EvalError Value

/-- The record after a field was evaluated; `none` when the event ends there. -/
def commit (policy : ErrorPolicy) (record : Record) (key : String) :
    Except EvalError Value -> Option Record
  | .ok value => some (record.insert key value)
  | .error _ =>
      match policy with
      | .fail => none
      | .omit => some record
      | .null => some (record.insert key .null)

/-- The results of the fields that are evaluated.  Each sees what the ones
before it wrote. -/
def evaluations (policy : ErrorPolicy) (ctx : Context) :
    List Field -> List FieldResult
  | [] => []
  | field :: rest =>
      (field.key, field.plan.evaluate ctx) ::
        match commit policy ctx.record field.key (field.plan.evaluate ctx) with
        | none => []
        | some record => evaluations policy { ctx with record := record } rest

/-!
## From results to outcomes
-/

namespace Outcome

def after {α : Type} (failure : FieldFailure) (outcome : Outcome α) :
    Outcome α :=
  ⟨failure :: outcome.failures, outcome.result⟩

def verdict {α : Type} (outcome : Outcome α) : Outcome Unit :=
  ⟨outcome.failures, outcome.result.map fun _ => ()⟩

theorem verdict_after {α : Type} (failure : FieldFailure)
    (outcome : Outcome α) :
    (outcome.after failure).verdict = outcome.verdict.after failure :=
  rfl

end Outcome

def replay (policy : ErrorPolicy) : Record -> List FieldResult -> Outcome Record
  | record, [] => ⟨[], .ok record⟩
  | record, (key, .ok value) :: rest =>
      replay policy (record.insert key value) rest
  | record, (key, .error source) :: rest =>
      match policy with
      | .fail => ⟨[⟨key, source⟩], .error ⟨key, source⟩⟩
      | .omit => (replay policy record rest).after ⟨key, source⟩
      | .null =>
          (replay policy (record.insert key .null) rest).after ⟨key, source⟩

/-- The outcome of an event is its results written into its record. -/
theorem writeFields_eq_replay (policy : ErrorPolicy) (ctx : Context)
    (fields : List Field) :
    writeFields policy ctx fields =
      replay policy ctx.record (evaluations policy ctx fields) := by
  induction fields generalizing ctx with
  | nil => rfl
  | cons field rest ih =>
      rw [writeFields, evaluations]
      cases field.plan.evaluate ctx with
      | ok value =>
          exact ih { ctx with record := ctx.record.insert field.key value }
      | error source =>
          cases policy
          · exact congrArg (Outcome.after ⟨field.key, source⟩) (ih ctx)
          · exact congrArg (Outcome.after ⟨field.key, source⟩)
              (ih { ctx with record := ctx.record.insert field.key .null })
          · rfl

theorem verdict_replay (policy : ErrorPolicy) (results : List FieldResult)
    (record other : Record) :
    (replay policy record results).verdict =
      (replay policy other results).verdict := by
  induction results generalizing record other with
  | nil => rfl
  | cons first rest ih =>
      rcases first with ⟨key, result⟩
      cases result with
      | ok value => exact ih (record.insert key value) (other.insert key value)
      | error source =>
          cases policy
          · show (Outcome.after _ _).verdict = (Outcome.after _ _).verdict
            rw [Outcome.verdict_after, Outcome.verdict_after, ih record other]
          · have hrest := ih (record.insert key .null) (other.insert key .null)
            show (Outcome.after _ _).verdict = (Outcome.after _ _).verdict
            rw [Outcome.verdict_after, Outcome.verdict_after, hrest]
          · rfl

/-!
## Events
-/

def fieldResults (t : Transformer) (host : Host) (tag : String)
    (event : Event) : Except Time.Overflow (List FieldResult) :=
  (t.stamp host event.1 (t.writeTag tag event.2)).map fun record =>
    evaluations t.errorPolicy (t.context host tag event.1 record) t.fields

def runOfOutcome (t : Transformer) (options : ReportOptions) (tag : String)
    (outcome : Outcome Record) : Run Record :=
  ⟨outcome.failures.flatMap (t.failureTrace options ⟨tag, none⟩),
    (outcome.result.map t.finish).mapError FieldFailure.error⟩

def Run.verdict {α : Type} (run : Run α) : Run Unit :=
  ⟨run.trace, run.result.map fun _ => ()⟩

theorem transform_eq_replay (t : Transformer) (host : Host)
    (options : ReportOptions) (tag : String) (event : Event) :
    t.transform host options tag event =
      (t.stamp host event.1 (t.writeTag tag event.2)).map fun record =>
        t.runOfOutcome options tag
          (replay t.errorPolicy record
            (evaluations t.errorPolicy (t.context host tag event.1 record)
              t.fields)) := by
  rw [transform_eq_alone, alone, except_map_map]
  apply congrArg (Except.map · (t.stamp host event.1 (t.writeTag tag event.2)))
  funext record
  show Run.mk _ _ = t.runOfOutcome options tag _
  unfold applyFields
  rw [writeFields_eq_replay]
  rfl

theorem verdict_runOfOutcome (t : Transformer) (options : ReportOptions)
    (tag : String) {outcome other : Outcome Record}
    (h : outcome.verdict = other.verdict) :
    (t.runOfOutcome options tag outcome).verdict =
      (t.runOfOutcome options tag other).verdict := by
  rcases outcome with ⟨failures, result⟩
  rcases other with ⟨failures', result'⟩
  injection h with hfailures hresult
  subst hfailures
  cases result with
  | error failure =>
      cases result' with
      | error failure' =>
          cases hresult
          rfl
      | ok record => cases hresult
  | ok record =>
      cases result' with
      | error failure => cases hresult
      | ok record' => rfl

end Transformer
end Reshape
