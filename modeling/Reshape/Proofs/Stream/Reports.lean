import Reshape.Transformer

/-!
# Reports in a trace

What an observer hears of a run is read off its trace.  A failure of a field
leaves exactly one failure report and no success report, and a stream that comes
to an end leaves exactly one success report, with the numbers of its batch.
-/

namespace Reshape
namespace Transformer

def Happening.success? : Happening -> Option Report
  | .reported (.success subject events fieldErrors) =>
      some (.success subject events fieldErrors)
  | _ => none

def Happening.isFailure : Happening -> Bool
  | .reported (.failure _ _ _) => true
  | _ => false

def successes (trace : List Happening) : List Report :=
  trace.filterMap Happening.success?

def failureCount (trace : List Happening) : Nat :=
  trace.countP Happening.isFailure

/-!
## Traces of failures
-/

section Failures

variable (t : Transformer) (options : ReportOptions)

theorem successes_append (xs ys : List Happening) :
    successes (xs ++ ys) = successes xs ++ successes ys :=
  List.filterMap_append

theorem successes_flatMap_eq_nil {α : Type} {f : α -> List Happening}
    (h : forall a, successes (f a) = []) (items : List α) :
    successes (items.flatMap f) = [] := by
  induction items with
  | nil => rfl
  | cons a rest ih =>
      rw [List.flatMap_cons, successes_append, h a, ih]
      rfl

@[simp] theorem successes_failureTrace (subject : Subject)
    (failure : FieldFailure) :
    successes (t.failureTrace options subject failure) = [] := by
  unfold failureTrace ReportOptions.failureReports
  split <;> rfl

@[simp] theorem failureCount_failureTrace (subject : Subject)
    (failure : FieldFailure) :
    failureCount (t.failureTrace options subject failure) = 1 := by
  unfold failureTrace ReportOptions.failureReports
  split <;> rfl

theorem failureCount_flatMap_failureTrace (subject : Subject)
    (failures : List FieldFailure) :
    failureCount (failures.flatMap (t.failureTrace options subject)) =
      failures.length := by
  induction failures with
  | nil => rfl
  | cons failure rest ih =>
      unfold failureCount at ih ⊢
      rw [List.flatMap_cons, List.countP_append, ih]
      have hone := failureCount_failureTrace t options subject failure
      unfold failureCount at hone
      rw [hone, List.length_cons, Nat.add_comm]

@[simp] theorem successes_placedTrace (tag : String) (placed : PlacedFailure) :
    successes (t.placedTrace options tag placed) = [] :=
  successes_failureTrace t options ⟨tag, some placed.event⟩ placed.failure

theorem successes_flatMap_placedTrace (tag : String)
    (failures : List PlacedFailure) :
    successes (failures.flatMap (t.placedTrace options tag)) = [] :=
  successes_flatMap_eq_nil (successes_placedTrace t options tag) failures

/-!
## The trace of a stream
-/

theorem streamRun_result (tag : String) (batch : BatchOutcome) :
    (t.streamRun options tag batch).result =
      batch.result.mapError FieldFailure.error := by
  unfold streamRun
  cases hresult : batch.result <;> rfl

/-- A success is reported once, after everything else, and only if there is
one. -/
theorem successes_streamRun (tag : String) (batch : BatchOutcome) :
    successes (t.streamRun options tag batch).trace =
      match batch.result with
      | .error _ => []
      | .ok out => [.success ⟨tag, none⟩ out.length batch.failures.length] := by
  unfold streamRun
  cases hresult : batch.result with
  | error failure =>
      exact successes_flatMap_placedTrace t options tag batch.failures
  | ok out =>
      show successes (batch.failures.flatMap _ ++ _) = _
      rw [successes_append, successes_flatMap_placedTrace]
      rfl

end Failures

end Transformer
end Reshape
