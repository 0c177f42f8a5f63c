import Reshape.Template.Evaluation

/-!
# Paths through null

A path keeps apart a value that is missing and a null that is there, but it goes
on in the same way after both: it refuses any accessor, in the same words, and
it gives null if none is left.  So a path can as well be followed with null for
whatever is missing.
-/

namespace Reshape
namespace Template

def step (v : Value) (a : Accessor) : Except EvalError Value :=
  if v.accepts a then .ok ((v.child? a).getD .null)
  else .error (.notIndexable v.typeName a.shown)

def follow : Value -> List Accessor -> Except EvalError Value
  | v, [] => .ok v
  | v, a :: path =>
      match step v a with
      | .error e => .error e
      | .ok child => follow child path

theorem follow_append (v : Value) (before after : List Accessor) :
    follow v (before ++ after) =
      (follow v before).bind fun w => follow w after := by
  induction before generalizing v with
  | nil => rfl
  | cons a before ih =>
      rw [List.cons_append, follow, follow]
      cases step v a with
      | error error => rfl
      | ok child => exact ih child

theorem follow_of_refused {v : Value} {a : Accessor} (h : v.accepts a = false)
    (after : List Accessor) :
    follow v (a :: after) = .error (.notIndexable v.typeName a.shown) := by
  rw [follow, step, h]
  rfl

theorem accepts_null (a : Accessor) : Value.null.accepts a = false := by
  cases a <;> rfl

/-- What is missing may be taken for null along the whole path. -/
theorem walk_eq_follow (found : Option Value) (path : List Accessor) :
    (walk found path).map (fun v => v.getD .null) =
      follow (found.getD .null) path := by
  induction path generalizing found with
  | nil => cases found <;> rfl
  | cons a path ih =>
      cases found with
      | none => exact (follow_of_refused (accepts_null a) path).symm
      | some v =>
          rw [walk, index, Option.getD_some, follow, step]
          cases v.accepts a with
          | false => rfl
          | true => exact ih (v.child? a)

theorem lookup_of_key (record : Record) (name : String) (rest : List Accessor) :
    lookup record (.key name :: rest) =
      follow (.map record) (.key name :: rest) :=
  walk_eq_follow (record.get? name) rest

end Template
end Reshape
