import Reshape.Proofs.Template.Grammar
import Reshape.Proofs.Template.Paths

/-!
# How expressions fail

The parser lets a path through only where the root takes it: any after the
record, at most one position after the parts of the tag, none after anything
else.  So with the parts bound, an expression fails in two ways only.  The
position is not that of a part, or a path into the record comes to a value that
does not take the accessor after it.
-/

namespace Reshape

/-!
## Positions
-/

namespace Accessor

/-- The position is that of an item, counted from the start or, below zero, from
the end. -/
def Inside (n : Int64) (length : Nat) : Prop :=
  -(length : Int) ≤ n.toInt ∧ n.toInt < length

theorem offset?_of_inside {n : Int64} {length : Nat} (h : Inside n length) :
    exists i, offset? n length = some i ∧ i < length := by
  rcases h with ⟨hlow, hhigh⟩
  unfold offset?
  by_cases hsign : n.toInt < 0
  · have hplace : 0 ≤ (length : Int) + n.toInt ∧
        (length : Int) + n.toInt < length := by
      lia
    simp only [if_pos hsign, if_pos hplace]
    exact ⟨_, rfl, by lia⟩
  · have hplace : 0 ≤ n.toInt ∧ n.toInt < length := by lia
    simp only [if_neg hsign, if_pos hplace]
    exact ⟨_, rfl, by lia⟩

theorem offset?_of_not_inside {n : Int64} {length : Nat}
    (h : Not (Inside n length)) : offset? n length = none := by
  unfold Inside at h
  unfold offset?
  by_cases hsign : n.toInt < 0
  · have hplace : Not (0 ≤ (length : Int) + n.toInt ∧
        (length : Int) + n.toInt < length) := by
      lia
    simp only [if_pos hsign, if_neg hplace]
  · have hplace : Not (0 ≤ n.toInt ∧ n.toInt < length) := by lia
    simp only [if_neg hsign, if_neg hplace]

end Accessor

namespace Template

/-!
## Paths into a record
-/

/-- The path comes to a value that does not take the accessor after it.  A
record as a whole is called by its own name. -/
inductive StopsAt (record : Record) : List Accessor -> EvalError -> Prop
  | record (n : Int64) (rest : List Accessor) :
      StopsAt record (.position n :: rest)
        (.notIndexable "record" (Accessor.position n).shown)
  | value {key : String} {before : List Accessor} {v : Value} {a : Accessor}
      (leads : lookup record (.key key :: before) = .ok v)
      (refuses : v.accepts a = false) (after : List Accessor) :
      StopsAt record (.key key :: (before ++ a :: after))
        (.notIndexable v.typeName a.shown)

theorem exists_refused_of_follow {v : Value} {path : List Accessor}
    {error : EvalError} (h : follow v path = .error error) :
    exists before w a after, path = before ++ a :: after ∧
      follow v before = .ok w ∧
      w.accepts a = false ∧ error = .notIndexable w.typeName a.shown := by
  induction path generalizing v with
  | nil => cases h
  | cons a path ih =>
      cases haccepts : v.accepts a with
      | false =>
          rw [follow_of_refused haccepts] at h
          cases h
          exact ⟨[], v, a, path, rfl, rfl, haccepts, rfl⟩
      | true =>
          have hstep : step v a = .ok ((v.child? a).getD .null) := by
            rw [step, haccepts]
            rfl
          rw [follow, hstep] at h
          rcases ih h with ⟨before, w, b, after, rfl, hleads, hrefuses, herror⟩
          refine ⟨a :: before, w, b, after, rfl, ?_, hrefuses, herror⟩
          rw [follow, hstep]
          exact hleads

theorem lookup_eq_error_iff {record : Record} {path : List Accessor}
    {error : EvalError} :
    lookup record path = .error error <-> StopsAt record path error := by
  constructor
  · intro h
    cases path with
    | nil => cases h
    | cons first rest =>
        cases first with
        | position n =>
            cases h
            exact .record n rest
        | key name =>
            -- The record is a map and takes the key, so what refuses comes
            -- later.
            have hfollow :
                follow ((record.get? name).getD .null) rest = .error error :=
              (lookup_of_key record name rest).symm.trans h
            rcases exists_refused_of_follow hfollow with
              ⟨before, w, a, after, rfl, hleads, hrefuses, rfl⟩
            exact .value ((lookup_of_key record name before).trans hleads)
              hrefuses after
  · intro h
    cases h with
    | record n rest => rfl
    | @value key before v a leads refuses after =>
        rw [lookup_of_key] at leads
        rw [lookup_of_key, ← List.cons_append, follow_append, leads]
        exact follow_of_refused refuses after

/-!
## Failing expressions
-/

inductive Expr.Fails (tag : String) (record : Record) :
    Expr -> EvalError -> Prop
  | part {n : Int64}
      (outside : Not (Accessor.Inside n (tag.toList.count '.' + 1))) :
      Fails tag record ⟨.tagParts, [.position n]⟩
        (.indexOutOfRange "tag_parts" n.toInt (tag.toList.count '.' + 1))
  | chain {path : List Accessor} {error : EvalError}
      (stops : StopsAt record path error) :
      Fails tag record ⟨.record, path⟩ error

theorem lookupPart_of_inside {parts : List String} {n : Int64}
    (h : Accessor.Inside n parts.length) :
    exists part, lookupPart parts [.position n] = .ok (.ofString part) := by
  rcases Accessor.offset?_of_inside h with ⟨i, hoffset, hlt⟩
  exists parts[i]
  have hpart : (Accessor.offset? n parts.length).bind (fun i => parts[i]?) =
      some parts[i] := by
    rw [hoffset]
    exact List.getElem?_eq_getElem hlt
  rw [lookupPart, hpart]

theorem lookupPart_of_not_inside {parts : List String} {n : Int64}
    (h : Not (Accessor.Inside n parts.length)) :
    lookupPart parts [.position n] =
      .error (.indexOutOfRange "tag_parts" n.toInt parts.length) := by
  rw [lookupPart, Accessor.offset?_of_not_inside h]
  rfl

/-- With as many parts bound as the tag has, these are the only ways to fail. -/
theorem evaluate_eq_error_iff {e : Expr} (hshape : e.Shaped) {ctx : Context}
    {parts : List String} (hparts : ctx.tagParts = some parts)
    (hlength : parts.length = ctx.tag.toList.count '.' + 1)
    {error : EvalError} :
    e.evaluate ctx = .error error <-> e.Fails ctx.tag ctx.record error := by
  rcases e with ⟨root, path⟩
  cases root with
  | record =>
      show lookup ctx.record path = .error error <-> _
      rw [lookup_eq_error_iff]
      constructor
      · exact .chain
      · intro h
        cases h with
        | chain stops => exact stops
  | tagParts =>
      have hevaluate :
          Expr.evaluate ⟨.tagParts, path⟩ ctx = lookupPart parts path := by
        rw [Expr.evaluate, hparts]
      rw [hevaluate]
      cases path with
      | nil =>
          constructor <;>
            · intro h
              cases h
      | cons first rest =>
          cases first with
          | key name => cases hshape
          | position n =>
              cases rest with
              | cons second rest => cases hshape
              | nil =>
                  by_cases hinside : Accessor.Inside n parts.length
                  · rcases lookupPart_of_inside hinside with ⟨part, hpart⟩
                    rw [hpart]
                    constructor
                    · intro h
                      cases h
                    · intro h
                      cases h with
                      | part outside =>
                          rw [hlength] at hinside
                          exact absurd hinside outside
                  · rw [lookupPart_of_not_inside hinside]
                    rw [hlength] at hinside ⊢
                    constructor
                    · intro h
                      cases h
                      exact .part hinside
                    · intro h
                      cases h
                      rfl
  | _ =>
      constructor <;>
        · intro h
          cases h

theorem Expr.Fails.ne_missingBinding {tag : String} {record : Record} {e : Expr}
    {error : EvalError} (h : e.Fails tag record error) (name : String) :
    error ≠ .missingBinding name := by
  cases h with
  | part outside => nofun
  | chain stops => cases stops <;> nofun

/-!
## Expressions without the parts of the tag
-/

theorem evaluate_of_not_usesTagParts {e : Expr} (h : e.usesTagParts = false)
    (ctx : Context) (parts : Option (List String)) :
    e.evaluate { ctx with tagParts := parts } = e.evaluate ctx := by
  rcases e with ⟨root, path⟩
  cases root with
  | tagParts => cases h
  | _ => rfl

end Template
end Reshape
