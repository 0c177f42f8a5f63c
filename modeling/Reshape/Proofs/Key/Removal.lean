import Reshape.Proofs.Key.Spot
import Reshape.Proofs.Template.Failures

/-!
# Removing what an expression reads

A key path and an expression on the record walk through a record by themselves,
yet they come to the same spot.  The path takes out what the expression reads
there, and the record without that spot is all that is left of it.  Where the
path finds no spot, the expression reads null or is refused by a value on the
way.
-/

namespace Reshape

namespace Template

/-!
## Reading a spot
-/

theorem step_fill {frame : Frame} {a : Accessor} (h : frame.At a) (v : Value) :
    step (frame.fill v) a = .ok v := by
  rw [step, Frame.accepts_fill h, Frame.child?_fill h]
  rfl

theorem follow_fill {spot : Spot} {path : List Accessor} (h : spot.At path)
    (v : Value) : follow (spot.fill v) path = .ok v := by
  induction h with
  | here names =>
      rw [Spot.fill, follow, step_fill names]
      rfl
  | inside names leads ih =>
      rw [Spot.fill, follow, step_fill names]
      exact ih

theorem follow_null {path : List Accessor} (h : path ≠ []) :
    exists target index,
      follow .null path = .error (.notIndexable target index) := by
  cases path with
  | nil => exact absurd rfl h
  | cons a path =>
      exact ⟨Value.null.typeName, a.shown,
        follow_of_refused (accepts_null a) path⟩

theorem follow_of_take?_eq_none {path : List Accessor} {v : Value}
    (hpath : path ≠ []) (h : Value.take? path v = none) :
    follow v path = .ok .null ∨
      exists target index,
        follow v path = .error (.notIndexable target index) := by
  induction path generalizing v with
  | nil => exact absurd rfl hpath
  | cons a path ih =>
      cases haccepts : v.accepts a with
      | false =>
          exact .inr ⟨v.typeName, a.shown, follow_of_refused haccepts path⟩
      | true =>
          have hstep : step v a = .ok ((v.child? a).getD .null) := by
            rw [step, haccepts]
            rfl
          rw [follow, hstep]
          cases hchild : v.child? a with
          | none =>
              cases path with
              | nil => exact .inl rfl
              | cons b path =>
                  exact .inr (follow_null (List.cons_ne_nil b path))
          | some child =>
              cases path with
              | nil =>
                  rw [Frame.child?_eq_none_of_takeChild? h] at hchild
                  cases hchild
              | cons b path =>
                  rw [Value.take?_cons a (List.cons_ne_nil b path), hchild,
                    Option.bind_some, Option.map_eq_none_iff] at h
                  exact ih (List.cons_ne_nil b path) h

end Template

theorem Spot.exists_emptied {spot : Spot} {record : Record} {v : Value}
    (h : .map record = spot.fill v) :
    exists rest, spot.emptied = .map rest := by
  cases spot with
  | here frame =>
      cases frame with
      | entry before name after => exact ⟨before ++ after, rfl⟩
      | item before after => cases h
  | inside frame spot =>
      cases frame with
      | entry before name after =>
          exact ⟨before ++ (name, spot.emptied) :: after, rfl⟩
      | item before after => cases h

namespace KeyPath

/-!
## Key paths
-/

theorem exists_key_of_readPath {cs : List Char} {accessors : List Accessor}
    (h : readPath cs = .ok accessors) :
    exists name rest, accessors = .key name :: rest := by
  unfold readPath at h
  split at h
  · cases h
  · cases h
  · cases h
  · rename_i hwhole hposition _
    cases h
    cases accessors with
    | nil => exact (hwhole rfl).elim
    | cons first rest =>
        cases first with
        | key name => exact ⟨name, rest, rfl⟩
        | position n => exact (hposition n rest rfl).elim

theorem exists_key_of_parse {source : String} {path : KeyPath}
    (h : parse source = .ok path) :
    exists name rest, path.accessors = .key name :: rest := by
  unfold parse at h
  dsimp only at h
  split at h
  · cases h
  · rename_i rest _
    cases hread : readPath rest with
    | error cause =>
        rw [hread] at h
        cases h
    | ok accessors =>
        rw [hread] at h
        cases h
        exact exists_key_of_readPath hread
  · cases h
    exact ⟨_, [], rfl⟩

def Finds (path : KeyPath) (record : Record) (spot : Spot) (v : Value) : Prop :=
  spot.At path.accessors ∧ .map record = spot.fill v

theorem removeFrom_of_finds {path : KeyPath} {record : Record} {spot : Spot}
    {v : Value} (h : path.Finds record spot v) :
    exists rest, path.removeFrom record = (some v, rest) ∧
      .map rest = spot.emptied := by
  rcases h with ⟨leads, hrecord⟩
  rcases Spot.exists_emptied hrecord with ⟨rest, hrest⟩
  refine ⟨rest, ?_, hrest.symm⟩
  rw [removeFrom, hrecord, Value.take?_fill leads, hrest]

theorem removeFrom_finds_or_not (path : KeyPath) (record : Record) :
    (exists spot v, path.Finds record spot v) ∨
      (Value.take? path.accessors (.map record) = none ∧
        path.removeFrom record = (none, record)) := by
  cases htake : Value.take? path.accessors (.map record) with
  | none =>
      right
      refine ⟨rfl, ?_⟩
      rw [removeFrom, htake]
  | some taken =>
      left
      rcases Value.exists_spot htake with ⟨spot, leads, hrecord, _⟩
      exact ⟨spot, taken.1, leads, hrecord⟩

end KeyPath

namespace Template

/-- What a path removes is what its accessors read after the record, and nothing
but its spot goes. -/
theorem removeFrom_reads {source : String} {path : KeyPath}
    (h : KeyPath.parse source = .ok path) (ctx : Context) :
    (forall v rest, path.removeFrom ctx.record = (some v, rest) ->
      Expr.evaluate ⟨.record, path.accessors⟩ ctx = .ok v ∧
      exists spot, path.Finds ctx.record spot v ∧ .map rest = spot.emptied ∧
        forall other record, path.Finds record spot other ->
          Expr.evaluate ⟨.record, path.accessors⟩
              { ctx with record := record } =
            .ok other) ∧
    (forall rest, path.removeFrom ctx.record = (none, rest) ->
      rest = ctx.record ∧
      (Expr.evaluate ⟨.record, path.accessors⟩ ctx = .ok .null ∨
        exists target index,
          Expr.evaluate ⟨.record, path.accessors⟩ ctx =
            .error (.notIndexable target index)) ∧
      forall spot v, Not (path.Finds ctx.record spot v)) := by
  rcases KeyPath.exists_key_of_parse h with ⟨name, later, hpath⟩
  have hevaluate : forall record,
      Expr.evaluate ⟨.record, path.accessors⟩ { ctx with record := record } =
        follow (.map record) path.accessors := by
    intro record
    show lookup record path.accessors = _
    rw [hpath, lookup_of_key]
  have hreads : forall record spot v, path.Finds record spot v ->
      Expr.evaluate ⟨.record, path.accessors⟩ { ctx with record := record } =
        .ok v := by
    intro record spot v hfinds
    rw [hevaluate, hfinds.right, follow_fill hfinds.left]
  constructor
  · intro v rest hremove
    rcases path.removeFrom_finds_or_not ctx.record with
      ⟨spot, v', hfinds⟩ | ⟨_, hnone⟩
    · rcases KeyPath.removeFrom_of_finds hfinds with ⟨rest', hremove', hrest⟩
      rw [hremove] at hremove'
      cases hremove'
      exact ⟨hreads ctx.record spot v hfinds, spot, hfinds, hrest,
        fun other record => hreads record spot other⟩
    · rw [hremove] at hnone
      cases hnone
  · intro rest hremove
    rcases path.removeFrom_finds_or_not ctx.record with
      ⟨spot, v, hfinds⟩ | ⟨htake, hnone⟩
    · rcases KeyPath.removeFrom_of_finds hfinds with ⟨rest', hremove', _⟩
      rw [hremove] at hremove'
      cases hremove'
    · rw [hremove] at hnone
      cases hnone
      refine ⟨rfl, ?_, ?_⟩
      · have hnull :=
          follow_of_take?_eq_none (hpath ▸ List.cons_ne_nil _ later) htake
        rw [← hevaluate ctx.record] at hnull
        exact hnull
      · intro spot v hfinds
        rcases KeyPath.removeFrom_of_finds hfinds with ⟨rest', hremove', _⟩
        rw [hremove] at hremove'
        cases hremove'

theorem removeFrom_reads_from_end :
    exists (found missed : KeyPath) (ctx : Context),
      KeyPath.parse " $.items[-2]" = .ok found ∧
        KeyPath.parse "$['id'][0]" = .ok missed ∧
        ctx.record = [("id", .int 7), ("items", .array [.int 1, .int 2])] ∧
        found.removeFrom ctx.record =
          (some (.int 1), [("id", .int 7), ("items", .array [.int 2])]) ∧
        Expr.evaluate ⟨.record, found.accessors⟩ ctx = .ok (.int 1) ∧
        missed.removeFrom ctx.record = (none, ctx.record) ∧
        (Expr.evaluate ⟨.record, missed.accessors⟩ ctx = .ok .null ∨
          exists target index,
            Expr.evaluate ⟨.record, missed.accessors⟩ ctx =
              .error (.notIndexable target index)) := by
  have hfound : KeyPath.parse " $.items[-2]" =
      .ok ⟨"$.items[-2]", [.key "items", .position (-2)]⟩ := by
    with_unfolding_all rfl
  have hmissed : KeyPath.parse "$['id'][0]" =
      .ok ⟨"$['id'][0]", [.key "id", .position 0]⟩ := by
    with_unfolding_all rfl
  refine ⟨_, _,
    ⟨⟨[], [], 0⟩, "a", 0,
      [("id", .int 7), ("items", .array [.int 1, .int 2])], none⟩,
    hfound, hmissed, rfl, rfl, ?_, rfl, ?_⟩
  · exact ((removeFrom_reads hfound _).left _ _ rfl).left
  · exact ((removeFrom_reads hmissed _).right _ rfl).right.left

end Template
end Reshape
