import Reshape.Proofs.Expansion.Splicing

/-!
# Staging a path

A path into the record may be cut in two: a field takes the value of the first
part, and the second part reads on from that field.  The second part does not
see where the value came from.  Only a value that is missing is no longer so
once a field has it, for the field holds a null; but a path goes on in the same
way after both.
-/

namespace Reshape

open Template

namespace Template

theorem lookup_append {record : Record} {key : String} {path : List Accessor}
    {v : Value} (h : lookup record (.key key :: path) = .ok v)
    (after : List Accessor) :
    lookup record (.key key :: path ++ after) = follow v after := by
  rw [lookup_of_key] at h
  rw [List.cons_append, lookup_of_key, ← List.cons_append, follow_append, h]
  rfl

theorem lookup_of_get? {record : Record} {key : String} {v : Value}
    (h : record.get? key = some v) (path : List Accessor) :
    lookup record (.key key :: path) = follow v path := by
  have hvalue : Record.valueAt record key = v := by
    unfold Record.valueAt
    rw [h]
    rfl
  rw [lookup_key, hvalue]

end Template

namespace Transformer

/-- A field with the value of a path stands for the path, also when other fields
are written after it: whatever accessors come next give the same value or fail
in the same words. -/
theorem evaluate_append_eq_staged {ctx : Context} {key : String}
    {path : List Accessor} {v : Value}
    (h : Expr.evaluate ⟨.record, .key key :: path⟩ ctx = .ok v) (stage : String)
    (after : List Accessor) :
    Expr.evaluate ⟨.record, .key key :: path ++ after⟩ ctx =
        Expr.evaluate ⟨.record, .key stage :: after⟩
          { ctx with record := ctx.record.insert stage v } ∧
      forall policy between record, stage ∉ between.map Field.key ->
        (writeFields policy ctx
          (⟨stage, .raw ⟨.record, .key key :: path⟩⟩ :: between)).result =
          .ok record ->
        Expr.evaluate ⟨.record, .key key :: path ++ after⟩ ctx =
          Expr.evaluate ⟨.record, .key stage :: after⟩
            { ctx with record := record } := by
  have hstaged : forall record : Record, record.get? stage = some v ->
      Expr.evaluate ⟨.record, .key key :: path ++ after⟩ ctx =
        Expr.evaluate ⟨.record, .key stage :: after⟩
          { ctx with record := record } := by
    intro record hrecord
    exact (lookup_append h after).trans (lookup_of_get? hrecord after).symm
  have hinserted : (ctx.record.insert stage v).get? stage = some v :=
    Fields.get?_insert_self ctx.record stage v
  refine ⟨hstaged _ hinserted, ?_⟩
  intro policy between record hbetween hwritten
  have hfirst :
      Plan.evaluate (.raw ⟨.record, .key key :: path⟩) ctx = .ok v := h
  rw [writeFields, hfirst] at hwritten
  apply hstaged
  rw [get?_writeFields hwritten hbetween]
  exact hinserted

def nested : Context :=
  ⟨⟨[], [], 0⟩, "a", 0,
    [("m", .map [("xs", .array [.int 1, .array [.int 2, .int 3]])])], none⟩

theorem evaluate_append_eq_staged_missing :
    (Expr.evaluate ⟨.record, [.key "m", .key "xs"]⟩ nested =
          .ok (.array [.int 1, .array [.int 2, .int 3]]) ∧
        Expr.evaluate
          ⟨.record, [.key "m", .key "xs", .position (-1), .position 0]⟩ nested =
          Expr.evaluate ⟨.record, [.key "s", .position (-1), .position 0]⟩
            { nested with
              record :=
                nested.record.insert "s"
                  (.array [.int 1, .array [.int 2, .int 3]]) } ∧
        Expr.evaluate
          ⟨.record, [.key "m", .key "xs", .position (-1), .position 0]⟩ nested =
          .ok (.int 2)) ∧
      Expr.evaluate ⟨.record, [.key "m", .key "gone"]⟩ nested = .ok .null ∧
        Expr.evaluate ⟨.record, [.key "m", .key "gone", .position 7]⟩ nested =
          Expr.evaluate ⟨.record, [.key "s", .position 7]⟩
            { nested with record := nested.record.insert "s" .null } ∧
        Expr.evaluate ⟨.record, [.key "m", .key "gone", .position 7]⟩ nested =
          .error (.notIndexable "null" "7") := by
  have hfound : Expr.evaluate ⟨.record, [.key "m", .key "xs"]⟩ nested =
      .ok (.array [.int 1, .array [.int 2, .int 3]]) := rfl
  have hgone :
      Expr.evaluate ⟨.record, [.key "m", .key "gone"]⟩ nested = .ok .null := rfl
  refine ⟨⟨hfound, ?_, rfl⟩, hgone, ?_, rfl⟩
  · exact (evaluate_append_eq_staged hfound "s"
      [.position (-1), .position 0]).left
  · exact (evaluate_append_eq_staged hgone "s" [.position 7]).left

end Transformer
end Reshape
