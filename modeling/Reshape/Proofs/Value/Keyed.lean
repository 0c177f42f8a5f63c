import Reshape.Proofs.Fields
import Reshape.Proofs.Value.Shape

/-!
# Distinct keys

No operation on fields writes a key twice, so in every map of a value, however
deep, the keys are distinct.
-/

namespace Reshape

namespace Value

inductive Keyed : Value -> Prop
  | null : Keyed .null
  | bool (b : Bool) : Keyed (.bool b)
  | int (n : Int64) : Keyed (.int n)
  | uint (n : UInt64) : Keyed (.uint n)
  | float (x : Binary64) : Keyed (.float x)
  | text (t : Text) : Keyed (.text t)
  | array {items : List Value}
      (each : forall item, item ∈ items -> Keyed item) : Keyed (.array items)
  | map {entries : Record} (distinct : Fields.Distinct entries)
      (each : forall entry, entry ∈ entries -> Keyed entry.2) :
      Keyed (.map entries)

attribute [simp] Keyed.null Keyed.bool Keyed.int Keyed.uint Keyed.float
  Keyed.text

@[simp] theorem keyed_array_iff {items : List Value} :
    Keyed (.array items) <-> forall item, item ∈ items -> Keyed item := by
  constructor
  · intro h
    cases h with
    | array each => exact each
  · exact .array

@[simp] theorem keyed_map_iff {entries : Record} :
    Keyed (.map entries) <->
      Fields.Distinct entries ∧
        forall entry, entry ∈ entries -> Keyed entry.2 := by
  constructor
  · intro h
    cases h with
    | map distinct each => exact ⟨distinct, each⟩
  · intro h
    exact .map h.left h.right

theorem keyed_insert {record : Record} (h : Keyed (.map record)) (key : String)
    {v : Value} (hvalue : Keyed v) : Keyed (.map (record.insert key v)) := by
  rcases keyed_map_iff.mp h with ⟨hdistinct, heach⟩
  refine .map (Fields.distinct_insert hdistinct key v) ?_
  intro entry hentry
  rcases Fields.mem_of_mem_insert hentry with rfl | hold
  · exact hvalue
  · exact heach entry hold

end Value
end Reshape
