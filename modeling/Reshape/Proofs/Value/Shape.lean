import Reshape.Value.Basic

/-!
# The shape of a value

Two values have one shape when they differ in their texts at most: the same
kinds at the same places, the same keys in the same order, and the same numbers.
A relation says how the texts may differ.
-/

namespace Reshape
namespace Value

theorem induction_on_parts {P : Value -> Prop} (null : P .null)
    (bool : forall b, P (.bool b)) (int : forall n, P (.int n))
    (uint : forall n, P (.uint n)) (float : forall x, P (.float x))
    (text : forall t, P (.text t))
    (array :
      forall items, (forall item, item ∈ items -> P item) -> P (.array items))
    (map :
      forall entries : Record, (forall entry, entry ∈ entries -> P entry.2) ->
        P (.map entries))
    (value : Value) : P value :=
  Value.rec null bool int uint float text array map
    (fun _ h => absurd h List.not_mem_nil)
    (fun item rest hitem hrest v hv => by
      rcases List.mem_cons.mp hv with rfl | hv
      · exact hitem
      · exact hrest v hv)
    (fun _ h => absurd h List.not_mem_nil)
    (fun entry rest hentry hrest e he => by
      rcases List.mem_cons.mp he with rfl | he
      · exact hentry
      · exact hrest e he)
    (fun _ _ hvalue => hvalue) value

/-- Alike but for the texts, which are related place by place. -/
inductive Alike (Related : Text -> Text -> Prop) : Value -> Value -> Prop
  | null : Alike Related .null .null
  | bool (b : Bool) : Alike Related (.bool b) (.bool b)
  | int (n : Int64) : Alike Related (.int n) (.int n)
  | uint (n : UInt64) : Alike Related (.uint n) (.uint n)
  | float (x : Binary64) : Alike Related (.float x) (.float x)
  | text {s t : Text} (related : Related s t) :
      Alike Related (.text s) (.text t)
  | array {items others : List Value} (length : items.length = others.length)
      (each : forall i (h : i < items.length) (h' : i < others.length),
        Alike Related items[i] others[i]) :
      Alike Related (.array items) (.array others)
  | map {entries others : Record}
      (keys : Fields.keys entries = Fields.keys others)
      (each :
        forall i (h : i < entries.length)
          (h' : i < others.length), Alike Related entries[i].2 others[i].2) :
      Alike Related (.map entries) (.map others)

end Value
end Reshape
