import Reshape.Json.Printer
import Reshape.Value.Basic

/-!
# Accessors

One step into a value: a key of a map or a position in an array.  Negative
positions count from the end.
-/

namespace Reshape

open Unicode

inductive Accessor where
  | key (name : String)
  | position (n : Int64)
  deriving DecidableEq

namespace Accessor

def shown : Accessor -> String
  | .key name => quoted name
  | .position n => String.ofList (Json.intChars n.toInt)

/-- The offset of a position in a sequence, if it lies inside. -/
def offset? (position : Int64) (length : Nat) : Option Nat :=
  let n := position.toInt
  let place := if n < 0 then length + n else n
  if 0 ≤ place ∧ place < length then some place.toNat else none

end Accessor

/-!
## The child of a value
-/

namespace Value

/-- The child at an accessor; `none` where the accessor does not fit the value
or nothing is there. -/
def child? : Value -> Accessor -> Option Value
  | .map entries, .key name => Fields.get? entries name
  | .array items, .position n =>
      (Accessor.offset? n items.length).bind fun i => items[i]?
  | _, _ => none

/-- Whether the kind of accessor fits the kind of value. -/
def accepts : Value -> Accessor -> Bool
  | .map _, .key _ => true
  | .array _, .position _ => true
  | _, _ => false

end Value

end Reshape
