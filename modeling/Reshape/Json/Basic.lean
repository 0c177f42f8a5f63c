import Reshape.Fields
import Reshape.Number.Binary64

/-!
# JSON values

Integers that fit a signed or an unsigned 64-bit word are kept exactly; every
other number is a finite binary64 number.  The members of an object are kept as
they are written, repeated keys included, until `merge` gives each key its last
value in its first place.
-/

namespace Reshape

namespace Json

inductive Number where
  | integer (n : Int)
      (inRange : -0x8000000000000000 ≤ n ∧ n < 0x10000000000000000)
  | float (x : Binary64) (finite : x.isFinite = true)
  deriving DecidableEq

end Json

inductive Json where
  | null
  | bool (b : Bool)
  | number (n : Json.Number)
  | string (s : String)
  | array (items : List Json)
  | object (members : List (String × Json))

namespace Json

def ofInt64 (n : Int64) : Json :=
  .number
    (.integer n.toInt
      ⟨by have := Int64.le_toInt n; omega, by have := Int64.toInt_lt n; omega⟩)

def ofUInt64 (n : UInt64) : Json :=
  .number (.integer n.toNat ⟨by omega, by have := n.toNat_lt; omega⟩)

/-!
## Repeated keys
-/

mutual

def merge : Json -> Json
  | .null => .null
  | .bool b => .bool b
  | .number n => .number n
  | .string s => .string s
  | .array items => .array (mergeItems items)
  | .object members => .object (Fields.ofPairs (mergeMembers members))

def mergeItems : List Json -> List Json
  | [] => []
  | item :: rest => item.merge :: mergeItems rest

def mergeMembers : List (String × Json) -> List (String × Json)
  | [] => []
  | (key, value) :: rest => (key, value.merge) :: mergeMembers rest

end

end Json

end Reshape
