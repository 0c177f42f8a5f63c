import Reshape.Fields
import Reshape.Number.Binary64
import Reshape.Text

/-!
# Values

What a field of a record holds.  A record is the fields of one event.
-/

namespace Reshape

/-- An integer that a signed word holds is an `int`; `uint` is for those
above. -/
inductive Value where
  | null
  | bool (b : Bool)
  | int (n : Int64)
  | uint (n : UInt64)
  | float (x : Binary64)
  | text (t : Text)
  | array (items : List Value)
  | map (entries : List (String × Value))

abbrev Record := Fields Value

namespace Value

def ofString (s : String) : Value :=
  .text (Text.ofString s)

def typeName : Value -> String
  | .null => "null"
  | .bool _ => "bool"
  | .int _ => "integer"
  | .uint _ => "integer"
  | .float _ => "float"
  | .text _ => "string"
  | .array _ => "array"
  | .map _ => "map"

/-!
## Equality

Two maps are the same whatever the order of their keys, and numbers are compared
as numbers, so a value that holds something that is not a number is not the same
as itself.
-/

mutual

def same : Value -> Value -> Bool
  | .null, .null => true
  | .bool a, .bool b => a == b
  | .int m, .int n => m == n
  | .uint m, .uint n => m == n
  | .float x, .float y => x.sameNumber y
  | .text s, .text t => s == t
  | .array xs, .array ys => sameItems xs ys
  | .map xs, .map ys => xs.length == ys.length && sameEntries xs ys
  | _, _ => false

def sameItems : List Value -> List Value -> Bool
  | [], [] => true
  | x :: xs, y :: ys => same x y && sameItems xs ys
  | _, _ => false

def sameEntries : List (String × Value) -> Record -> Bool
  | [], _ => true
  | (key, x) :: rest, others =>
      (match others.get? key with
        | some y => same x y
        | none => false) && sameEntries rest others

end

end Value

end Reshape
