import Reshape.Json.Printer
import Reshape.Value.Basic

/-!
# Values and JSON

Every JSON value is a value.  On the way back texts are decoded as they are
shown, and numbers that JSON cannot hold become null.
-/

namespace Reshape
namespace Value

def ofInteger (n : Int) : Value :=
  if n < 0x8000000000000000 then .int (Int64.ofInt n)
  else .uint (UInt64.ofNat n.toNat)

def ofNumber : Json.Number -> Value
  | .integer n _ => ofInteger n
  | .float x _ => .float x

mutual

def ofJson : Json -> Value
  | .null => .null
  | .bool b => .bool b
  | .number n => ofNumber n
  | .string s => .ofString s
  | .array items => .array (ofJsonItems items)
  | .object members => .map (ofJsonMembers members)

def ofJsonItems : List Json -> List Value
  | [] => []
  | item :: rest => ofJson item :: ofJsonItems rest

def ofJsonMembers : List (String × Json) -> Record
  | [] => []
  | (key, member) :: rest => (key, ofJson member) :: ofJsonMembers rest

end

def floatToJson (x : Binary64) : Json :=
  if finite : x.isFinite = true then .number (.float x finite) else .null

mutual

def toJson : Value -> Json
  | .null => .null
  | .bool b => .bool b
  | .int n => .ofInt64 n
  | .uint n => .ofUInt64 n
  | .float x => floatToJson x
  | .text t => .string t.shown
  | .array items => .array (itemsToJson items)
  | .map entries => .object (entriesToJson entries)

def itemsToJson : List Value -> List Json
  | [] => []
  | item :: rest => toJson item :: itemsToJson rest

def entriesToJson : Record -> List (String × Json)
  | [] => []
  | (key, value) :: rest => (key, toJson value) :: entriesToJson rest

end

/-!
## Running text

How a value reads inside a template.  Nothing stands for null, and arrays and
maps are written as JSON.
-/

def shown : Value -> String
  | .null => ""
  | .bool true => "true"
  | .bool false => "false"
  | .int n => String.ofList (Json.intChars n.toInt)
  | .uint n => String.ofList (Nat.toDigits 10 n.toNat)
  | .float x => String.ofList x.textChars
  | .text t => t.shown
  | .array items => (toJson (.array items)).render
  | .map entries => (toJson (.map entries)).render

end Value
end Reshape
