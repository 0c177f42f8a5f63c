/-!
# Fields

Keys with values, in the order in which the keys were first written.  Writing to
a key that is present replaces its value in place; a new key goes to the end.
Every operation keeps the keys distinct.
-/

namespace Reshape

abbrev Fields (α : Type) := List (String × α)

namespace Fields

variable {α : Type}

def keys (fields : Fields α) : List String :=
  fields.map Prod.fst

def Distinct (fields : Fields α) : Prop :=
  fields.keys.Nodup

def get? : Fields α -> String -> Option α
  | [], _ => none
  | (k, v) :: rest, key => if k = key then some v else get? rest key

def insert : Fields α -> String -> α -> Fields α
  | [], key, value => [(key, value)]
  | (k, v) :: rest, key, value =>
      if k = key then (key, value) :: rest else (k, v) :: insert rest key value

def erase : Fields α -> String -> Fields α
  | [], _ => []
  | (k, v) :: rest, key => if k = key then rest else (k, v) :: erase rest key

/-- The fields that result from writing the pairs one after another. -/
def ofPairs (pairs : List (String × α)) : Fields α :=
  pairs.foldl (fun fields pair => fields.insert pair.1 pair.2) []

end Fields

end Reshape
