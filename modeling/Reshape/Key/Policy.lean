import Reshape.Key.Path

/-!
# Key policies

Which fields of a record go on: all of them, all but the listed ones, or none
but the listed ones.
-/

namespace Reshape

/-- The order of the fields that a whitelist keeps. -/
inductive WhitelistOrder where
  | declaration
  | input
  deriving DecidableEq

inductive KeyPolicy where
  | keepAll
  | remove (paths : List KeyPath)
  | whitelist (keys : List String) (order : WhitelistOrder)
  deriving DecidableEq

namespace KeyPolicy

inductive Error where
  | bothLists
  | path (cause : KeyPath.Error)
  deriving DecidableEq

def Error.message : Error -> String
  | .bothLists => "remove_keys and whitelist_keys are mutually exclusive"
  | .path cause => cause.message

def readPath (source : String) : Except Error KeyPath :=
  match KeyPath.parse source with
  | .ok path => .ok path
  | .error e => .error (.path e)

/-- The policy of two optional lists, of which at most one may be given. -/
def ofLists (remove whitelist : Option (List String)) (order : WhitelistOrder) :
    Except Error KeyPolicy :=
  match remove, whitelist with
  | some _, some _ => .error .bothLists
  | some paths, none => do return .remove (<- paths.mapM readPath)
  | none, some keys => .ok (.whitelist keys order)
  | none, none => .ok .keepAll

/-!
## Reducing a record
-/

def pick : List String -> Record -> Record
  | [], _ => []
  | key :: keys, record =>
      match record.get? key with
      | some value => (key, value) :: pick keys (record.erase key)
      | none => pick keys record

def reduce : KeyPolicy -> Record -> Record
  | .keepAll, record => record
  | .remove paths, record =>
      paths.foldl (fun record path => (path.removeFrom record).2) record
  | .whitelist keys .declaration, record => pick keys record
  | .whitelist keys .input, record =>
      record.filter fun field => keys.contains field.1

end KeyPolicy

end Reshape
