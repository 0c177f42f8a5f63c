import Reshape.Json.Printer
import Reshape.Json.Reader
import Reshape.Key.List
import Reshape.Key.Policy

/-!
# Configurations

What a transformer is to do, as a user writes it.  A configuration is read from
a JSON object, or from an array of its options in order; every option may be
left out.
-/

namespace Reshape

/-- What becomes of an event when one of its fields fails. -/
inductive ErrorPolicy where
  | omit
  | null
  | fail
  deriving DecidableEq

structure Config where
  /-- The fields to write and their templates, in order. -/
  record : Fields String
  removeKeys : Option KeyList
  whitelistKeys : Option KeyList
  whitelistOrder : WhitelistOrder
  charEncoding : Option String
  errorPolicy : ErrorPolicy
  /-- The key under which the tag is written first of all. -/
  tagKey : Option String
  /-- The key under which the time is written next. -/
  timeKey : Option String
  timeFormat : Option String
  timeAsEpoch : Bool
  localTime : Bool
  deriving DecidableEq

namespace Config

def default : Config :=
  { record := []
    removeKeys := none
    whitelistKeys := none
    whitelistOrder := .declaration
    charEncoding := none
    errorPolicy := .omit
    tagKey := none
    timeKey := none
    timeFormat := none
    timeAsEpoch := false
    localTime := false }

def withField (config : Config) (key template : String) : Config :=
  { config with record := config.record.insert key template }

/-!
## Writing
-/

def orderName : WhitelistOrder -> String
  | .declaration => "declaration"
  | .input => "input"

def policyName : ErrorPolicy -> String
  | .omit => "omit"
  | .null => "null"
  | .fail => "fail"

def textJson : Option String -> Json
  | none => .null
  | some s => .string s

def listJson : Option KeyList -> Json
  | none => .null
  | some (.csv list) => .string list
  | some (.items entries) => .array (entries.map .string)

def fieldsJson (fields : Fields String) : Json :=
  .object (fields.map fun field => (field.1, .string field.2))

def members (config : Config) : List (String × Json) :=
  [("record", fieldsJson config.record),
   ("remove_keys", listJson config.removeKeys),
   ("whitelist_keys", listJson config.whitelistKeys),
   ("whitelist_order", .string (orderName config.whitelistOrder)),
   ("char_encoding", textJson config.charEncoding),
   ("error_policy", .string (policyName config.errorPolicy)),
   ("tag_key", textJson config.tagKey),
   ("time_key", textJson config.timeKey),
   ("time_format", textJson config.timeFormat),
   ("time_as_epoch", .bool config.timeAsEpoch),
   ("localtime", .bool config.localTime)]

def toJson (config : Config) : Json :=
  .object config.members

/-!
## Reading the values of options
-/

def text? : Json -> Option String
  | .string s => some s
  | _ => none

def flag? : Json -> Option Bool
  | .bool b => some b
  | _ => none

def optional? {α : Type} (read? : Json -> Option α) : Json -> Option (Option α)
  | .null => some none
  | json => (read? json).map some

/-- A name stands alone or is the only key of an object, with null as its
value. -/
def name? : Json -> Option String
  | .string s => some s
  | .object [(s, .null)] => some s
  | _ => none

def order? (json : Json) : Option WhitelistOrder := do
  match <- name? json with
  | "declaration" => some .declaration
  | "input" => some .input
  | _ => none

def policy? (json : Json) : Option ErrorPolicy := do
  match <- name? json with
  | "omit" => some .omit
  | "null" => some .null
  | "fail" => some .fail
  | _ => none

def keyList? : Json -> Option KeyList
  | .string list => some (.csv list)
  | .array items => do return .items (<- items.mapM text?)
  | _ => none

/-- Fields by key; a repeated key keeps its first place and takes its last
value. -/
def fields? : Json -> Option (Fields String)
  | .object members => do
      let pairs <- members.mapM
          fun member => do return (member.1, <- text? member.2)
      return Fields.ofPairs pairs
  | _ => none

/-!
## Reading configurations
-/

def set? (config : Config) (option : String) (json : Json) : Option Config :=
  match option with
  | "record" => do return { config with record := <- fields? json }
  | "remove_keys" =>
      do return { config with removeKeys := <- optional? keyList? json }
  | "whitelist_keys" =>
      do return { config with whitelistKeys := <- optional? keyList? json }
  | "whitelist_order" =>
      do return { config with whitelistOrder := <- order? json }
  | "char_encoding" =>
      do return { config with charEncoding := <- optional? text? json }
  | "error_policy" => do return { config with errorPolicy := <- policy? json }
  | "tag_key" => do return { config with tagKey := <- optional? text? json }
  | "time_key" => do return { config with timeKey := <- optional? text? json }
  | "time_format" =>
      do return { config with timeFormat := <- optional? text? json }
  | "time_as_epoch" => do return { config with timeAsEpoch := <- flag? json }
  | "localtime" => do return { config with localTime := <- flag? json }
  | _ => none

def optionNames : List String :=
  ["record", "remove_keys", "whitelist_keys", "whitelist_order",
    "char_encoding", "error_policy", "tag_key", "time_key", "time_format",
    "time_as_epoch", "localtime"]

def ofMembers? (members : List (String × Json)) : Option Config :=
  members.foldlM (fun config member => config.set? member.1 member.2) default

/-- An object may give no option twice; an array gives the first options in
order. -/
def ofJson? : Json -> Option Config
  | .object members =>
      if (members.map Prod.fst).Nodup then ofMembers? members else none
  | .array items =>
      if items.length ≤ optionNames.length then
        ofMembers? (optionNames.zip items)
      else none
  | _ => none

def parse? (source : String) : Option Config :=
  (Json.readChars? source.toList).bind ofJson?

end Config

end Reshape
