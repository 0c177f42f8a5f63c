import Reshape.Host
import Reshape.Template.Plan
import Reshape.Value.Json

/-!
# Evaluating expressions

An expression is evaluated for one event.  A missing key or position gives null;
only an accessor that does not fit the value before it fails.
-/

namespace Reshape
namespace Template

inductive EvalError where
  | indexOutOfRange (target : String) (index : Int) (length : Nat)
  | missingBinding (name : String)
  | notIndexable (target : String) (index : String)
  deriving DecidableEq

def EvalError.message : EvalError -> String
  | .indexOutOfRange target index length =>
      "index " ++ String.ofList (Json.intChars index) ++ " out of range for " ++
        target ++
        " of length " ++ decimal length
  | .missingBinding name => "variable '" ++ name ++ "' is not bound"
  | .notIndexable target index => "cannot index " ++ target ++ " with " ++ index

/-- What the variables stand for. -/
structure Context where
  host : Host
  tag : String
  time : Int64
  /-- The record as it stands so far. -/
  record : Record
  /-- The parts of the tag, if they are bound. -/
  tagParts : Option (List String)

/-!
## Following a path
-/

/-- What an accessor finds in a value that takes it: nothing where a key is
missing or a position lies outside. -/
def index (v : Value) (a : Accessor) : Except EvalError (Option Value) :=
  if v.accepts a then .ok (v.child? a)
  else .error (.notIndexable v.typeName a.shown)

/-- The rest of a path, from what was found so far.  Where nothing was found, no
accessor fits. -/
def walk : Option Value -> List Accessor -> Except EvalError (Option Value)
  | found, [] => .ok found
  | none, a :: _ => .error (.notIndexable "null" a.shown)
  | some v, a :: path =>
      match index v a with
      | .error e => .error e
      | .ok found => walk found path

/-- A path into a record.  Messages call the record by its own name and not a
map. -/
def lookup (record : Record) : List Accessor -> Except EvalError Value
  | [] => .ok (.map record)
  | .position n :: _ =>
      .error (.notIndexable "record" (Accessor.position n).shown)
  | .key name :: path => (walk (record.get? name) path).map (·.getD .null)

/-- The parts of the tag, or the one at a position. -/
def lookupPart (parts : List String) : List Accessor -> Except EvalError Value
  | [] => .ok (.array (parts.map Value.ofString))
  | .position n :: _ =>
      match (Accessor.offset? n parts.length).bind fun i => parts[i]? with
      | some part => .ok (.ofString part)
      | none => .error (.indexOutOfRange "tag_parts" n.toInt parts.length)
  | .key name :: _ =>
      .error (.notIndexable "tag_parts" (Accessor.key name).shown)

/-!
## Expressions and plans
-/

def Expr.evaluate (e : Expr) (ctx : Context) : Except EvalError Value :=
  match e.root with
  | .tag => .ok (.ofString ctx.tag)
  | .time => .ok (.int ctx.time)
  | .hostname => .ok (.ofString ctx.host.hostname)
  | .environment name =>
      .ok (match ctx.host.environmentValue? name with
        | some value => .ofString value
        | none => .null)
  | .string s => .ok (.ofString s)
  | .integer n => .ok (.int n)
  | .tagParts =>
      match ctx.tagParts with
      | none => .error (.missingBinding "tag_parts")
      | some parts => lookupPart parts e.path
  | .record => lookup ctx.record e.path

/-- A value as a part of a text: texts keep their bytes and their charset. -/
def part : Value -> Text
  | .text t => t
  | v => Text.ofString v.shown

def Segment.evaluate (ctx : Context) : Segment -> Except EvalError Text
  | .literal s => .ok (Text.ofString s)
  | .expr e => do return part (<- e.evaluate ctx)

def Plan.evaluate (plan : Plan) (ctx : Context) : Except EvalError Value :=
  match plan with
  | .literal s => .ok (.ofString s)
  | .raw e => e.evaluate ctx
  | .template segments =>
      do return .text (Text.join (<- segments.mapM (·.evaluate ctx)))

end Template
end Reshape
