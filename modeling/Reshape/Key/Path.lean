import Reshape.Accessor
import Reshape.Number.Integer
import Reshape.Unicode.Blank

/-!
# Key paths

The address of a field.  A bare key names a field of the record itself.  After a
dollar sign come accessors: `.name`, a quoted key in brackets, or a position in
brackets.
-/

namespace Reshape

open Unicode

structure KeyPath where
  /-- The path as it was written, without blanks around it. -/
  raw : String
  accessors : List Accessor
  deriving DecidableEq

namespace KeyPath

/-- Why the accessors after a dollar sign are none. -/
inductive AccessorError where
  | emptyKey
  | unclosedBracket
  | unexpectedInput (rest : String)
  | unterminatedQuote (content : String)
  | bracketContent (content : String)
  | wholeRecord
  | leadingPosition
  deriving DecidableEq

def AccessorError.message : AccessorError -> String
  | .emptyKey => "empty key after '.'"
  | .unclosedBracket => "unclosed '['"
  | .unexpectedInput rest => "unexpected input " ++ quoted rest
  | .unterminatedQuote content => "unterminated quote in [" ++ content ++ "]"
  | .bracketContent content =>
      "expected quoted key or integer in [" ++ content ++ "]"
  | .wholeRecord => "path addresses the whole record"
  | .leadingPosition => "path must start with a key"

inductive Error where
  | empty
  | accessor (raw : String) (cause : AccessorError)
  deriving DecidableEq

def Error.message : Error -> String
  | .empty => "key path must not be empty"
  | .accessor raw cause =>
      "invalid key path " ++ quoted raw ++ ": " ++ cause.message

/-!
## Reading
-/

def isQuote (c : Char) : Bool :=
  c = '"' || c = '\x27'

/-- The text before a closing quote at the very end. -/
def unquote? (quote : Char) (cs : List Char) : Option (List Char) :=
  match cs.reverse with
  | [] => none
  | c :: before => if c = quote then some before.reverse else none

def bracket (inner : List Char) : Except AccessorError Accessor :=
  let integer :=
    match Integer.read? inner with
    | some n => .ok (.position n)
    | none => .error (.bracketContent (String.ofList inner))
  match inner with
  | [] => integer
  | c :: rest =>
      if isQuote c then
        match unquote? c rest with
        | some name => .ok (.key (String.ofList name))
        | none => .error (.unterminatedQuote (String.ofList inner))
      else integer

def isNamePart (c : Char) : Bool :=
  c ≠ '.' && c ≠ '['

/-- The accessors of a text that holds nothing else. -/
def readAccessors : List Char -> Except AccessorError (List Accessor)
  | [] => .ok []
  | c :: rest =>
      if c = '.' then
        let name := rest.takeWhile isNamePart
        if name.isEmpty then .error .emptyKey
        else
          do return .key (String.ofList name) ::
            (<- readAccessors (rest.dropWhile isNamePart))
      else if c = '[' then
        match _h : rest.dropWhile (· ≠ ']') with
        | [] => .error .unclosedBracket
        | _ :: after => do
            let accessor <- bracket (trim (rest.takeWhile (· ≠ ']')))
            return accessor :: (<- readAccessors after)
      else .error (.unexpectedInput (String.ofList (c :: rest)))
termination_by cs => cs.length
decreasing_by
  · have := (List.dropWhile_sublist isNamePart (l := rest)).length_le
    simp only [List.length_cons]
    omega
  · have :=
      (List.dropWhile_sublist (fun c => decide (c ≠ ']')) (l := rest)).length_le
    simp only [_h, List.length_cons] at this ⊢
    omega

/-- The accessors after a dollar sign: at least one, and a key first. -/
def readPath (cs : List Char) : Except AccessorError (List Accessor) :=
  match readAccessors cs with
  | .error e => .error e
  | .ok [] => .error .wholeRecord
  | .ok (.position _ :: _) => .error .leadingPosition
  | .ok accessors => .ok accessors

def parse (source : String) : Except Error KeyPath :=
  let raw := trimmed source
  match raw.toList with
  | [] => .error .empty
  | '$' :: rest =>
      match readPath rest with
      | .ok accessors => .ok ⟨raw, accessors⟩
      | .error e => .error (.accessor raw e)
  | _ => .ok ⟨raw, [.key raw]⟩

end KeyPath

/-!
## Removing the addressed field
-/

namespace Value

/-- The child at an accessor and the value without it. -/
def takeChild? (v : Value) (a : Accessor) : Option (Value × Value) :=
  match v, a with
  | .map entries, .key name =>
      (Fields.get? entries name).map
        fun child => (child, .map (Fields.erase entries name))
  | .array items, .position n => do
      let i <- Accessor.offset? n items.length
      let child <- items[i]?
      return (child, .array (items.eraseIdx i))
  | _, _ => none

/-- The value with another child at an accessor that fits. -/
def setChild (v : Value) (a : Accessor) (child : Value) : Value :=
  match v, a with
  | .map entries, .key name => .map (Fields.insert entries name child)
  | .array items, .position n =>
      match Accessor.offset? n items.length with
      | some i => .array (items.set i child)
      | none => v
  | _, _ => v

/-- What a path addresses and the value without it; `none` if nothing is
there. -/
def take? : List Accessor -> Value -> Option (Value × Value)
  | [], _ => none
  | [a], v => v.takeChild? a
  | a :: path, v => do
      let child <- v.child? a
      let (taken, child) <- take? path child
      return (taken, v.setChild a child)

end Value

/-- The field that the path addresses, if it is present, and the record without
it. -/
def KeyPath.removeFrom (path : KeyPath) (record : Record) :
    Option Value × Record :=
  match Value.take? path.accessors (.map record) with
  | some (taken, .map rest) => (some taken, rest)
  | _ => (none, record)

end Reshape
