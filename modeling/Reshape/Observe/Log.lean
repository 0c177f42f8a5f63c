import Reshape.Template.Token
import Reshape.Unicode.Quoted

/-!
# Log lines

A line has a level, a message, and named fields with their texts.
-/

namespace Reshape

inductive Level where
  | debug
  | info
  | warn
  | error
  deriving DecidableEq

def Level.name : Level -> String
  | .debug => "DEBUG"
  | .info => "INFO"
  | .warn => "WARN"
  | .error => "ERROR"

structure LogLine where
  level : Level
  message : String
  fields : List (String × String)
  deriving DecidableEq

namespace LogLine

def natText (n : Nat) : String :=
  Template.decimal n

def optionText : Option Nat -> String
  | none => "None"
  | some n => "Some(" ++ natText n ++ ")"

end LogLine

end Reshape
