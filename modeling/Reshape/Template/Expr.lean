import Reshape.Template.Token

/-!
# Expressions

A placeholder names a variable or gives a literal.  The record takes any chain
of accessors after it, the parts of the tag take at most one position, and
nothing else takes an accessor.
-/

namespace Reshape
namespace Template

inductive Root where
  | tag
  | time
  | record
  | tagParts
  | hostname
  | environment (name : String)
  | string (s : String)
  | integer (n : Int64)
  deriving DecidableEq

structure Expr where
  root : Root
  path : List Accessor
  deriving DecidableEq

namespace Expr

def usesTagParts (e : Expr) : Bool :=
  e.root = .tagParts

end Expr

/-- Why the content of a placeholder is no expression. -/
inductive ExprError where
  | token (cause : TokenError)
  | empty
  | unknownVariable (name : String)
  | unexpected (found : Token)
  | environmentName
  | accessorContent (found : Token)
  | unclosedAccessor
  | accessorEnd (found : Token)
  | trailing (found : Token)
  | tagPartsPath
  | noPath
  deriving DecidableEq

def ExprError.message : ExprError -> String
  | .token cause => cause.message
  | .empty => "empty placeholder"
  | .unknownVariable name => "unknown variable '" ++ name ++ "'"
  | .unexpected found => "unexpected " ++ found.shown
  | .environmentName => "ENV must be indexed by a string"
  | .accessorContent found => "unexpected " ++ found.shown ++ " inside '[...]'"
  | .unclosedAccessor => "unclosed '['"
  | .accessorEnd found => "expected ']' but found " ++ found.shown
  | .trailing found => "unexpected " ++ found.shown ++ " after expression"
  | .tagPartsPath => "tag_parts takes a single integer index"
  | .noPath => "only record and tag_parts can be indexed"

/-!
## Accessors
-/

/-- The accessor that a token stands for between brackets. -/
def Token.accessor? : Token -> Option Accessor
  | .string content => some (.key content)
  | .integer n => some (.position n)
  | _ => none

/-- The accessor at the front and the tokens after it; `none` at the end of the
tokens. -/
def readAccessor :
    List Token -> Except ExprError (Option (Accessor × List Token))
  | [] => .ok none
  | .openBracket :: rest =>
      match rest with
      | [] => .error .unclosedAccessor
      | inner :: rest =>
          match inner.accessor? with
          | none => .error (.accessorContent inner)
          | some accessor =>
              match rest with
              | [] => .error .unclosedAccessor
              | .closeBracket :: rest => .ok (some (accessor, rest))
              | found :: _ => .error (.accessorEnd found)
  | found :: _ => .error (.trailing found)

theorem length_readAccessor {ts rest : List Token} {a : Accessor}
    (h : readAccessor ts = .ok (some (a, rest))) : rest.length < ts.length := by
  unfold readAccessor at h
  split at h
  · simp at h
  · split at h
    · simp at h
    · split at h
      · simp at h
      · split at h
        · simp at h
        · simp only [Except.ok.injEq, Option.some.injEq, Prod.mk.injEq] at h
          obtain ⟨_, rfl⟩ := h
          simp only [List.length_cons]
          omega
        · simp at h
  · simp at h

/-- All tokens as a chain of accessors. -/
def readPath (ts : List Token) : Except ExprError (List Accessor) :=
  match _h : readAccessor ts with
  | .error e => .error e
  | .ok none => .ok []
  | .ok (some (accessor, rest)) => do return accessor :: (<- readPath rest)
termination_by ts.length
decreasing_by exact length_readAccessor _h

/-!
## Whole expressions
-/

/-- The root at the front of the tokens, and the tokens after it. -/
def readRoot : List Token -> Except ExprError (Root × List Token)
  | [] => .error .empty
  | .word name :: rest =>
      match name with
      | "tag" => .ok (.tag, rest)
      | "time" => .ok (.time, rest)
      | "record" => .ok (.record, rest)
      | "tag_parts" => .ok (.tagParts, rest)
      | "hostname" => .ok (.hostname, rest)
      | "ENV" =>
          match readAccessor rest with
          | .error e => .error e
          | .ok (some (.key name, rest)) => .ok (.environment name, rest)
          | .ok _ => .error .environmentName
      | _ => .error (.unknownVariable name)
  | .string content :: rest => .ok (.string content, rest)
  | .integer n :: rest => .ok (.integer n, rest)
  | found :: _ => .error (.unexpected found)

/-- Whether the path is one that the root takes. -/
def checkPath : Root -> List Accessor -> Except ExprError Unit
  | .record, _ => .ok ()
  | _, [] => .ok ()
  | .tagParts, [.position _] => .ok ()
  | .tagParts, _ => .error .tagPartsPath
  | _, _ => .error .noPath

def Expr.ofTokens (ts : List Token) : Except ExprError Expr := do
  let (root, rest) <- readRoot ts
  let path <- readPath rest
  checkPath root path
  return ⟨root, path⟩

def Expr.parse (source : String) : Except ExprError Expr :=
  match tokenize source with
  | .error e => .error (.token e)
  | .ok ts => Expr.ofTokens ts

end Template
end Reshape
