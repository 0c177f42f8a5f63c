import Reshape.Json.Basic
import Reshape.Number.Notation

/-!
# Writing JSON

The compact form: no blanks, and in strings only what JSON requires is escaped.
-/

namespace Reshape
namespace Json

/-- The character that follows the backslash in a short escape. -/
def shortEscape? (c : Char) : Option Char :=
  if c = '"' then some '"'
  else if c = '\\' then some '\\'
  else if c = '\x08' then some 'b'
  else if c = '\x0C' then some 'f'
  else if c = '\n' then some 'n'
  else if c = '\r' then some 'r'
  else if c = '\t' then some 't'
  else none

def escapeChar (c : Char) : List Char :=
  match shortEscape? c with
  | some e => ['\\', e]
  | none =>
      if c.toNat < 0x20 then
        ['\\', 'u', '0', '0', Nat.digitChar (c.toNat / 16),
          Nat.digitChar (c.toNat % 16)]
      else [c]

def renderString (s : String) : List Char :=
  '"' :: s.toList.flatMap escapeChar ++ ['"']

def intChars (n : Int) : List Char :=
  if n < 0 then '-' :: Nat.toDigits 10 n.natAbs else Nat.toDigits 10 n.natAbs

def Number.render : Number -> List Char
  | .integer n _ => intChars n
  | .float x _ => x.jsonChars

mutual

def renderChars : Json -> List Char
  | .null => ['n', 'u', 'l', 'l']
  | .bool true => ['t', 'r', 'u', 'e']
  | .bool false => ['f', 'a', 'l', 's', 'e']
  | .number n => n.render
  | .string s => renderString s
  | .array [] => ['[', ']']
  | .array (item :: rest) => '[' :: renderChars item ++ renderItems rest
  | .object [] => ['\x7b', '\x7d']
  | .object ((key, value) :: rest) =>
      '\x7b' :: renderString key ++ ':' :: renderChars value ++
        renderMembers rest

def renderItems : List Json -> List Char
  | [] => [']']
  | item :: rest => ',' :: renderChars item ++ renderItems rest

def renderMembers : List (String × Json) -> List Char
  | [] => ['\x7d']
  | (key, value) :: rest =>
      ',' :: renderString key ++ ':' :: renderChars value ++ renderMembers rest

end

def render (json : Json) : String :=
  String.ofList json.renderChars

end Json
end Reshape
