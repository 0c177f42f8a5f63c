import Reshape.Json.Numeral

/-!
# Reading JSON

The strict grammar, with at most 127 arrays and objects around any value.  Each
reader takes what it can from the front of the text and returns the rest.
-/

namespace Reshape
namespace Json

def isSpace (c : Char) : Bool :=
  c = ' ' || c = '\t' || c = '\n' || c = '\r'

def skipSpace (cs : List Char) : List Char :=
  cs.dropWhile isSpace

/-!
## Strings
-/

def hexDigit? (c : Char) : Option Nat :=
  if c.isDigit then some (c.toNat - '0'.toNat)
  else if 'a' ≤ c ∧ c ≤ 'f' then some (c.toNat - 'a'.toNat + 10)
  else if 'A' ≤ c ∧ c ≤ 'F' then some (c.toNat - 'A'.toNat + 10)
  else none

def hexCode? (a b c d : Char) : Option Nat := do
  return (((<- hexDigit? a) * 16 + (<- hexDigit? b)) * 16 + (<- hexDigit? c)) *
    16 + (<- hexDigit? d)

/-- The character that a short escape stands for. -/
def unescape? (c : Char) : Option Char :=
  if c = '"' then some '"'
  else if c = '\\' then some '\\'
  else if c = '/' then some '/'
  else if c = 'b' then some '\x08'
  else if c = 'f' then some '\x0C'
  else if c = 'n' then some '\n'
  else if c = 'r' then some '\r'
  else if c = 't' then some '\t'
  else none

def isLeadSurrogate (code : Nat) : Bool :=
  0xD800 ≤ code && code ≤ 0xDBFF

def isTrailSurrogate (code : Nat) : Bool :=
  0xDC00 ≤ code && code ≤ 0xDFFF

/-- The character of an escape with the given code, when the text goes on with
`rest`.  A leading surrogate needs the escape of its partner, and the count
tells how much of `rest` that takes. -/
def escaped? (code : Nat) (rest : List Char) : Option (Char × Nat) :=
  if isTrailSurrogate code then none
  else if isLeadSurrogate code then
    match rest with
    | '\\' :: 'u' :: a :: b :: c :: d :: _ =>
        match hexCode? a b c d with
        | some trail =>
            if isTrailSurrogate trail then
              some (Char.ofNat
                  (0x10000 + (code - 0xD800) * 0x400 + (trail - 0xDC00)),
                6)
            else none
        | none => none
    | _ => none
  else some (Char.ofNat code, 0)

/-- The characters up to the closing quote. -/
def stringChars? : List Char -> Option (List Char × List Char)
  | [] => none
  | '"' :: rest => some ([], rest)
  | '\\' :: 'u' :: a :: b :: c :: d :: rest =>
      match hexCode? a b c d with
      | none => none
      | some code =>
          match escaped? code rest with
          | none => none
          | some (char, used) => do
              let (chars, rest) <- stringChars? (rest.drop used)
              return (char :: chars, rest)
  | '\\' :: e :: rest =>
      match unescape? e with
      | none => none
      | some char => do
          let (chars, rest) <- stringChars? rest
          return (char :: chars, rest)
  | c :: rest =>
      if c = '\\' || c.toNat < 0x20 then none
      else do
        let (chars, rest) <- stringChars? rest
        return (c :: chars, rest)
termination_by cs => cs.length
decreasing_by
  all_goals simp only [List.length_drop, List.length_cons]
  all_goals omega

def string? : List Char -> Option (String × List Char)
  | '"' :: rest =>
      (stringChars? rest).map fun read => (String.ofList read.1, read.2)
  | _ => none

/-!
## Values
-/

def literal? (word : List Char) (json : Json) (cs : List Char) :
    Option (Json × List Char) :=
  if word.isPrefixOf cs then some (json, cs.drop word.length) else none

/-- What `read?` takes, separated by commas, up to the closing character.
`fuel` bounds the number of items; the length of the text always suffices. -/
def sequence? {α : Type} (read? : List Char -> Option (α × List Char))
    (close : Char) : (fuel : Nat) -> List Char -> Option (List α × List Char)
  | 0, _ => none
  | fuel + 1, cs => do
      let (item, rest) <- read? cs
      match skipSpace rest with
      | c :: rest =>
          if c = ',' then do
            let (items, rest) <- sequence? read? close fuel rest
            return (item :: items, rest)
          else if c = close then some ([item], rest)
          else none
      | [] => none

def items? {α : Type} (read? : List Char -> Option (α × List Char))
    (close : Char) (cs : List Char) : Option (List α × List Char) :=
  match skipSpace cs with
  | [] => none
  | c :: rest =>
      if c = close then some ([], rest) else sequence? read? close cs.length cs

def member? (value? : List Char -> Option (Json × List Char)) (cs : List Char) :
    Option ((String × Json) × List Char) := do
  let (key, rest) <- string? (skipSpace cs)
  match skipSpace rest with
  | ':' :: rest => do
      let (value, rest) <- value? rest
      return ((key, value), rest)
  | _ => none

/-- The value at the front of a text, with at most `depth` arrays and objects
around any part of it. -/
def value? (depth : Nat) (cs : List Char) : Option (Json × List Char) :=
  match skipSpace cs with
  | [] => none
  | c :: rest =>
      if c = '"' then
        (string? (c :: rest)).map fun read => (.string read.1, read.2)
      else if c = '[' then
        match depth with
        | 0 => none
        | depth + 1 =>
            (items? (value? depth) ']' rest).map
              fun read => (.array read.1, read.2)
      else if c = '\x7b' then
        match depth with
        | 0 => none
        | depth + 1 =>
            (items? (member? (value? depth)) '\x7d' rest).map
              fun read => (.object read.1, read.2)
      else if c = 'n' then literal? ['n', 'u', 'l', 'l'] .null (c :: rest)
      else if c = 't' then
        literal? ['t', 'r', 'u', 'e'] (.bool true) (c :: rest)
      else if c = 'f' then
        literal? ['f', 'a', 'l', 's', 'e'] (.bool false) (c :: rest)
      else do
        let (numeral, rest) <- Numeral.read? (c :: rest)
        let n <- numeral.number?
        return (.number n, rest)

def maxDepth : Nat := 127

def readChars? (cs : List Char) : Option Json := do
  let (json, rest) <- value? maxDepth cs
  if (skipSpace rest).isEmpty then some json else none

def parseChars? (cs : List Char) : Option Json :=
  (readChars? cs).map merge

end Json
end Reshape
