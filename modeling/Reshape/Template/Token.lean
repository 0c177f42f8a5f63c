import Reshape.Accessor
import Reshape.Number.Integer
import Reshape.Unicode.Blank

/-!
# Tokens of expressions

The content of a placeholder is cut into words, string literals, integers and
brackets, with blanks between them where the writer likes.
-/

namespace Reshape
namespace Template

open Unicode

inductive Token where
  | word (name : String)
  | string (content : String)
  | integer (n : Int64)
  | openBracket
  | closeBracket
  deriving DecidableEq

def Token.shown : Token -> String
  | .word name => "identifier '" ++ name ++ "'"
  | .string content => "string " ++ quoted content
  | .integer n => "integer " ++ String.ofList (Json.intChars n.toInt)
  | .openBracket => "'['"
  | .closeBracket => "']'"

/-- Why a text is cut into no tokens.  Offsets count bytes. -/
inductive TokenError where
  | unterminatedString (offset : Nat)
  | integerOutOfRange (literal : String)
  | unexpectedCharacter (c : Char) (offset : Nat)
  deriving DecidableEq

def decimal (n : Nat) : String :=
  String.ofList (Nat.toDigits 10 n)

def TokenError.message : TokenError -> String
  | .unterminatedString offset =>
      "unterminated string literal at byte " ++ decimal offset
  | .integerOutOfRange literal => "invalid integer literal '" ++ literal ++ "'"
  | .unexpectedCharacter c offset =>
      "unexpected character '" ++ String.ofList [c] ++ "' at byte " ++
        decimal offset

/-!
## Lexemes
-/

def byteLength : List Char -> Nat
  | [] => 0
  | c :: rest => c.utf8Size + byteLength rest

/-- The content of a literal up to its closing quote, and what follows.  A
backslash takes the next character as it is. -/
def literal? (quote : Char) : List Char -> Option (List Char × List Char)
  | [] => none
  | '\\' :: [] => none
  | '\\' :: c :: rest =>
      (literal? quote rest).map fun read => (c :: read.1, read.2)
  | c :: rest =>
      if c = quote then some ([], rest)
      else (literal? quote rest).map fun read => (c :: read.1, read.2)

def isWordStart (c : Char) : Bool :=
  c.isAlpha || c = '_'

def isWordPart (c : Char) : Bool :=
  c.isAlphanum || c = '_'

/-!
## What a lexeme leaves is shorter
-/

theorem length_literal? {quote : Char} {cs content rest : List Char}
    (h : literal? quote cs = some (content, rest)) :
    rest.length < cs.length := by
  fun_induction literal? quote cs generalizing content rest with
  | case1 => simp at h
  | case2 => simp at h
  | case3 c tail ih =>
      simp only [Option.map_eq_some_iff, Prod.mk.injEq] at h
      obtain ⟨read, hread, _, rfl⟩ := h
      have := ih hread
      simp only [List.length_cons]
      omega
  | case4 tail =>
      simp only [Option.some.injEq, Prod.mk.injEq] at h
      obtain ⟨_, rfl⟩ := h
      simp
  | case5 c tail _ _ _ ih =>
      simp only [Option.map_eq_some_iff, Prod.mk.injEq] at h
      obtain ⟨read, hread, _, rfl⟩ := h
      have := ih hread
      simp only [List.length_cons]
      omega

theorem length_dropWhile_le (p : Char -> Bool) (cs : List Char) :
    (cs.dropWhile p).length ≤ cs.length :=
  (List.dropWhile_sublist p).length_le

/-!
## Cutting a text into tokens
-/

def tokens (total : Nat) : List Char -> Except TokenError (List Token)
  | [] => .ok []
  | c :: rest =>
      if isBlank c then tokens total rest
      else if c = '[' then do return .openBracket :: (<- tokens total rest)
      else if c = ']' then do return .closeBracket :: (<- tokens total rest)
      else if c = '"' || c = '\x27' then
        match _h : literal? c rest with
        | none => .error (.unterminatedString (total - byteLength (c :: rest)))
        | some (content, rest') =>
            do return .string (String.ofList content) :: (<- tokens total rest')
      else if c = '-' || c.isDigit then
        let literal := c :: rest.takeWhile Char.isDigit
        match Integer.read? literal with
        | none => .error (.integerOutOfRange (String.ofList literal))
        | some n =>
            do return .integer n ::
              (<- tokens total (rest.dropWhile Char.isDigit))
      else if isWordStart c then do
        let name := c :: rest.takeWhile isWordPart
        return .word (String.ofList name) ::
          (<- tokens total (rest.dropWhile isWordPart))
      else .error (.unexpectedCharacter c (total - byteLength (c :: rest)))
termination_by cs => cs.length
decreasing_by
  · simp
  · simp
  · simp
  · have := length_literal? _h
    simp only [List.length_cons]
    omega
  · have := length_dropWhile_le Char.isDigit rest
    simp only [List.length_cons]
    omega
  · have := length_dropWhile_le isWordPart rest
    simp only [List.length_cons]
    omega

def tokenize (source : String) : Except TokenError (List Token) :=
  tokens (byteLength source.toList) source.toList

end Template
end Reshape
