import Reshape.Template.Token
import Reshape.Unicode.Utf8

/-!
# Spans of templates

A template is cut into text and placeholders.  A placeholder runs from a dollar
sign with a brace to the first closing brace outside of string literals; every
other brace and dollar sign is text.
-/

namespace Reshape
namespace Template

open Unicode

inductive Span where
  | text (chars : List Char)
  /-- The content between the braces, and the byte at which the dollar sign
  stands. -/
  | placeholder (content : List Char) (offset : Nat)
  deriving DecidableEq

/-- The text before the first opening, and what follows the opening. -/
def breakAtOpening : List Char -> Option (List Char × List Char)
  | [] => none
  | '$' :: '\x7b' :: rest => some ([], rest)
  | c :: rest => (breakAtOpening rest).map fun read => (c :: read.1, read.2)

/-- Where the search for the closing brace stands: outside of literals, inside
of one, or after a backslash inside of one. -/
inductive Scan where
  | outside
  | inside (quote : UInt8)
  | escaped (quote : UInt8)
  deriving DecidableEq

def Scan.next (b : UInt8) : Scan -> Scan
  | .outside =>
      if b = '"'.toUInt8 || b = '\x27'.toUInt8 then .inside b else .outside
  | .inside quote =>
      if b = '\\'.toUInt8 then .escaped quote
      else if b = quote then .outside else .inside quote
  | .escaped quote => .inside quote

def closing? (scan : Scan) : List UInt8 -> Option Nat
  | [] => none
  | b :: rest =>
      if scan = .outside && b = '\x7d'.toUInt8 then some 0
      else (closing? (scan.next b) rest).map (· + 1)

/-- The characters that begin within the first bytes, and the others. -/
def breakAtByte : Nat -> List Char -> List Char × List Char
  | 0, cs => ([], cs)
  | _ + 1, [] => ([], [])
  | n + 1, c :: rest =>
      let read := breakAtByte (n + 1 - c.utf8Size) rest
      (c :: read.1, read.2)

/-- The content before the closing brace, and what follows the brace.  The brace
is looked for among the bytes: none of a longer character is a quote, a
backslash or a brace. -/
def breakAtClosing (cs : List Char) : Option (List Char × List Char) :=
  (closing? .outside (Utf8.encode cs)).map fun count =>
    let read := breakAtByte count cs
    (read.1, read.2.drop 1)

/-!
## What a break leaves is shorter
-/

theorem length_breakAtOpening {cs before after : List Char}
    (h : breakAtOpening cs = some (before, after)) :
    after.length < cs.length := by
  fun_induction breakAtOpening cs generalizing before after with
  | case1 => simp at h
  | case2 rest =>
      simp only [Option.some.injEq, Prod.mk.injEq] at h
      obtain ⟨_, rfl⟩ := h
      simp only [List.length_cons]
      omega
  | case3 c rest _ ih =>
      simp only [Option.map_eq_some_iff, Prod.mk.injEq] at h
      obtain ⟨read, hread, _, rfl⟩ := h
      have := ih hread
      simp only [List.length_cons]
      omega

theorem length_breakAtByte_le (count : Nat) (cs : List Char) :
    (breakAtByte count cs).2.length ≤ cs.length := by
  fun_induction breakAtByte count cs with
  | case1 => simp
  | case2 => simp
  | case3 n c rest read ih => exact Nat.le_succ_of_le ih

theorem length_breakAtClosing {cs content after : List Char}
    (h : breakAtClosing cs = some (content, after)) :
    after.length < cs.length := by
  cases cs with
  | nil => simp [breakAtClosing, Utf8.encode, closing?] at h
  | cons c rest =>
      simp only [breakAtClosing, Option.map_eq_some_iff, Prod.mk.injEq] at h
      obtain ⟨count, _, _, rfl⟩ := h
      have := length_breakAtByte_le count (c :: rest)
      simp only [List.length_drop, List.length_cons] at this ⊢
      omega

/-!
## Cutting a template
-/

def textSpan (cs : List Char) : List Span :=
  if cs.isEmpty then [] else [.text cs]

/-- The spans of the rest of a template that takes `total` bytes as a whole.
The error is the byte at which a placeholder opens that is never closed. -/
def spans (total : Nat) (cs : List Char) : Except Nat (List Span) :=
  match _h : breakAtOpening cs with
  | none => .ok (textSpan cs)
  | some (before, after) =>
      let offset := total - byteLength cs + byteLength before
      match _h' : breakAtClosing after with
      | none => .error offset
      | some (content, rest) => do
          return textSpan before ++ .placeholder content offset ::
            (<- spans total rest)
termination_by cs.length
decreasing_by
  have := length_breakAtOpening _h
  have := length_breakAtClosing _h'
  omega

def split (raw : String) : Except Nat (List Span) :=
  spans (byteLength raw.toList) raw.toList

end Template
end Reshape
