import Reshape.Charset.DoubleByte
import Reshape.Charset.Index.Jis0208

/-!
# ISO-2022-JP

A seven-bit encoding with escape sequences that switch between four sets.
Reading and writing both carry the set that is switched on.
-/

namespace Reshape
namespace Charset
namespace Iso2022Jp

inductive Mode where
  | ascii
  | roman
  | katakana
  | kanji
  deriving DecidableEq

/-!
## Reading
-/

/-- The set that the two bytes after an escape byte switch on. -/
def escape? : List UInt8 -> Option Mode
  | a :: b :: _ =>
      if a = 0x28 then
        if b = 0x42 then some .ascii
        else if b = 0x4A then some .roman
        else if b = 0x49 then some .katakana
        else none
      else if a = 0x24 then
        if b = 0x40 || b = 0x42 then some .kanji else none
      else none
  | _ => none

/-- A byte of a set with one byte for each character. -/
def byteChar? (mode : Mode) (b : UInt8) : Option Char :=
  match mode with
  | .katakana =>
      if between 0x21 0x5F b then some (Char.ofNat (0xFF61 + (b.toNat - 0x21)))
      else none
  | _ =>
      if b = 0x0E || b = 0x0F || !isAscii b then none
      else if mode = .roman && b = 0x5C then some '\u00A5'
      else if mode = .roman && b = 0x7E then some '\u203E'
      else some (Char.ofNat b.toNat)

def pairChar? (lead trail : UInt8) : Option Char :=
  if between 0x21 0x7E trail then
    jis0208Index.char? ((lead.toNat - 0x21) * 94 + (trail.toNat - 0x21))
  else none

/-- The characters of the bytes.  `idle` tells that nothing was read since the
last switch: a switch that nothing uses is malformed. -/
def read (mode : Mode) (idle : Bool) : List UInt8 -> List (Option Char)
  | [] => []
  | b :: rest =>
      if b = 0x1B then
        match escape? rest with
        | some next =>
            (if idle then [none] else []) ++ read next true (rest.drop 2)
        | none => none :: read mode false rest
      else if mode = .kanji then
        if between 0x21 0x7E b then
          match rest with
          | [] => [none]
          | trail :: rest' =>
              if trail = 0x1B then none :: read mode false (trail :: rest')
              else pairChar? b trail :: read mode false rest'
        else none :: read mode false rest
      else byteChar? mode b :: read mode false rest
termination_by bytes => bytes.length
decreasing_by
  all_goals simp only [List.length_drop, List.length_cons]
  all_goals omega

def decode (bytes : List UInt8) : List (Option Char) :=
  read .ascii false bytes

/-!
## Writing
-/

def Mode.switch : Mode -> List UInt8
  | .ascii => [0x1B, 0x28, 0x42]
  | .roman => [0x1B, 0x28, 0x4A]
  | .katakana => [0x1B, 0x28, 0x49]
  | .kanji => [0x1B, 0x24, 0x42]

def switchTo (current next : Mode) : List UInt8 :=
  if current = next then [] else next.switch

/-- The full-width forms of the half-width katakana, from U+FF61 on. -/
def fullWidthKatakana : Array Char :=
  "。「」、・ヲァィゥェォャュョッーアイウエオカキクケコサシスセソタチツテトナニヌネノハヒフヘホマミムメモヤユヨラリルレロワン゛゜".toList
    |>.toArray

def widen (c : Char) : Char :=
  if 0xFF61 ≤ c.toNat then (fullWidthKatakana[c.toNat - 0xFF61]?).getD c
  else widenMinus c

/-- The set that holds a character, and its bytes there.  A plain ASCII
character stays in the Roman set when that is switched on and agrees with ASCII
on it. -/
def form? (current : Mode) (c : Char) : Option (Mode × List UInt8) :=
  if c = '\x0E' || c = '\x0F' || c = '\x1B' then none
  else if c.toNat < 0x80 then
    if current = .roman && c ≠ '\\' && c ≠ '~' then
      some (.roman, [UInt8.ofNat c.toNat])
    else some (.ascii, [UInt8.ofNat c.toNat])
  else if c = '\u00A5' then some (.roman, [0x5C])
  else if c = '\u203E' then some (.roman, [0x7E])
  else
    (jis0208Index.pointer? (widen c)).map fun pointer =>
      (.kanji,
        [UInt8.ofNat (pointer / 94 + 0x21), UInt8.ofNat (pointer % 94 + 0x21)])

/-- The set in which a question mark stands for a character that no set holds:
the Roman set has one of its own. -/
def Mode.forUnknown : Mode -> Mode
  | .roman => .roman
  | _ => .ascii

/-- The bytes of a text from a given set on.  A character that no set holds
becomes a question mark, and the end of the text returns to ASCII. -/
def write (current : Mode) : List Char -> List UInt8
  | [] => switchTo current .ascii
  | c :: cs =>
      match form? current c with
      | some (next, bytes) => switchTo current next ++ bytes ++ write next cs
      | none =>
          let next := current.forUnknown
          switchTo current next ++ 0x3F :: write next cs

def encode (cs : List Char) : List UInt8 :=
  write .ascii cs

end Iso2022Jp
end Charset
end Reshape
