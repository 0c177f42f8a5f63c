import Reshape.Charset.Big5
import Reshape.Charset.Encoding
import Reshape.Charset.EucJp
import Reshape.Charset.EucKr
import Reshape.Charset.Gb18030
import Reshape.Charset.Iso2022Jp
import Reshape.Charset.ShiftJis
import Reshape.Charset.SingleByte
import Reshape.Charset.Utf16
import Reshape.Unicode.Utf8

/-!
# Reading and writing text

`Encoding.decode` reads the bytes of any encoding; a malformed stretch is one
`none`.  `Encoding.encode` tells the bytes of a text, with a question mark for
each character that the encoding lacks.  Neither can fail.
-/

namespace Reshape
namespace Charset

open Unicode

namespace Encoding

/-- The piece that begins with a byte from 128 up, in the encodings that agree
with ASCII below. -/
def upperPiece : Encoding -> UInt8 -> List UInt8 -> Piece
  | .singleByte set => set.piece
  | .gbk => Gb18030.piece
  | .gb18030 => Gb18030.piece
  | .big5 => Big5.piece
  | .eucJp => EucJp.piece
  | .shiftJis => ShiftJis.piece
  | .eucKr => EucKr.piece
  | .userDefined => UserDefined.piece
  | _ => Utf8.piece

def piece (encoding : Encoding) (b : UInt8) (rest : List UInt8) : Piece :=
  if isAscii b then ⟨[some (Char.ofNat b.toNat)], 0⟩
  else encoding.upperPiece b rest

/-- The characters of the bytes.  The replacement encoding takes any text as one
malformed stretch. -/
def decode : Encoding -> List UInt8 -> List (Option Char)
  | .iso2022Jp, bytes => Iso2022Jp.decode bytes
  | .utf16be, bytes => readPieces (Utf16.piece .big) bytes
  | .utf16le, bytes => readPieces (Utf16.piece .little) bytes
  | .replacement, bytes => if bytes.isEmpty then [] else [none]
  | encoding, bytes => readPieces encoding.piece bytes

/-!
## Writing
-/

/-- The bytes of a character above ASCII, in the encodings that write each
character by itself. -/
def encodeUpper? : Encoding -> Char -> Option (List UInt8)
  | .singleByte set, c => set.encodeChar? c
  | .gbk, c => Gb18030.encodeGbkChar? c
  | .gb18030, c => Gb18030.encodeChar? c
  | .big5, c => Big5.encodeChar? c
  | .eucJp, c => EucJp.encodeChar? c
  | .shiftJis, c => ShiftJis.encodeChar? c
  | .eucKr, c => EucKr.encodeChar? c
  | .userDefined, c => UserDefined.encodeChar? c
  | _, c => some (String.utf8EncodeChar c)

def encodeChar? (encoding : Encoding) (c : Char) : Option (List UInt8) :=
  if c.toNat < 0x80 then some [UInt8.ofNat c.toNat] else encoding.encodeUpper? c

def questionMark : UInt8 := 0x3F

def encodeChar (encoding : Encoding) (c : Char) : List UInt8 :=
  (encoding.encodeChar? c).getD [questionMark]

/-- The bytes of a text.  The encodings that are only read are written as
UTF-8. -/
def encode : Encoding -> List Char -> List UInt8
  | .iso2022Jp, cs => Iso2022Jp.encode cs
  | encoding, cs => cs.flatMap encoding.encodeChar

/-!
## Text that reads as itself
-/

/-- Whether reading the bytes yields the very same bytes as UTF-8, as far as a
glance at them tells: valid UTF-8 in that encoding, plain ASCII in the others.
ISO-2022-JP gives three control bytes a meaning, and UTF-16 and the replacement
encoding never qualify. -/
def readsAsItself : Encoding -> List UInt8 -> Bool
  | .utf8, bytes => (Utf8.decode bytes).all Option.isSome
  | .iso2022Jp, bytes =>
      bytes.all fun b => isAscii b && b ≠ 0x1B && b ≠ 0x0E && b ≠ 0x0F
  | .replacement, _ => false
  | .utf16be, _ => false
  | .utf16le, _ => false
  | _, bytes => bytes.all isAscii

end Encoding

end Charset
end Reshape
