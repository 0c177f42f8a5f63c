import Reshape.Proofs.Charset.Iso2022Jp
import Reshape.Proofs.Charset.Output

/-!
# Bytes that are read in place

In UTF-8 these are the valid texts, in the other encodings the bytes that are
ASCII, and in ISO-2022-JP none of the three that stand for something else.  What
is read off them is written back as the very same bytes.
-/

namespace Reshape
namespace Unicode
namespace Utf8

theorem isValidUTF8_iff_faultless {bytes : List UInt8} :
    bytes.toByteArray.IsValidUTF8 <-> Faultless (decode bytes) := by
  constructor
  · rintro ⟨text, htext⟩
    have hbytes : bytes = encode text := by
      have hdata := congrArg ByteArray.data htext
      rw [List.utf8Encode, List.data_toByteArray,
        List.data_toByteArray] at hdata
      exact congrArg Array.toList hdata
    rw [hbytes, decode_encode]
    exact faultless_map_some text
  · intro h
    refine ⟨lossy (decode bytes), ?_⟩
    rw [List.utf8Encode]
    exact congrArg List.toByteArray (encode_lossy_decode h).symm

end Utf8
end Unicode

namespace Charset

open Unicode

/-- The bytes read as characters that are written with the same bytes in
UTF-8. -/
def Encoding.DecodesInPlace : Encoding -> List UInt8 -> Prop
  | .utf8, bytes => bytes.toByteArray.IsValidUTF8
  | .iso2022Jp, bytes =>
      forall b, b ∈ bytes -> isAscii b = true ∧ b ≠ 0x1B ∧ b ≠ 0x0E ∧ b ≠ 0x0F
  | _, bytes => AsciiBytes bytes

theorem Encoding.readsAsItself_iff {encoding : Encoding}
    (h : encoding.isEncodable = true) (bytes : List UInt8) :
    encoding.readsAsItself bytes = true <-> encoding.DecodesInPlace bytes := by
  cases encoding with
  | utf8 =>
      show (Utf8.decode bytes).all Option.isSome = true <->
          bytes.toByteArray.IsValidUTF8
      rw [Utf8.isValidUTF8_iff_faultless, List.all_eq_true]
      rfl
  | iso2022Jp =>
      show (bytes.all fun b =>
          isAscii b && b ≠ 0x1B && b ≠ 0x0E && b ≠ 0x0F) = true <-> _
      rw [List.all_eq_true]
      simp only [Bool.and_eq_true, decide_eq_true_eq, and_assoc]
      rfl
  | replacement => cases h
  | utf16be => cases h
  | utf16le => cases h
  | _ => exact List.all_eq_true

/-!
## ISO-2022-JP
-/

namespace Iso2022Jp

theorem decode_of_quiet {bytes : List UInt8}
    (h : Encoding.DecodesInPlace .iso2022Jp bytes) :
    decode bytes = (bytes.map byteChar).map some := by
  unfold decode
  generalize false = idle
  induction bytes generalizing idle with
  | nil =>
      rw [read]
      rfl
  | cons b rest ih =>
      rcases List.forall_mem_cons.mp h with
        ⟨⟨hascii, hescape, hshiftOut, hshiftIn⟩, hrest⟩
      have hchar : byteChar? .ascii b = some (byteChar b) := by
        simp [byteChar?, hascii, hshiftOut, hshiftIn]
        rfl
      rw [read_ascii_cons hescape, hchar, ih hrest]
      rfl

theorem form?_byteChar {b : UInt8} (hascii : isAscii b = true)
    (hescape : b ≠ 0x1B) (hshiftOut : b ≠ 0x0E) (hshiftIn : b ≠ 0x0F) :
    form? .ascii (byteChar b) = some (.ascii, [b]) := by
  have hne : forall {d : UInt8}, b ≠ d -> byteChar b ≠ byteChar d := by
    intro d hbd heq
    have hnat := congrArg Char.toNat heq
    rw [toNat_byteChar, toNat_byteChar] at hnat
    exact hbd (UInt8.toNat_inj.mp hnat)
  have hcontrol : Not (byteChar b = '\x0E' ∨ byteChar b = '\x0F' ∨
      byteChar b = '\x1B') := by
    rintro (h | h | h)
    · exact hne hshiftOut h
    · exact hne hshiftIn h
    · exact hne hescape h
  have hlow := toNat_byteChar_lt hascii
  unfold form?
  simp only [Bool.or_eq_true, decide_eq_true_eq, or_assoc, if_neg hcontrol,
    if_pos hlow, reduceCtorEq, decide_false, Bool.false_and, Bool.false_eq_true,
    if_false]
  rw [Utf8.ofNat_eq_self (toNat_byteChar b)]

theorem encode_of_quiet {bytes : List UInt8}
    (h : Encoding.DecodesInPlace .iso2022Jp bytes) :
    encode (bytes.map byteChar) = bytes := by
  unfold encode
  induction bytes with
  | nil => rfl
  | cons b rest ih =>
      rcases List.forall_mem_cons.mp h with
        ⟨⟨hascii, hescape, hshiftOut, hshiftIn⟩, hrest⟩
      rw [List.map_cons, write,
        form?_byteChar hascii hescape hshiftOut hshiftIn]
      show b :: write .ascii (rest.map byteChar) = b :: rest
      rw [ih hrest]

end Iso2022Jp

/-!
## Reading and writing back
-/

theorem Encoding.encodeChar_byteChar (encoding : Encoding) {b : UInt8}
    (h : isAscii b = true) : encoding.encodeChar (byteChar b) = [b] := by
  rw [Encoding.encodeChar, Encoding.encodeChar?, if_pos (toNat_byteChar_lt h),
    Utf8.ofNat_eq_self (toNat_byteChar b)]
  rfl

theorem Encoding.encode_of_ne {encoding : Encoding} (h : encoding ≠ .iso2022Jp)
    (cs : List Char) : encoding.encode cs = cs.flatMap encoding.encodeChar := by
  cases encoding with
  | iso2022Jp => exact absurd rfl h
  | _ => rfl

theorem Encoding.flatMap_encodeChar_byteChars (encoding : Encoding)
    {bytes : List UInt8} (h : AsciiBytes bytes) :
    (bytes.map byteChar).flatMap encoding.encodeChar = bytes := by
  induction bytes with
  | nil => rfl
  | cons b rest ih =>
      rcases List.forall_mem_cons.mp h with ⟨hb, hrest⟩
      rw [List.map_cons, List.flatMap_cons, encoding.encodeChar_byteChar hb,
        ih hrest]
      rfl

theorem Encoding.decode_of_inPlace {encoding : Encoding}
    (h : encoding.isEncodable = true) (hne : encoding ≠ .utf8)
    {bytes : List UInt8} (hbytes : encoding.DecodesInPlace bytes) :
    AsciiBytes bytes ∧
      encoding.decode bytes = (bytes.map byteChar).map some := by
  cases encoding with
  | utf8 => exact absurd rfl hne
  | iso2022Jp =>
      exact ⟨fun b hb => (hbytes b hb).left, Iso2022Jp.decode_of_quiet hbytes⟩
  | replacement => cases h
  | utf16be => cases h
  | utf16le => cases h
  | _ => exact ⟨hbytes, readPieces_asciiBytes _ hbytes⟩

theorem Encoding.utf8_of_inPlace {encoding : Encoding}
    (h : encoding.isEncodable = true) {bytes : List UInt8}
    (hbytes : encoding.DecodesInPlace bytes) :
    Utf8.encode (lossy (encoding.decode bytes)) = bytes := by
  by_cases hutf8 : encoding = .utf8
  · subst hutf8
    rw [Encoding.decode_utf8]
    exact Utf8.encode_lossy_decode (Utf8.isValidUTF8_iff_faultless.mp hbytes)
  · rcases Encoding.decode_of_inPlace h hutf8 hbytes with ⟨hascii, hdecode⟩
    rw [hdecode, lossy_map_some, encode_byteChars hascii]

theorem Encoding.encode_lossy_decode {encoding : Encoding}
    (h : encoding.isEncodable = true) {bytes : List UInt8}
    (hbytes : encoding.DecodesInPlace bytes) :
    encoding.encode (lossy (encoding.decode bytes)) = bytes := by
  by_cases hutf8 : encoding = .utf8
  · subst hutf8
    rw [Encoding.encode_utf8]
    exact Encoding.utf8_of_inPlace h hbytes
  · rcases Encoding.decode_of_inPlace h hutf8 hbytes with ⟨hascii, hdecode⟩
    rw [hdecode, lossy_map_some]
    by_cases hescapes : encoding = .iso2022Jp
    · subst hescapes
      exact Iso2022Jp.encode_of_quiet hbytes
    · rw [Encoding.encode_of_ne hescapes,
        encoding.flatMap_encodeChar_byteChars hascii]

end Charset
end Reshape
