import Reshape.Proofs.Charset.Pieces
import Reshape.Proofs.Unicode.Decoding
import Reshape.Proofs.Unicode.Valid

/-!
# ASCII

An ASCII byte is the character of its number in every encoding that is read
piece by piece, and UTF-8 writes that character as the byte again.
-/

namespace Reshape
namespace Charset

open Unicode

def byteChar (b : UInt8) : Char :=
  Char.ofNat b.toNat

theorem toNat_byteChar (b : UInt8) : (byteChar b).toNat = b.toNat := by
  have hb := b.toNat_lt
  exact Utf8.toNat_charOfNat (by lia)

theorem toNat_byteChar_lt {b : UInt8} (h : isAscii b = true) :
    (byteChar b).toNat < 0x80 := by
  rw [toNat_byteChar]
  simpa [isAscii] using h

def AsciiBytes (bytes : List UInt8) : Prop :=
  forall b, b ∈ bytes -> isAscii b = true

def AsciiChars (cs : List Char) : Prop :=
  forall c, c ∈ cs -> c.toNat < 0x80

/-!
## Writing
-/

theorem utf8EncodeChar_byteChar {b : UInt8} (h : isAscii b = true) :
    String.utf8EncodeChar (byteChar b) = [b] := by
  rw [Utf8.utf8EncodeChar_of_ascii (toNat_byteChar_lt h)]
  show [UInt8.ofNat (byteChar b).toNat] = [b]
  rw [Utf8.ofNat_eq_self (toNat_byteChar b)]

theorem encode_byteChars {bytes : List UInt8} (h : AsciiBytes bytes) :
    Utf8.encode (bytes.map byteChar) = bytes := by
  induction bytes with
  | nil => rfl
  | cons b rest ih =>
      rcases List.forall_mem_cons.mp h with ⟨hb, hrest⟩
      rw [List.map_cons, Utf8.encode_cons, utf8EncodeChar_byteChar hb, ih hrest]
      rfl

theorem asciiBytes_encode {cs : List Char} (h : AsciiChars cs) :
    AsciiBytes (Utf8.encode cs) := by
  intro b hb
  rcases List.mem_flatMap.mp hb with ⟨c, hc, hmem⟩
  rw [Utf8.utf8EncodeChar_of_ascii (h c hc), List.mem_singleton] at hmem
  unfold isAscii
  rw [hmem, Utf8.toNat_toUInt8_of_ascii (h c hc)]
  exact decide_eq_true (h c hc)

/-!
## Reading
-/

theorem lossy_map_some (cs : List Char) : lossy (cs.map some) = cs := by
  unfold lossy
  rw [List.map_map]
  exact List.map_id cs

theorem readPieces_ascii (encoding : Encoding) {bytes : List UInt8}
    (h : AsciiBytes bytes) (rest : List UInt8) :
    readPieces encoding.piece (bytes ++ rest) =
      (bytes.map byteChar).map some ++ readPieces encoding.piece rest := by
  induction bytes with
  | nil => rfl
  | cons b bytes ih =>
      rcases List.forall_mem_cons.mp h with ⟨hb, hbytes⟩
      have hpiece :
          encoding.piece b (bytes ++ rest) = ⟨[some (byteChar b)], 0⟩ := by
        rw [Encoding.piece, if_pos hb]
        rfl
      rw [List.cons_append, readPieces, hpiece, List.drop_zero, ih hbytes]
      rfl

theorem readPieces_asciiBytes (encoding : Encoding) {bytes : List UInt8}
    (h : AsciiBytes bytes) :
    readPieces encoding.piece bytes = (bytes.map byteChar).map some := by
  have hread := readPieces_ascii encoding h []
  rw [List.append_nil, readPieces_nil, List.append_nil] at hread
  exact hread

/-- Only ASCII is written as ASCII bytes. -/
theorem eq_byteChars_of_encode_eq {cs : List Char} {bytes : List UInt8}
    (hbytes : AsciiBytes bytes) (h : Utf8.encode cs = bytes) :
    cs = bytes.map byteChar := by
  have hread := Utf8.decode_encode cs
  rw [h, ← Encoding.decode_utf8] at hread
  have hascii : Encoding.utf8.decode bytes = (bytes.map byteChar).map some :=
    readPieces_asciiBytes .utf8 hbytes
  rw [hascii] at hread
  rw [← lossy_map_some cs, ← hread, lossy_map_some]

/-- ASCII around a text that is read without a fault makes no difference to
it. -/
theorem readPieces_around (encoding : Encoding)
    {before bytes after : List UInt8} (hbefore : AsciiBytes before)
    (hafter : AsciiBytes after)
    (h : Faultless (readPieces encoding.piece bytes)) :
    readPieces encoding.piece (before ++ bytes ++ after) =
      (before.map byteChar).map some ++ readPieces encoding.piece bytes ++
        (after.map byteChar).map some := by
  rw [List.append_assoc, readPieces_ascii encoding hbefore,
    readPieces_append (completes_piece encoding) h,
    readPieces_asciiBytes encoding hafter, List.append_assoc]

end Charset
end Reshape
