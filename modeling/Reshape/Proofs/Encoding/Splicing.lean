import Reshape.Proofs.Charset.Utf16
import Reshape.Proofs.Encoding.Conversion

/-!
# Texts between literals

A text of a legacy charset is put between ASCII literals and then converted into
UTF-8.  When all its bytes look like ASCII, the whole is taken for UTF-8 and
stays as it is, which is right only if the bytes are ASCII.  Otherwise the whole
is read in the charset, which is right only if ASCII bytes are read as
themselves there.
-/

namespace Reshape
namespace Charset

open Unicode

/-- Text of the charset means the same between ASCII literals, whether it looks
like ASCII or not. -/
def Spliceable : Charset -> List UInt8 -> Prop
  | .encoded .iso2022Jp, bytes => 0x1B ∉ bytes
  | .encoded .utf16be, bytes => bytes = []
  | .encoded .utf16le, bytes => bytes = []
  | _, _ => True

/-- The ways to read bytes, with the texts that may stand between literals. -/
inductive Encoding.Reading (encoding : Encoding) : Prop
  | pieces
      (hdecode :
        forall bytes, encoding.decode bytes = readPieces encoding.piece bytes)
      (hspliceable : forall bytes, Spliceable (.encoded encoding) bytes)
  | units (order : Utf16.ByteOrder)
      (hdecode :
        forall bytes,
          encoding.decode bytes = readPieces (Utf16.piece order) bytes)
      (hspliceable :
        forall bytes, Spliceable (.encoded encoding) bytes <-> bytes = [])
  | escapes (h : encoding = .iso2022Jp)
  | replaced (h : encoding = .replacement)

theorem Encoding.reading (encoding : Encoding) : encoding.Reading := by
  cases encoding with
  | iso2022Jp => exact .escapes rfl
  | replacement => exact .replaced rfl
  | utf16be => exact .units .big (fun _ => rfl) (fun _ => Iff.rfl)
  | utf16le => exact .units .little (fun _ => rfl) (fun _ => Iff.rfl)
  | _ => exact .pieces (fun _ => rfl) (fun _ => trivial)

theorem eq_nil_of_replaced {bytes : List UInt8}
    (h : Faultless (Encoding.decode .replacement bytes)) : bytes = [] := by
  cases bytes with
  | nil => rfl
  | cons b rest => exact absurd h (not_faultless_none [])

theorem asciiBytes_of_binary {bytes : List UInt8}
    (h : Faultless (decode .binary bytes)) : AsciiBytes bytes := by
  intro b hb
  have hsome := h (asciiChar? b) (List.mem_map_of_mem hb)
  unfold asciiChar? at hsome
  split at hsome
  · assumption
  · cases hsome

theorem decode_binary_of_ascii {bytes : List UInt8} (h : AsciiBytes bytes) :
    decode .binary bytes = (bytes.map byteChar).map some := by
  show bytes.map asciiChar? = _
  rw [List.map_map]
  apply List.map_congr_left
  intro b hb
  unfold asciiChar?
  rw [if_pos (h b hb)]
  rfl

/-!
## Bytes that look like ASCII
-/

theorem encode_eq_of_read {decoded : List Char} {bytes : List UInt8}
    (hbytes : AsciiBytes bytes)
    (hread : decoded.map some = (bytes.map byteChar).map some) :
    Utf8.encode decoded = bytes := by
  have hdecoded : decoded = bytes.map byteChar := by
    rw [← lossy_map_some decoded, hread, lossy_map_some]
  rw [hdecoded, encode_byteChars hbytes]

theorem length_of_encode_eq {decoded : List Char} {bytes : List UInt8}
    (hbytes : AsciiBytes bytes) (h : Utf8.encode decoded = bytes) :
    decoded.length = bytes.length := by
  rw [eq_byteChars_of_encode_eq hbytes h, List.length_map]

theorem encode_eq_iff_of_units {order : Utf16.ByteOrder} {bytes : List UInt8}
    {decoded : List Char}
    (hread : readPieces (Utf16.piece order) bytes = decoded.map some)
    (hbytes : AsciiBytes bytes) :
    Utf8.encode decoded = bytes <-> bytes = [] := by
  have hlength := congrArg List.length hread
  rw [List.length_map] at hlength
  constructor
  · intro heq
    have hsame := length_of_encode_eq hbytes heq
    have hcount := Utf16.length_readPieces_le (faultless_of_eq hread)
    exact List.eq_nil_of_length_eq_zero (by lia)
  · rintro rfl
    rw [readPieces_nil] at hlength
    rw [List.eq_nil_of_length_eq_zero hlength.symm]
    rfl

theorem encode_eq_iff_of_escapes {bytes : List UInt8} {decoded : List Char}
    (hread : decode (.encoded .iso2022Jp) bytes = decoded.map some)
    (hbytes : AsciiBytes bytes) :
    Utf8.encode decoded = bytes <-> 0x1B ∉ bytes := by
  have hfaultless := faultless_of_eq hread
  have hshort := (Iso2022Jp.length_read hfaultless).right
  constructor
  · intro heq hescape
    have hsame := length_of_encode_eq hbytes heq
    have hless : (decode (.encoded .iso2022Jp) bytes).length < bytes.length :=
      hshort hescape
    rw [hread, List.length_map] at hless
    lia
  · intro hplain
    have hascii : decode (.encoded .iso2022Jp) bytes = _ :=
      Iso2022Jp.decode_of_plain hplain hfaultless
    rw [hread] at hascii
    exact encode_eq_of_read hbytes hascii

theorem encode_eq_iff_spliceable {source : Charset} {bytes : List UInt8}
    {decoded : List Char} (hread : source.decode bytes = decoded.map some)
    (hbytes : AsciiBytes bytes) :
    Utf8.encode decoded = bytes <-> source.Spliceable bytes := by
  cases source with
  | binary =>
      refine iff_of_true ?_ trivial
      exact encode_eq_of_read hbytes
        (hread.symm.trans (decode_binary_of_ascii hbytes))
  | encoded encoding =>
      cases encoding.reading with
      | pieces hdecode hspliceable =>
          refine iff_of_true ?_ (hspliceable bytes)
          have hascii := readPieces_asciiBytes encoding hbytes
          rw [← hdecode] at hascii
          exact encode_eq_of_read hbytes (hread.symm.trans hascii)
      | units order hdecode hspliceable =>
          rw [hspliceable]
          exact encode_eq_iff_of_units ((hdecode bytes).symm.trans hread) hbytes
      | escapes h =>
          subst h
          exact encode_eq_iff_of_escapes hread hbytes
      | replaced h =>
          subst h
          have hnil := eq_nil_of_replaced (faultless_of_eq hread)
          subst hnil
          refine iff_of_true ?_ trivial
          have hnone : decoded = [] := List.map_eq_nil_iff.mp hread.symm
          rw [hnone]
          rfl

/-!
## Bytes that do not
-/

/-- Other bytes are read between ASCII literals as they are by themselves,
exactly if the charset reads ASCII bytes as themselves. -/
theorem lossy_decode_around_iff_spliceable {source : Charset}
    {bytes before after : List UInt8} {decoded : List Char}
    (hread : source.decode bytes = decoded.map some)
    (hbytes : Not (AsciiBytes bytes)) (hbefore : AsciiBytes before)
    (hafter : AsciiBytes after) (haround : before ++ after ≠ []) :
    lossy (source.decode (before ++ bytes ++ after)) =
        before.map byteChar ++ decoded ++ after.map byteChar <->
      source.Spliceable bytes := by
  have hfaultless := faultless_of_eq hread
  cases source with
  | binary => exact absurd (asciiBytes_of_binary hfaultless) hbytes
  | encoded encoding =>
      cases encoding.reading with
      | pieces hdecode hspliceable =>
          refine iff_of_true ?_ (hspliceable bytes)
          have hpieces : readPieces encoding.piece bytes = decoded.map some :=
            (hdecode bytes).symm.trans hread
          show lossy (encoding.decode (before ++ bytes ++ after)) = _
          rw [hdecode, readPieces_around encoding hbefore hafter, hpieces,
            ← List.map_append, ← List.map_append, lossy_map_some]
          exact faultless_of_eq hpieces
      | units order hdecode hspliceable =>
          have hne : bytes ≠ [] := by
            rintro rfl
            exact hbytes fun b hb => absurd hb List.not_mem_nil
          refine iff_of_false ?_ (fun h => hne ((hspliceable bytes).mp h))
          have hunits :
              readPieces (Utf16.piece order) bytes = decoded.map some :=
            (hdecode bytes).symm.trans hread
          show lossy (encoding.decode (before ++ bytes ++ after)) ≠ _
          rw [hdecode, ← lossy_map_some decoded, ← hunits]
          exact Utf16.lossy_readPieces_around_ne order
            (faultless_of_eq hunits) haround
      | escapes h =>
          subst h
          exact absurd (Iso2022Jp.isAscii_of_faultless hfaultless) hbytes
      | replaced h =>
          subst h
          have hnil := eq_nil_of_replaced hfaultless
          subst hnil
          exact absurd (fun b hb => absurd hb List.not_mem_nil) hbytes

end Charset

namespace EncodingSpec

open Charset Unicode

/-!
## Converting into UTF-8
-/

theorem encode_of_read {bytes : List UInt8} {decoded : List Char}
    (h : Charset.utf8.decode bytes = decoded.map some) :
    Utf8.encode decoded = bytes := by
  have hread : Utf8.decode bytes = decoded.map some := by
    rw [← Encoding.decode_utf8]
    exact h
  have hback := Utf8.encode_lossy_decode (faultless_of_eq hread)
  rw [hread, lossy_map_some] at hback
  exact hback

theorem encode_inj {cs ds : List Char} :
    Utf8.encode cs = Utf8.encode ds <-> cs = ds := by
  constructor
  · intro h
    rw [← Utf8.lossy_decode_encode cs, h, Utf8.lossy_decode_encode]
  · intro h
    rw [h]

theorem source_of_utf8 {spec : EncodingSpec} {text : Text}
    (hcharset : text.charset = spec.source ∨ text.charset = .binary)
    (h : text.charset = .utf8) : spec.source = .utf8 := by
  rcases hcharset with hsource | hbinary
  · rw [← hsource, h]
  · rw [h] at hbinary
    cases hbinary

section Conversion

variable {spec : EncodingSpec} (htarget : spec.target = some .utf8)

include htarget

theorem normalizeText_of_utf8 {text : Text} (h : text.charset = .utf8) :
    spec.normalizeText text = text := by
  apply normalizeText_of_settled
  unfold settledCharset
  rw [htarget]
  exact h

theorem normalizeText_of_read {text : Text} {decoded : List Char}
    (hcharset : text.charset = spec.source ∨ text.charset = .binary)
    (hread : spec.source.decode text.bytes = decoded.map some) :
    spec.normalizeText text = ⟨Utf8.encode decoded, .utf8⟩ := by
  by_cases hutf8 : text.charset = .utf8
  · rw [source_of_utf8 hcharset hutf8] at hread
    rw [normalizeText_of_utf8 htarget hutf8, encode_of_read hread, ← hutf8]
  · rw [normalizeText_of_ne htarget hutf8, read, hread, lossy_map_some]

/-- Between literals it becomes the literals around what was read, exactly if it
may stand there. -/
theorem normalizeText_around_iff {text : Text} {decoded : List Char}
    {before after : List UInt8}
    (hcharset : text.charset = spec.source ∨ text.charset = .binary)
    (hread : spec.source.decode text.bytes = decoded.map some)
    (hbefore : AsciiBytes before) (hafter : AsciiBytes after)
    (haround : before ++ after ≠ []) :
    spec.normalizeText ⟨before ++ text.bytes ++ after,
          if text.isAscii then .utf8 else text.charset⟩ =
        ⟨Utf8.encode (before.map byteChar ++ decoded ++ after.map byteChar),
          .utf8⟩ <->
      spec.source.Spliceable text.bytes := by
  have hwritten :
      Utf8.encode (before.map byteChar ++ decoded ++ after.map byteChar) =
        before ++ Utf8.encode decoded ++ after := by
    rw [Utf8.encode_append, Utf8.encode_append, encode_byteChars hbefore,
      encode_byteChars hafter]
  by_cases hbytes : AsciiBytes text.bytes
  · have hascii : text.isAscii = true := List.all_eq_true.mpr hbytes
    rw [if_pos hascii, normalizeText_of_utf8 htarget rfl, hwritten,
      Text.mk.injEq, List.append_left_inj, List.append_right_inj,
      eq_self_iff_true, and_true, ← encode_eq_iff_spliceable hread hbytes]
    exact eq_comm
  · have hascii : Not (text.isAscii = true) :=
      fun h => hbytes (List.all_eq_true.mp h)
    rw [if_neg hascii]
    by_cases hutf8 : text.charset = .utf8
    · rw [source_of_utf8 hcharset hutf8] at hread ⊢
      refine iff_of_true ?_ trivial
      rw [hwritten, encode_of_read hread, hutf8]
      exact normalizeText_of_utf8 htarget rfl
    · have hconverted :
          spec.normalizeText ⟨before ++ text.bytes ++ after, text.charset⟩ =
            _ :=
        normalizeText_of_ne htarget hutf8
      rw [hconverted, Text.mk.injEq, encode_inj, eq_self_iff_true, and_true]
      exact lossy_decode_around_iff_spliceable hread hbytes hbefore
        hafter haround

end Conversion

end EncodingSpec
end Reshape
