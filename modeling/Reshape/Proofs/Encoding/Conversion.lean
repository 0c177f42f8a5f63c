import Reshape.Proofs.Charset.InPlace
import Reshape.Proofs.Encoding.Normalization

/-!
# What converting comes to

A text that is not in the target is read from the source and written in the
target.  That it may keep its bytes, and that it is written through a buffer in
many passes, shows in none of the bytes: into UTF-8 they are the UTF-8 of what
was read, and into an encoding that writes each character by itself they are the
bytes of one character after another, with a question mark where there is none.
-/

namespace Reshape
namespace EncodingSpec

open Charset Unicode

/-!
## Keeping the bytes
-/

theorem convertBytes_eq (source : Charset) (target : Encoding)
    (bytes : List UInt8) :
    convertBytes source target bytes =
      target.encode (lossy (source.decode bytes)) :=
  Encoding.write_eq_encode .generous target _

theorem convertBytes_of_inPlace {encoding : Encoding}
    (h : encoding.isEncodable = true) {bytes : List UInt8}
    (hbytes : encoding.DecodesInPlace bytes) :
    convertBytes (.encoded encoding) encoding bytes = bytes :=
  (convertBytes_eq _ _ _).trans (Encoding.encode_lossy_decode h hbytes)

theorem normalizeText_eq_convertBytes {spec : EncodingSpec} {target : Encoding}
    (htarget : spec.target = some target) {text : Text}
    (h : text.charset ≠ .encoded target) :
    spec.normalizeText text =
      ⟨convertBytes spec.source target text.bytes, .encoded target⟩ := by
  unfold normalizeText change
  rw [htarget]
  simp only
  rw [if_neg h]
  split
  · rename_i hitself
    rw [Bool.and_eq_true, decide_eq_true_eq] at hitself
    rcases hitself with ⟨hsource, hbytes⟩
    have hencodable := spec.writable target htarget
    rw [hsource,
      convertBytes_of_inPlace hencodable
        ((Encoding.readsAsItself_iff hencodable _).mp hbytes)]
    rfl
  · rfl

/-- The bytes that a text may keep are the bytes that it would be given. -/
theorem declaring_eq_rewriting {encoding : Encoding}
    (h : encoding.isEncodable = true) (bytes : List UInt8) :
    (encoding.DecodesInPlace bytes ->
      Utf8.encode (lossy (encoding.decode bytes)) = bytes ∧
        forall allowance,
          encoding.write allowance (lossy (encoding.decode bytes)) = bytes) ∧
      forall spec : EncodingSpec, spec.source = .encoded encoding ->
        spec.target = some encoding ->
        forall charset, charset ≠ .encoded encoding ->
          (spec.change ⟨bytes, charset⟩ = .declare (.encoded encoding) <->
            encoding.DecodesInPlace bytes) ∧
          spec.normalizeText ⟨bytes, charset⟩ =
            (Change.replace (convertBytes spec.source encoding bytes)
              (.encoded encoding)).apply ⟨bytes, charset⟩ := by
  constructor
  · intro hbytes
    refine ⟨Encoding.utf8_of_inPlace h hbytes, ?_⟩
    intro allowance
    rw [Encoding.write_eq_encode, Encoding.encode_lossy_decode h hbytes]
  · intro spec hsource htarget charset hcharset
    refine ⟨?_, normalizeText_eq_convertBytes htarget hcharset⟩
    rw [← Encoding.readsAsItself_iff h, change, htarget]
    simp only [if_neg hcharset, hsource, decide_true, Bool.true_and]
    split
    · exact iff_of_true rfl ‹_›
    · exact iff_of_false nofun ‹_›

theorem declaring_eq_rewriting_iso2022Jp :
    Encoding.iso2022Jp.isEncodable = true ∧
      Encoding.DecodesInPlace .iso2022Jp [0x6F, 0x6B] ∧
      forall allowance,
        Encoding.iso2022Jp.write allowance
          (lossy (Encoding.iso2022Jp.decode [0x6F, 0x6B])) =
          [0x6F, 0x6B] := by
  have hbytes : Encoding.DecodesInPlace .iso2022Jp [0x6F, 0x6B] :=
    (Encoding.readsAsItself_iff rfl _).mp rfl
  exact ⟨rfl, hbytes,
    ((declaring_eq_rewriting rfl [0x6F, 0x6B]).left hbytes).right⟩

/-!
## Into UTF-8
-/

def read (spec : EncodingSpec) (text : Text) : List Char :=
  lossy (spec.source.decode text.bytes)

theorem read_of_binary {spec : EncodingSpec} (h : spec.source = .binary)
    (text : Text) :
    spec.read text =
      text.bytes.map
        fun b => if b.toNat < 0x80 then Char.ofNat b.toNat else '\uFFFD' := by
  unfold read lossy
  rw [h]
  show (text.bytes.map asciiChar?).map _ = _
  rw [List.map_map]
  apply List.map_congr_left
  intro b _
  show (asciiChar? b).getD _ = _
  unfold asciiChar?
  rw [isAscii, apply_ite (Option.getD · _)]
  simp only [decide_eq_true_eq]
  rfl

theorem normalizeText_of_ne {spec : EncodingSpec}
    (htarget : spec.target = some .utf8) {text : Text}
    (h : text.charset ≠ .utf8) :
    spec.normalizeText text = ⟨Utf8.encode (spec.read text), .utf8⟩ := by
  rw [normalizeText_eq_convertBytes htarget h, convertBytes_eq,
    Encoding.encode_utf8]
  rfl

/-- A text that was not UTF-8 becomes the UTF-8 of what was read, and it is read
back from there. -/
theorem normalizeText_into_utf8 {spec : EncodingSpec}
    (htarget : spec.target = some .utf8) {text : Text}
    (h : text.charset ≠ .utf8) :
    spec.normalizeText text = ⟨Utf8.encode (spec.read text), .utf8⟩ ∧
      (spec.normalizeText text).bytes.toByteArray.IsValidUTF8 ∧
      Utf8.decode (spec.normalizeText text).bytes = (spec.read text).map some ∧
      (spec.normalizeText text).shown = String.ofList (spec.read text) ∧
      (spec.source = .binary ->
        spec.read text =
          text.bytes.map fun b =>
            if b.toNat < 0x80 then Char.ofNat b.toNat else '\uFFFD') := by
  have hresult :
      spec.normalizeText text = ⟨Utf8.encode (spec.read text), .utf8⟩ :=
    normalizeText_of_ne htarget h
  have hdecode : Utf8.decode (spec.normalizeText text).bytes =
      (spec.read text).map some := by
    rw [hresult]
    exact Utf8.decode_encode _
  refine ⟨hresult, ?_, hdecode, ?_, fun hsource => read_of_binary hsource text⟩
  · rw [Utf8.isValidUTF8_iff_faultless]
    exact faultless_of_eq hdecode
  · have hcharset : (spec.normalizeText text).charset = .utf8 := by rw [hresult]
    unfold Text.shown
    rw [hcharset]
    show String.ofList (lossy (Encoding.utf8.decode _)) = _
    rw [Encoding.decode_utf8, hdecode, lossy_map_some]

theorem normalizeText_into_utf8_binary :
    exists spec, convert .binary .utf8 = .ok spec ∧ spec.target = some .utf8 ∧
      (Text.binary [0x41, 0xC3]).charset ≠ .utf8 ∧
      spec.normalizeText (.binary [0x41, 0xC3]) =
        ⟨Utf8.encode ['A', '\uFFFD'], .utf8⟩ ∧
      (spec.normalizeText (.binary [0x41, 0xC3])).shown = "A\uFFFD" := by
  have hconverts : exists spec, convert .binary .utf8 = .ok spec ∧
      spec.source = .binary ∧
      spec.target = some .utf8 := ⟨_, rfl, rfl, rfl⟩
  rcases hconverts with ⟨spec, hspec, hsource, htarget⟩
  have hcharset : (Text.binary [0x41, 0xC3]).charset ≠ .utf8 := nofun
  rcases normalizeText_into_utf8 htarget hcharset with
    ⟨hresult, _, _, hshown, hread⟩
  rw [hread hsource] at hresult hshown
  exact ⟨spec, hspec, htarget, hcharset, hresult, hshown⟩

/-!
## Into an encoding without state
-/

/-- Every character is written by itself, or a question mark in its place. -/
theorem normalizeText_into_stateless {spec : EncodingSpec} {target : Encoding}
    (htarget : spec.target = some target) (hstateless : target ≠ .iso2022Jp) :
    (forall text : Text, text.charset ≠ .encoded target ->
      spec.normalizeText text =
        ⟨(spec.read text).flatMap fun c => (target.encodeChar? c).getD [0x3F],
          .encoded target⟩) ∧
      (forall allowance cs,
        target.write allowance cs =
          cs.flatMap fun c => (target.encodeChar? c).getD [0x3F]) ∧
      (forall allowance xs ys,
        target.write allowance (xs ++ ys) =
          target.write allowance xs ++ target.write allowance ys) ∧
      forall c bytes, target.encodeChar? c = some bytes -> bytes ≠ [] := by
  have hwrite : forall allowance cs, target.write allowance cs =
      cs.flatMap fun c => (target.encodeChar? c).getD [0x3F] := by
    intro allowance cs
    rw [Encoding.write_eq_encode]
    exact Encoding.encode_of_ne hstateless cs
  refine ⟨?_, hwrite, ?_, ?_⟩
  · intro text hcharset
    rw [normalizeText_eq_convertBytes htarget hcharset]
    exact congrArg (Text.mk · _) (hwrite .generous _)
  · intro allowance xs ys
    rw [hwrite, hwrite, hwrite, List.flatMap_append]
  · intro c bytes hbytes hnil
    have hlength := (target.within_encodeChar? c bytes hbytes).left
    rw [hnil] at hlength
    exact absurd hlength (by decide)

def intoUserDefined : EncodingSpec :=
  ⟨.utf8, some .userDefined, by simp; rfl⟩

def mostlyUnmappable : Text :=
  ⟨Utf8.encode ['\u00E9', '\u20AC', '\uF7B1', '\u00E9'], .utf8⟩

theorem read_mostlyUnmappable :
    intoUserDefined.read mostlyUnmappable =
      ['\u00E9', '\u20AC', '\uF7B1', '\u00E9'] := by
  show lossy (Encoding.utf8.decode (Utf8.encode _)) = _
  rw [Encoding.decode_utf8, Utf8.lossy_decode_encode]

theorem normalizeText_into_stateless_userDefined :
    intoUserDefined.target = some .userDefined ∧
      Encoding.userDefined ≠ .iso2022Jp ∧
      mostlyUnmappable.charset ≠ .encoded .userDefined ∧
      intoUserDefined.normalizeText mostlyUnmappable =
        ⟨[0x3F, 0x3F, 0xB1, 0x3F], .encoded .userDefined⟩ := by
  have htarget : intoUserDefined.target = some .userDefined := rfl
  have hstateless : Encoding.userDefined ≠ .iso2022Jp := nofun
  have hcharset : mostlyUnmappable.charset ≠ .encoded .userDefined := nofun
  refine ⟨htarget, hstateless, hcharset, ?_⟩
  rw [(normalizeText_into_stateless htarget hstateless).left _ hcharset,
    read_mostlyUnmappable]
  rfl

end EncodingSpec
end Reshape
