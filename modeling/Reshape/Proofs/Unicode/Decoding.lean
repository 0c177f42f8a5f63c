import Reshape.Proofs.Unicode.Utf8
import Reshape.Text

/-!
# Reading back UTF-8

The bytes of a character are read as that character, whatever comes after them:
the first byte tells how many there are, and the bounds on the second let every
character through.  So a text that was written as UTF-8 is read as it was, in
whichever way the bytes are declared to be UTF-8.
-/

namespace Reshape
namespace Unicode
namespace Utf8

/-!
## One character
-/

theorem toNat_ofNat_of_lt {n : Nat} (h : n < 0x100) :
    (UInt8.ofNat n).toNat = n := by
  rw [UInt8.toNat_ofNat']
  exact Nat.mod_eq_of_lt h

theorem continuation_cons {count low high acc used n : Nat} (hbyte : n < 0x100)
    (hlow : low ≤ n) (hhigh : n ≤ high) (bs : List UInt8) :
    continuation (count + 1) low high acc used (UInt8.ofNat n :: bs) =
      continuation count 0x80 0xBF (acc * 64 + n % 64) (used + 1) bs := by
  rw [continuation, toNat_ofNat_of_lt hbyte, if_pos ⟨hlow, hhigh⟩]

theorem continuation_tail (count acc used k : Nat) (bs : List UInt8) :
    continuation (count + 1) 0x80 0xBF acc used
        (UInt8.ofNat (k % 64 + 128) :: bs) =
      continuation count 0x80 0xBF (acc * 64 + k % 64) (used + 1) bs := by
  have hbits : (k % 64 + 128) % 64 = k % 64 := by lia
  rw [continuation_cons (by lia) (by lia) (by lia), hbits]

theorem continuation_zero {low high acc used : Nat} {c : Char}
    (h : acc = c.toNat) (bs : List UInt8) :
    continuation 0 low high acc used bs = ⟨[some c], used⟩ := by
  rw [continuation, h, Char.ofNat_toNat]

theorem valid_toNat (c : Char) :
    c.toNat < 0xD800 ∨ (0xDFFF < c.toNat ∧ c.toNat < 0x110000) :=
  c.valid

theorem piece_of_two {c : Char} (hlow : 0x7F < c.toNat)
    (hhigh : c.toNat ≤ 0x7FF) (rest : List UInt8) :
    piece (UInt8.ofNat (c.toNat / 64 % 32 + 192))
        (UInt8.ofNat (c.toNat % 64 + 128) :: rest) =
      ⟨[some c], 1⟩ := by
  have hfirst :
      (UInt8.ofNat (c.toNat / 64 % 32 + 192)).toNat = c.toNat / 64 + 192 := by
    rw [toNat_ofNat_of_lt (by lia)]
    lia
  unfold piece
  simp only [hfirst]
  rw [if_neg (by lia), if_neg (by lia), if_pos (by lia),
    continuation_cons (by lia) (by lia) (by lia)]
  exact continuation_zero (by lia) rest

/-- A character that takes three bytes.  The bounds on the second byte are
narrower after the least first byte, which keeps out overlong forms, and before
the surrogates. -/
theorem piece_of_three {c : Char} (hlow : 0x7FF < c.toNat)
    (hhigh : c.toNat ≤ 0xFFFF) (rest : List UInt8) :
    piece (UInt8.ofNat (c.toNat / 4096 % 16 + 224))
        (UInt8.ofNat (c.toNat / 64 % 64 + 128) ::
          UInt8.ofNat (c.toNat % 64 + 128) :: rest) =
      ⟨[some c], 2⟩ := by
  have hfirst : (UInt8.ofNat (c.toNat / 4096 % 16 + 224)).toNat =
      c.toNat / 4096 + 224 := by
    rw [toNat_ofNat_of_lt (by lia)]
    lia
  have hvalid := valid_toNat c
  unfold piece
  simp only [hfirst]
  rw [if_neg (by lia), if_neg (by lia), if_neg (by lia)]
  by_cases hleast : c.toNat / 4096 = 0
  · rw [if_pos (by lia), continuation_cons (by lia) (by lia) (by lia),
      continuation_tail]
    exact continuation_zero (by lia) rest
  · rw [if_neg (by lia)]
    by_cases hsurrogates : c.toNat / 4096 = 13
    · rw [if_pos (by lia), continuation_cons (by lia) (by lia) (by lia),
        continuation_tail]
      exact continuation_zero (by lia) rest
    · rw [if_neg (by lia), if_pos (by lia),
        continuation_cons (by lia) (by lia) (by lia), continuation_tail]
      exact continuation_zero (by lia) rest

theorem piece_of_four {c : Char} (hlow : 0xFFFF < c.toNat) (rest : List UInt8) :
    piece (UInt8.ofNat (c.toNat / 262144 % 8 + 240))
        (UInt8.ofNat (c.toNat / 4096 % 64 + 128) ::
          UInt8.ofNat (c.toNat / 64 % 64 + 128) ::
          UInt8.ofNat (c.toNat % 64 + 128) :: rest) =
      ⟨[some c], 3⟩ := by
  have hvalid := valid_toNat c
  have hfirst : (UInt8.ofNat (c.toNat / 262144 % 8 + 240)).toNat =
      c.toNat / 262144 + 240 := by
    rw [toNat_ofNat_of_lt (by lia)]
    lia
  unfold piece
  simp only [hfirst]
  rw [if_neg (by lia), if_neg (by lia), if_neg (by lia), if_neg (by lia),
    if_neg (by lia), if_neg (by lia)]
  by_cases hleast : c.toNat / 262144 = 0
  · rw [if_pos (by lia), continuation_cons (by lia) (by lia) (by lia),
      continuation_tail, continuation_tail]
    exact continuation_zero (by lia) rest
  · rw [if_neg (by lia)]
    by_cases hgreatest : c.toNat / 262144 = 4
    · rw [if_neg (by lia), if_pos (by lia),
        continuation_cons (by lia) (by lia) (by lia), continuation_tail,
        continuation_tail]
      exact continuation_zero (by lia) rest
    · rw [if_pos (by lia), continuation_cons (by lia) (by lia) (by lia),
        continuation_tail, continuation_tail]
      exact continuation_zero (by lia) rest

theorem piece_utf8EncodeChar (c : Char) (rest : List UInt8) :
    exists b more, String.utf8EncodeChar c = b :: more ∧
      piece b (more ++ rest) = ⟨[some c], more.length⟩ := by
  unfold String.utf8EncodeChar
  simp only
  by_cases hone : c.toNat ≤ 0x7F
  · refine ⟨UInt8.ofNat c.toNat, [], if_pos hone, ?_⟩
    unfold piece
    simp only [toNat_ofNat_of_lt (Nat.lt_of_le_of_lt hone (by decide))]
    rw [if_pos (Nat.lt_succ_of_le hone), Char.ofNat_toNat]
    rfl
  · have hnot : Not (c.val.toNat ≤ 0x7F) := hone
    rw [if_neg hnot]
    by_cases htwo : c.toNat ≤ 0x7FF
    · exact ⟨_, _, if_pos htwo, piece_of_two (Nat.lt_of_not_le hone) htwo rest⟩
    · have hnot : Not (c.val.toNat ≤ 0x7FF) := htwo
      rw [if_neg hnot]
      by_cases hthree : c.toNat ≤ 0xFFFF
      · exact ⟨_, _, if_pos hthree,
          piece_of_three (Nat.lt_of_not_le htwo) hthree rest⟩
      · exact ⟨_, _, if_neg hthree,
          piece_of_four (Nat.lt_of_not_le hthree) rest⟩

/-!
## A text
-/

theorem decode_encode (cs : List Char) : decode (encode cs) = cs.map some := by
  induction cs with
  | nil =>
      unfold decode
      rw [show encode [] = [] from rfl, readPieces]
      rfl
  | cons c cs ih =>
      rcases piece_utf8EncodeChar c (encode cs) with ⟨b, more, hchar, hpiece⟩
      unfold decode at ih ⊢
      rw [encode_cons, hchar, List.cons_append, readPieces, hpiece,
        List.drop_left, ih]
      rfl

theorem lossy_decode_encode (cs : List Char) :
    lossy (decode (encode cs)) = cs := by
  unfold lossy
  rw [decode_encode, List.map_map]
  exact List.map_id cs

end Utf8
end Unicode

open Unicode

/-- The codec reads ASCII by itself and leaves the rest to the reader of UTF-8,
which agrees. -/
theorem Charset.Encoding.decode_utf8 (bytes : List UInt8) :
    Charset.Encoding.utf8.decode bytes = Utf8.decode bytes := by
  have hpiece : Charset.Encoding.utf8.piece = Utf8.piece := by
    funext b rest
    unfold Charset.Encoding.piece Charset.isAscii
    by_cases hascii : b.toNat < 0x80
    · unfold Utf8.piece
      simp [hascii]
    · simp [hascii, Charset.Encoding.upperPiece]
  show readPieces Charset.Encoding.utf8.piece bytes =
      readPieces Utf8.piece bytes
  rw [hpiece]

theorem Text.shown_ofString (s : String) : (Text.ofString s).shown = s := by
  show String.ofList
        (lossy (Charset.Encoding.utf8.decode (Utf8.encode s.toList))) =
      s
  rw [Charset.Encoding.decode_utf8, Utf8.lossy_decode_encode]
  exact String.ofList_toList

end Reshape
