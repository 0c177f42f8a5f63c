import Reshape.Charset.Output
import Reshape.Proofs.Unicode.Utf8

/-!
# What the passes write

However often the buffer is full and wherever a character is not in the
encoding, the passes together write the text character by character.  What a
pass has written and what is still to be written after it make up the whole, so
no character is lost where a pass stops, and none is written twice.
-/

namespace Reshape
namespace Charset

open Unicode

theorem Encoding.encode_utf8 (cs : List Char) :
    Encoding.utf8.encode cs = Utf8.encode cs := by
  have hchar : Encoding.utf8.encodeChar = String.utf8EncodeChar := by
    funext c
    unfold Encoding.encodeChar Encoding.encodeChar?
    split
    · rename_i hc
      rw [Utf8.utf8EncodeChar_of_ascii hc]
      rfl
    · rfl
  show cs.flatMap Encoding.utf8.encodeChar = Utf8.encode cs
  rw [hchar]
  rfl

namespace Writer

/-- The bytes of a text character by character, from what the encoding has come
to. -/
def written : Writer -> List Char -> List UInt8
  | .plain encoding, text => text.flatMap encoding.encodeChar
  | .switched mode, text => Iso2022Jp.write mode text

theorem written_start (encoding : Encoding) (text : List Char) :
    (start encoding).written text = encoding.encode text := by
  cases encoding <;> rfl

/-!
## One character
-/

theorem written_nil (writer : Writer) : writer.written [] = writer.closing := by
  cases writer <;> rfl

theorem written_cons (writer : Writer) (c : Char) (rest : List Char) :
    writer.written (c :: rest) =
      (writer.attempt c).bytes ++
        if (writer.attempt c).mapped then (writer.attempt c).writer.written rest
        else
          Encoding.questionMark :: (writer.attempt c).writer.written rest := by
  cases writer with
  | plain encoding =>
      show List.flatMap encoding.encodeChar (c :: rest) = _
      rw [List.flatMap_cons, Encoding.encodeChar, attempt]
      cases encoding.encodeChar? c with
      | none => rfl
      | some bytes => rfl
  | switched mode =>
      show Iso2022Jp.write mode (c :: rest) = _
      rw [Iso2022Jp.write, attempt]
      cases Iso2022Jp.form? mode c with
      | none => rfl
      | some form => rfl

theorem attempt_questionMark {writer : Writer} {c : Char}
    (h : (writer.attempt c).mapped = false) :
    (writer.attempt c).writer.attempt '?' =
      ⟨[Encoding.questionMark], (writer.attempt c).writer, true⟩ := by
  cases writer with
  | plain encoding =>
      have hwriter : ((plain encoding).attempt c).writer = plain encoding := by
        rw [attempt]
        split <;> rfl
      rw [hwriter]
      rfl
  | switched mode =>
      rw [attempt] at h ⊢
      cases hform : Iso2022Jp.form? mode c with
      | some form =>
          rw [hform] at h
          cases h
      | none => cases mode <;> rfl

/-!
## One pass
-/

def Pass.remaining (pass : Pass) : List UInt8 :=
  match pass.stop with
  | .inputEmpty => []
  | .outputFull => pass.writer.written pass.rest
  | .unmappable _ => Encoding.questionMark :: pass.writer.written pass.rest

theorem written_eq_pass (allowance : Allowance) (writer : Writer) (room : Nat)
    (text : List Char) :
    writer.written text =
      (writer.pass allowance true room text).bytes ++
        (writer.pass allowance true room text).remaining := by
  induction text generalizing writer room with
  | nil =>
      rw [pass, written_nil]
      by_cases hroom : room < writer.closing.length
      · simp only [Bool.not_true, Bool.false_eq_true, if_false, if_pos hroom]
        exact (written_nil writer).symm
      · simp only [Bool.not_true, Bool.false_eq_true, if_false, if_neg hroom]
        exact (List.append_nil _).symm
  | cons c rest ih =>
      rw [pass]
      by_cases hroom : room < allowance.demand writer c
      · rw [if_pos hroom]
        rfl
      · rw [if_neg hroom]
        rw [written_cons]
        cases hmapped : (writer.attempt c).mapped with
        | false =>
            simp only [hmapped, Bool.false_eq_true, if_false]
            rfl
        | true =>
            simp only [hmapped, if_true]
            rw [ih _ (room - (writer.attempt c).bytes.length),
              ← List.append_assoc]
            rfl

theorem attempt_questionMark_of_pass {allowance : Allowance} {writer : Writer}
    {room : Nat} {text : List Char} {c : Char}
    (h : (writer.pass allowance true room text).stop = .unmappable c) :
    (writer.pass allowance true room text).writer.attempt '?' =
      ⟨[Encoding.questionMark], (writer.pass allowance true room text).writer,
        true⟩ := by
  induction text generalizing writer room with
  | nil =>
      rw [pass] at h
      split at h
      · cases h
      · split at h <;> cases h
  | cons d rest ih =>
      rw [pass] at h ⊢
      split at h
      · cases h
      · rename_i hroom
        rw [if_neg hroom]
        cases hmapped : (writer.attempt d).mapped with
        | false =>
            simp only [hmapped, Bool.false_eq_true, if_false]
            exact attempt_questionMark hmapped
        | true =>
            simp only [hmapped, if_true] at h ⊢
            exact ih h

theorem pass_questionMark {allowance : Allowance} {writer : Writer} {room : Nat}
    (hroom : 16 ≤ room)
    (h : writer.attempt '?' = ⟨[Encoding.questionMark], writer, true⟩) :
    writer.pass allowance false room ['?'] =
      ⟨[Encoding.questionMark], [], writer, .inputEmpty⟩ := by
  have hdemand : Not (room < allowance.demand writer '?') :=
    Nat.not_lt.mpr (Nat.le_trans (allowance.demand_le writer '?') hroom)
  rw [pass, if_neg hdemand, h]
  rfl

/-!
## All passes
-/

theorem run_eq_append (allowance : Allowance) (writer : Writer) (out : Output)
    (text : List Char) :
    writer.run allowance out text = out.bytes ++ writer.written text := by
  fun_induction run allowance writer out text with
  | case1 writer out text pass written hstop =>
      have hpass : writer.written text = pass.bytes ++ pass.remaining :=
        written_eq_pass allowance writer out.room text
      rw [hpass, Pass.remaining, hstop, List.append_nil]
      rfl
  | case2 writer out text pass written hstop length ih =>
      have hpass : writer.written text = pass.bytes ++ pass.remaining :=
        written_eq_pass allowance writer out.room text
      rw [ih, Output.bytes_reserve, hpass, Pass.remaining, hstop,
        ← List.append_assoc]
      rfl
  | case3 writer out text pass written c hstop roomy mark ih =>
      have hpass : writer.written text = pass.bytes ++ pass.remaining :=
        written_eq_pass allowance writer out.room text
      have hmark :
          mark = ⟨[Encoding.questionMark], [], pass.writer, .inputEmpty⟩ :=
        pass_questionMark
          (written.le_room_reserve_asked allowance pass.writer 1)
          (attempt_questionMark_of_pass hstop)
      have hbytes : roomy.bytes = out.bytes ++ pass.bytes :=
        Output.bytes_reserve _ _ _
      rw [ih, hpass, Pass.remaining, hstop]
      show roomy.bytes ++ mark.bytes ++ mark.writer.written pass.rest = _
      rw [hbytes, hmark, List.append_assoc, List.append_assoc]
      rfl

end Writer

/-- A text that is written into a buffer is written character by character,
whatever room is given. -/
theorem Encoding.write_eq_encode (allowance : Allowance) (encoding : Encoding)
    (text : List Char) :
    encoding.write allowance text = encoding.encode text := by
  have hrun : forall out : Output, out.bytes = [] ->
      (Writer.start encoding).run allowance out text =
        encoding.encode text := by
    intro out hout
    rw [Writer.run_eq_append, hout, List.nil_append, Writer.written_start]
  cases encoding with
  | utf8 => exact (Encoding.encode_utf8 text).symm
  | _ => exact hrun _ rfl

end Charset
end Reshape
