import Reshape.Charset.Codec

/-!
# Writing character by character

A writer is an encoding on the way through a text.  It tries one character after
another; for one that the encoding lacks it writes no more than a switch, and
somebody else has to say what takes its place.
-/

namespace Reshape
namespace Charset

open Unicode

/-- What an encoding has come to: most write each character by itself, and
ISO-2022-JP has a set switched on. -/
inductive Writer where
  | plain (encoding : Encoding)
  | switched (mode : Iso2022Jp.Mode)
  deriving DecidableEq

namespace Writer

def start : Encoding -> Writer
  | .iso2022Jp => .switched .ascii
  | encoding => .plain encoding

/-- What trying a character writes, the writer after it, and whether the
encoding has the character. -/
structure Attempt where
  bytes : List UInt8
  writer : Writer
  mapped : Bool
  deriving DecidableEq

/-- For a character that the encoding lacks, it may still switch to a set that
has a question mark. -/
def attempt : Writer -> Char -> Attempt
  | .plain encoding, c =>
      match encoding.encodeChar? c with
      | some bytes => ⟨bytes, .plain encoding, true⟩
      | none => ⟨[], .plain encoding, false⟩
  | .switched mode, c =>
      match Iso2022Jp.form? mode c with
      | some (next, bytes) =>
          ⟨Iso2022Jp.switchTo mode next ++ bytes, .switched next, true⟩
      | none =>
          ⟨Iso2022Jp.switchTo mode mode.forUnknown, .switched mode.forUnknown,
            false⟩

def closing : Writer -> List UInt8
  | .plain _ => []
  | .switched mode => Iso2022Jp.switchTo mode .ascii

def closed : Writer -> Writer
  | .plain encoding => .plain encoding
  | .switched _ => .switched .ascii

end Writer

/-!
## How long forms are

Every form has a byte, and none has more than five: a switch to another set
takes three, and a character two there.
-/

/-- What is found, if anything, has a size of one up to the limit. -/
def Within {α : Type} (size : α -> Nat) (limit : Nat) (found : Option α) :
    Prop :=
  forall a, found = some a -> 1 ≤ size a ∧ size a ≤ limit

section Limits

variable {α β : Type} {size : α -> Nat} {limit : Nat}

theorem within_none : Within size limit none := by
  intro a h
  cases h

theorem within_some {a : α} (h : 1 ≤ size a ∧ size a ≤ limit) :
    Within size limit (some a) := by
  intro b hb
  cases hb
  exact h

theorem within_ite {p : Prop} [Decidable p] {first second : Option α}
    (hfirst : Within size limit first) (hsecond : Within size limit second) :
    Within size limit (if p then first else second) := by
  split
  · exact hfirst
  · exact hsecond

theorem within_map {f : β -> α}
    (h : forall b, 1 ≤ size (f b) ∧ size (f b) ≤ limit) (found : Option β) :
    Within size limit (found.map f) := by
  cases found with
  | none => exact within_none
  | some b => exact within_some (h b)

end Limits

theorem length_one (b : UInt8) : 1 ≤ [b].length ∧ [b].length ≤ 4 := by
  simp

theorem length_two (a b : UInt8) : 1 ≤ [a, b].length ∧ [a, b].length ≤ 4 := by
  simp

namespace Gb18030

theorem within_pair? (c : Char) : Within List.length 4 (pair? c) := by
  unfold pair?
  split
  · exact within_some (length_two _ _)
  · exact within_map (fun _ => length_two _ _) _

theorem within_encodeChar? (c : Char) :
    Within List.length 4 (encodeChar? c) := by
  refine within_ite within_none (within_some ?_)
  cases hpair : pair? c with
  | none => exact ⟨Nat.le_of_ble_eq_true rfl, Nat.le_refl 4⟩
  | some bytes => exact within_pair? c bytes hpair

end Gb18030

theorem EucJp.within_encodeChar? (c : Char) :
    Within List.length 4 (EucJp.encodeChar? c) := by
  refine within_ite (within_some (length_one _))
    (within_ite (within_some (length_one _)) ?_)
  split
  · exact within_some (length_two _ _)
  · exact within_map (fun _ => length_two _ _) _

theorem ShiftJis.within_encodeChar? (c : Char) :
    Within List.length 4 (ShiftJis.encodeChar? c) := by
  refine within_ite (within_some (length_one _))
    (within_ite (within_some (length_one _)) ?_)
  refine within_ite (within_some (length_one _)) ?_
  split
  · exact within_some (length_one _)
  · exact within_map (fun _ => length_two _ _) _

theorem Encoding.within_encodeChar? (encoding : Encoding) (c : Char) :
    Within List.length 4 (encoding.encodeChar? c) := by
  refine within_ite (within_some (length_one _)) ?_
  cases encoding with
  | singleByte set => exact within_map (fun _ => length_one _) _
  | gbk =>
      refine within_ite within_none (within_ite (within_some (length_one _)) ?_)
      exact Gb18030.within_pair? c
  | gb18030 => exact Gb18030.within_encodeChar? c
  | big5 => exact within_map (fun _ => length_two _ _) _
  | eucJp => exact EucJp.within_encodeChar? c
  | shiftJis => exact ShiftJis.within_encodeChar? c
  | eucKr => exact within_map (fun _ => length_two _ _) _
  | userDefined => exact within_ite (within_some (length_one _)) within_none
  | _ =>
      apply within_some
      rw [String.length_utf8EncodeChar]
      exact ⟨Char.utf8Size_pos c, Char.utf8Size_le_four c⟩

theorem Iso2022Jp.within_form? (current : Mode) (c : Char) :
    Within (fun form => form.2.length) 2 (form? current c) := by
  have hone : forall b : UInt8, 1 ≤ [b].length ∧ [b].length ≤ 2 := by simp
  have htwo : forall a b : UInt8, 1 ≤ [a, b].length ∧ [a, b].length ≤ 2 := by
    simp
  refine within_ite within_none (within_ite ?_ ?_)
  · exact within_ite (within_some (hone _)) (within_some (hone _))
  · refine within_ite (within_some (hone _))
      (within_ite (within_some (hone _)) (within_map ?_ _))
    exact fun pointer => htwo _ _

theorem Iso2022Jp.length_switchTo_le (current next : Mode) :
    (switchTo current next).length ≤ 3 := by
  cases current <;> cases next <;> decide

namespace Writer

theorem length_attempt_le (writer : Writer) (c : Char) :
    (writer.attempt c).bytes.length ≤ 5 := by
  cases writer with
  | plain encoding =>
      rw [attempt]
      split
      · exact Nat.le_succ_of_le (encoding.within_encodeChar? c _ ‹_›).right
      · exact Nat.zero_le 5
  | switched mode =>
      rw [attempt]
      split
      · rename_i next bytes hform
        have hswitch := Iso2022Jp.length_switchTo_le mode next
        have hbytes : bytes.length ≤ 2 :=
          (Iso2022Jp.within_form? mode c (next, bytes) hform).right
        rw [List.length_append]
        omega
      · exact Nat.le_trans (Iso2022Jp.length_switchTo_le mode mode.forUnknown)
          (by decide)

theorem length_closing_le (writer : Writer) : writer.closing.length ≤ 5 := by
  cases writer with
  | plain encoding => exact Nat.zero_le 5
  | switched mode =>
      exact Nat.le_trans (Iso2022Jp.length_switchTo_le mode .ascii) (by decide)

end Writer

end Charset
end Reshape
