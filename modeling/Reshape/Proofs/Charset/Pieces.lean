import Reshape.Charset
import Reshape.Proofs.Unicode.Pieces

/-!
# Complete pieces

In every encoding that is read piece by piece, a piece without a fault has all
its bytes.  The rules for what a piece is look at one byte after another, so the
proofs do as well: what is left to look at is a step, and some bytes lie behind
it already.
-/

namespace Reshape
namespace Charset

open Unicode

/-- With some bytes behind, a step that makes a piece without a fault ends
within the bytes that are left, and stays what it is if more follow. -/
def CompletesAfter (behind : Nat) (step : List UInt8 -> Piece) : Prop :=
  forall rest tail, Faultless (step rest).chars ->
    (step rest).used ≤ behind + rest.length ∧ step (rest ++ tail) = step rest

theorem completes_of_steps {piece : UInt8 -> List UInt8 -> Piece}
    (h : forall b, CompletesAfter 0 fun rest => piece b rest) :
    Completes piece := by
  intro b rest tail hpiece
  have hstep := h b rest tail hpiece
  rw [Nat.zero_add] at hstep
  exact hstep

/-!
## Steps
-/

section Steps

variable {behind : Nat} {step other : List UInt8 -> Piece}

theorem completesAfter_ite {p : Prop} [Decidable p]
    (h : CompletesAfter behind step) (hother : CompletesAfter behind other) :
    CompletesAfter behind fun rest => if p then step rest else other rest := by
  intro rest tail hpiece
  by_cases hp : p
  · simp only [if_pos hp] at hpiece ⊢
    exact h rest tail hpiece
  · simp only [if_neg hp] at hpiece ⊢
    exact hother rest tail hpiece

theorem completesAfter_piece {piece : Piece}
    (h : Faultless piece.chars -> piece.used ≤ behind) :
    CompletesAfter behind fun _ => piece := by
  intro rest tail hpiece
  exact ⟨Nat.le_trans (h hpiece) (Nat.le_add_right _ _), rfl⟩

theorem completesAfter_fault (used : Nat) :
    CompletesAfter behind fun _ => ⟨[none], used⟩ :=
  completesAfter_piece fun h => absurd h (not_faultless_none [])

theorem completesAfter_cons (hnil : Not (Faultless (step []).chars))
    (hcons :
      forall b, CompletesAfter (behind + 1) fun rest => step (b :: rest)) :
    CompletesAfter behind step := by
  intro rest tail hpiece
  cases rest with
  | nil => exact absurd hpiece hnil
  | cons b rest =>
      rcases hcons b rest tail hpiece with ⟨hused, hsame⟩
      refine ⟨?_, hsame⟩
      rw [List.length_cons]
      lia

end Steps

/-!
## Pieces of several bytes
-/

theorem used_pairPiece {char : Option Char} {trail : UInt8}
    (h : Faultless (pairPiece char trail).chars) :
    (pairPiece char trail).used = 1 := by
  unfold pairPiece at h ⊢
  cases char with
  | some c => rfl
  | none =>
      simp only at h
      split at h <;> exact absurd h (not_faultless_none [])

theorem completesAfter_pairPiece (behind : Nat) (char : Option Char)
    (trail : UInt8) :
    CompletesAfter (behind + 1) fun _ => pairPiece char trail := by
  apply completesAfter_piece
  intro h
  rw [used_pairPiece h]
  exact Nat.le_add_left 1 behind

theorem completes_eucKr : Completes EucKr.piece := by
  apply completes_of_steps
  intro b
  unfold EucKr.piece
  refine completesAfter_ite ?_ (completesAfter_fault 0)
  refine completesAfter_cons (not_faultless_none []) ?_
  intro trail
  exact completesAfter_pairPiece 0 _ trail

theorem completes_big5 : Completes Big5.piece := by
  apply completes_of_steps
  intro b
  unfold Big5.piece
  refine completesAfter_ite ?_ (completesAfter_fault 0)
  refine completesAfter_cons (not_faultless_none []) ?_
  intro trail
  apply completesAfter_piece
  intro h
  show (Big5.pair b trail).used ≤ 1
  unfold Big5.pair at h ⊢
  split
  · exact Nat.le_refl 1
  · rename_i hnone
    rw [hnone] at h
    exact Nat.le_of_eq (used_pairPiece h)

theorem completes_shiftJis : Completes ShiftJis.piece := by
  apply completes_of_steps
  intro b
  unfold ShiftJis.piece
  refine completesAfter_ite (completesAfter_piece fun _ => Nat.le_refl 0) ?_
  refine completesAfter_ite (completesAfter_piece fun _ => Nat.le_refl 0) ?_
  refine completesAfter_ite ?_ (completesAfter_fault 0)
  refine completesAfter_cons (not_faultless_none []) ?_
  intro trail
  exact completesAfter_pairPiece 0 _ trail

theorem completesAfter_supplement (lead : UInt8) :
    CompletesAfter 1 fun rest => EucJp.supplementPiece lead rest := by
  refine completesAfter_cons (not_faultless_none []) ?_
  intro trail
  apply completesAfter_piece
  intro h
  have hpair : Faultless
      (pairPiece (EucJp.pairChar? jis0212Index lead trail) trail).chars := h
  show (pairPiece _ trail).used + 1 ≤ 2
  exact Nat.succ_le_succ (Nat.le_of_eq (used_pairPiece hpair))

theorem completes_eucJp : Completes EucJp.piece := by
  apply completes_of_steps
  intro b
  unfold EucJp.piece
  refine completesAfter_ite ?_ (completesAfter_fault 0)
  refine completesAfter_cons (not_faultless_none []) ?_
  intro next
  refine completesAfter_ite (completesAfter_piece fun _ => Nat.le_refl 1) ?_
  refine completesAfter_ite (completesAfter_supplement next) ?_
  exact completesAfter_pairPiece 0 _ next

theorem completesAfter_fourBytes (lead second : UInt8) :
    CompletesAfter 1 fun rest => Gb18030.fourBytePiece lead second rest := by
  refine completesAfter_cons (not_faultless_none []) ?_
  intro third
  refine completesAfter_cons ?_ ?_
  · unfold Gb18030.fourBytePiece
    simp only
    split <;> exact not_faultless_none []
  · intro fourth
    unfold Gb18030.fourBytePiece
    exact completesAfter_ite (completesAfter_piece fun _ => Nat.le_refl 3)
      (completesAfter_fault 0)

theorem completes_gb18030 : Completes Gb18030.piece := by
  apply completes_of_steps
  intro b
  unfold Gb18030.piece
  refine completesAfter_ite (completesAfter_piece fun _ => Nat.le_refl 0) ?_
  refine completesAfter_ite (completesAfter_fault 0) ?_
  refine completesAfter_cons (not_faultless_none []) ?_
  intro trail
  exact completesAfter_ite (completesAfter_fourBytes b trail)
    (completesAfter_pairPiece 0 _ trail)

/-!
## UTF-8 and UTF-16
-/

theorem completesAfter_continuation (count low high acc used : Nat) :
    CompletesAfter used
      fun rest => Utf8.continuation count low high acc used rest := by
  induction count generalizing low high acc used with
  | zero => exact completesAfter_piece fun _ => Nat.le_refl used
  | succ count ih =>
      refine completesAfter_cons (not_faultless_none []) ?_
      intro b
      unfold Utf8.continuation
      exact completesAfter_ite
        (ih 0x80 0xBF (acc * 64 + b.toNat % 64) (used + 1))
        (completesAfter_fault used)

theorem completes_utf8 : Completes Utf8.piece := by
  apply completes_of_steps
  intro b
  unfold Utf8.piece
  refine completesAfter_ite (completesAfter_piece fun _ => Nat.le_refl 0) ?_
  refine completesAfter_ite (completesAfter_fault 0) ?_
  refine completesAfter_ite (completesAfter_continuation _ _ _ _ 0) ?_
  refine completesAfter_ite (completesAfter_continuation _ _ _ _ 0) ?_
  refine completesAfter_ite (completesAfter_continuation _ _ _ _ 0) ?_
  refine completesAfter_ite (completesAfter_continuation _ _ _ _ 0) ?_
  refine completesAfter_ite (completesAfter_continuation _ _ _ _ 0) ?_
  refine completesAfter_ite (completesAfter_continuation _ _ _ _ 0) ?_
  exact completesAfter_ite (completesAfter_continuation _ _ _ _ 0)
    (completesAfter_fault 0)

theorem completes_utf16 (order : Utf16.ByteOrder) :
    Completes (Utf16.piece order) := by
  apply completes_of_steps
  intro a
  refine completesAfter_cons (not_faultless_none []) ?_
  intro b
  unfold Utf16.piece
  refine completesAfter_ite ?_ (completesAfter_piece fun _ => Nat.le_refl 1)
  refine completesAfter_cons (not_faultless_none []) ?_
  intro c
  refine completesAfter_cons (not_faultless_none []) ?_
  intro d
  unfold Utf16.pairPiece
  exact completesAfter_ite (completesAfter_piece fun _ => Nat.le_refl 3)
    (completesAfter_fault 1)

/-!
## The encodings that agree with ASCII
-/

theorem completes_upperPiece (encoding : Encoding) :
    Completes encoding.upperPiece := by
  cases encoding with
  | singleByte set =>
      exact completes_of_steps
        fun b => completesAfter_piece fun _ => Nat.le_refl 0
  | gbk => exact completes_gb18030
  | gb18030 => exact completes_gb18030
  | big5 => exact completes_big5
  | eucJp => exact completes_eucJp
  | shiftJis => exact completes_shiftJis
  | eucKr => exact completes_eucKr
  | userDefined =>
      exact completes_of_steps
        fun b => completesAfter_piece fun _ => Nat.le_refl 0
  | utf8 => exact completes_utf8
  | iso2022Jp => exact completes_utf8
  | replacement => exact completes_utf8
  | utf16be => exact completes_utf8
  | utf16le => exact completes_utf8

theorem completes_piece (encoding : Encoding) : Completes encoding.piece := by
  apply completes_of_steps
  intro b
  unfold Encoding.piece
  refine completesAfter_ite (completesAfter_piece fun _ => Nat.le_refl 0) ?_
  intro rest tail h
  rcases completes_upperPiece encoding b rest tail h with ⟨hused, hsame⟩
  rw [Nat.zero_add]
  exact ⟨hused, hsame⟩

end Charset
end Reshape
