import Reshape.Unicode.Pieces

/-!
# Reading on

A piece without a fault is complete: what comes after it makes no difference to
it.  If this holds of every piece of an encoding, bytes that are read without a
fault are read in the same way in front of any others.
-/

namespace Reshape
namespace Unicode

def Faultless (read : List (Option Char)) : Prop :=
  forall c, c ∈ read -> c.isSome = true

theorem faultless_append {read more : List (Option Char)} :
    Faultless (read ++ more) <-> Faultless read ∧ Faultless more :=
  List.forall_mem_append

theorem faultless_cons {c : Option Char} {read : List (Option Char)} :
    Faultless (c :: read) <-> c.isSome = true ∧ Faultless read :=
  List.forall_mem_cons

theorem not_faultless_none (read : List (Option Char)) :
    Not (Faultless (none :: read)) :=
  fun h => Bool.false_ne_true (h none List.mem_cons_self)

theorem faultless_map_some (cs : List Char) : Faultless (cs.map some) := by
  intro c hc
  rcases List.mem_map.mp hc with ⟨d, _, rfl⟩
  rfl

theorem faultless_of_eq {read : List (Option Char)} {decoded : List Char}
    (h : read = decoded.map some) : Faultless read := by
  rw [h]
  exact faultless_map_some decoded

/-- A piece that is read without a fault ends within the bytes, and stays what
it is if more follow. -/
def Completes (piece : UInt8 -> List UInt8 -> Piece) : Prop :=
  forall b rest tail, Faultless (piece b rest).chars ->
    (piece b rest).used ≤ rest.length ∧ piece b (rest ++ tail) = piece b rest

theorem readPieces_nil (piece : UInt8 -> List UInt8 -> Piece) :
    readPieces piece [] = [] := by
  rw [readPieces]

theorem readPieces_append {piece : UInt8 -> List UInt8 -> Piece}
    (hpiece : Completes piece) {bytes : List UInt8}
    (h : Faultless (readPieces piece bytes)) (tail : List UInt8) :
    readPieces piece (bytes ++ tail) =
      readPieces piece bytes ++ readPieces piece tail := by
  induction hlength : bytes.length using Nat.strongRecOn generalizing bytes with
  | ind n ih =>
      cases bytes with
      | nil => rw [readPieces_nil, List.nil_append, List.nil_append]
      | cons b rest =>
          rw [readPieces, faultless_append] at h
          rcases hpiece b rest tail h.left with ⟨hused, hsame⟩
          rw [List.length_cons] at hlength
          have hshorter : (rest.drop (piece b rest).used).length < n := by
            rw [List.length_drop]
            lia
          rw [List.cons_append, readPieces, readPieces, hsame,
            List.drop_append_of_le_length hused, ih _ hshorter h.right rfl,
            List.append_assoc]

end Unicode
end Reshape
