import Reshape.Charset.Writer

/-!
# Writing into a buffer

A text is written in passes.  A pass goes on until the text ends, until the
buffer has too little room for the next character, or until a character is not
in the encoding.  Then the buffer grows, a question mark takes the place of the
character, and the next pass goes on with the rest of the text.
-/

namespace Reshape
namespace Charset

open Unicode

/-!
## Room
-/

/-- How room is given out.  The text that is written does not depend on it, only
the number of passes. -/
structure Allowance where
  /-- The room without which a character is not tried. -/
  demand : Writer -> Char -> Nat
  /-- The room that a text of so many bytes of UTF-8 is expected to need, if a
  word can hold it. -/
  estimate : Writer -> Nat -> Option Nat
  /-- The new capacity of a buffer, from the old one and the length that it must
  hold. -/
  grown : Nat -> Nat -> Nat
  length_le_demand : forall writer c,
    (writer.attempt c).bytes.length ≤ demand writer c
  demand_le : forall writer c, demand writer c ≤ 16
  le_grown : forall capacity length, length ≤ grown capacity length

namespace Allowance

/-- Room for the longest form of every character, in a buffer that at least
doubles when it grows. -/
def generous : Allowance where
  demand _ _ := 5
  estimate _ length := some (4 * length + 3)
  grown capacity length := max (2 * capacity) (max length 8)
  length_le_demand := Writer.length_attempt_le
  demand_le _ _ := by decide
  le_grown _ _ := by omega

/-- The room to make for a text of so many bytes of UTF-8, enough for any one
character. -/
def asked (allowance : Allowance) (writer : Writer) (length : Nat) : Nat :=
  max ((allowance.estimate writer length).getD (length * 4)) 16

end Allowance

/-- A buffer that is written at its end. -/
structure Output where
  bytes : List UInt8
  capacity : Nat
  length_le : bytes.length ≤ capacity

namespace Output

def room (out : Output) : Nat :=
  out.capacity - out.bytes.length

def empty (capacity : Nat) : Output :=
  ⟨[], capacity, Nat.zero_le capacity⟩

def append (out : Output) (bytes : List UInt8) (h : bytes.length ≤ out.room) :
    Output :=
  ⟨out.bytes ++ bytes, out.capacity, by
    have hle := out.length_le
    unfold room at h
    rw [List.length_append]
    omega⟩

/-- Makes room for more bytes where there is too little. -/
def reserve (out : Output) (allowance : Allowance) (more : Nat) : Output :=
  if out.room < more then
    ⟨out.bytes, allowance.grown out.capacity (out.bytes.length + more), by
      have hle := allowance.le_grown out.capacity (out.bytes.length + more)
      omega⟩
  else out

theorem bytes_reserve (out : Output) (allowance : Allowance) (more : Nat) :
    (out.reserve allowance more).bytes = out.bytes := by
  unfold reserve
  split <;> rfl

theorem le_room_reserve (out : Output) (allowance : Allowance) (more : Nat) :
    more ≤ (out.reserve allowance more).room := by
  unfold reserve
  split
  · have hle := allowance.le_grown out.capacity (out.bytes.length + more)
    unfold room
    simp only
    omega
  · omega

theorem le_room_reserve_asked (out : Output) (allowance : Allowance)
    (writer : Writer) (length : Nat) :
    16 ≤ (out.reserve allowance (allowance.asked writer length)).room := by
  have hroom := out.le_room_reserve allowance (allowance.asked writer length)
  unfold Allowance.asked at hroom ⊢
  omega

end Output

/-!
## Passes
-/

namespace Writer

/-- Why a pass stops. -/
inductive Stop where
  | inputEmpty
  | outputFull
  | unmappable (c : Char)
  deriving DecidableEq

/-- What a pass wrote, the text it left, the writer after it, and why it
stopped. -/
structure Pass where
  bytes : List UInt8
  rest : List Char
  writer : Writer
  stop : Stop
  deriving DecidableEq

/-- The pass with what was written before it. -/
def Pass.after (pass : Pass) (bytes : List UInt8) : Pass :=
  { pass with bytes := bytes ++ pass.bytes }

/-- Writes characters into the room.  The end of the text is closed only if
nothing is to follow. -/
def pass (allowance : Allowance) (last : Bool) (writer : Writer) (room : Nat) :
    List Char -> Pass
  | [] =>
      if !last then ⟨[], [], writer, .inputEmpty⟩
      else if room < writer.closing.length then ⟨[], [], writer, .outputFull⟩
      else ⟨writer.closing, [], writer.closed, .inputEmpty⟩
  | c :: rest =>
      if room < allowance.demand writer c then
        ⟨[], c :: rest, writer, .outputFull⟩
      else
        let attempt := writer.attempt c
        if attempt.mapped then
          (pass allowance last attempt.writer (room - attempt.bytes.length)
              rest).after
            attempt.bytes
        else ⟨attempt.bytes, rest, attempt.writer, .unmappable c⟩

theorem length_bytes_pass (allowance : Allowance) (last : Bool)
    (writer : Writer) (room : Nat) (text : List Char) :
    (writer.pass allowance last room text).bytes.length ≤ room := by
  induction text generalizing writer room with
  | nil =>
      unfold pass
      split
      · exact Nat.zero_le room
      · split
        · exact Nat.zero_le room
        · exact Nat.le_of_not_lt ‹_›
  | cons c rest ih =>
      have hdemand := allowance.length_le_demand writer c
      rw [pass]
      split
      · exact Nat.zero_le room
      · simp only
        split
        · have hrest :=
            ih (writer.attempt c).writer
              (room - (writer.attempt c).bytes.length)
          simp only [Pass.after, List.length_append]
          omega
        · simp only
          omega

theorem length_rest_pass_le (allowance : Allowance) (last : Bool)
    (writer : Writer) (room : Nat) (text : List Char) :
    (writer.pass allowance last room text).rest.length ≤ text.length := by
  induction text generalizing writer room with
  | nil =>
      unfold pass
      split
      · exact Nat.le_refl 0
      · split <;> exact Nat.le_refl 0
  | cons c rest ih =>
      rw [pass]
      split
      · exact Nat.le_refl _
      · simp only
        split
        · exact Nat.le_succ_of_le (ih _ _)
        · exact Nat.le_succ _

/-- A character that there is room for is not left. -/
theorem length_rest_pass_cons_lt {allowance : Allowance} {writer : Writer}
    {room : Nat} {c : Char} (hroom : Not (room < allowance.demand writer c))
    (last : Bool) (rest : List Char) :
    (writer.pass allowance last room (c :: rest)).rest.length <
      (c :: rest).length := by
  rw [pass, if_neg hroom]
  simp only
  split
  · exact Nat.lt_succ_of_le (length_rest_pass_le _ _ _ _ _)
  · exact Nat.lt_succ_self _

/-- With room for any one character, a pass comes past the first, unless the
text has ended. -/
theorem length_rest_pass_lt (allowance : Allowance) (last : Bool)
    (writer : Writer) {room : Nat} (hroom : 16 ≤ room) {text : List Char}
    (h : (writer.pass allowance last room text).stop ≠ .inputEmpty) :
    (writer.pass allowance last room text).rest.length < text.length := by
  cases text with
  | nil =>
      have hclosing := writer.length_closing_le
      unfold pass at h
      split at h
      · exact absurd rfl h
      · rw [if_neg (by omega)] at h
        exact absurd rfl h
  | cons c rest =>
      have hdemand := allowance.demand_le writer c
      exact length_rest_pass_cons_lt (by omega) last rest

/-- A pass that stops at a character that is not in the encoding comes past
it. -/
theorem length_rest_pass_of_unmappable {allowance : Allowance} {last : Bool}
    {writer : Writer} {room : Nat} {text : List Char} {c : Char}
    (h : (writer.pass allowance last room text).stop = .unmappable c) :
    (writer.pass allowance last room text).rest.length < text.length := by
  cases text with
  | nil =>
      unfold pass at h
      split at h
      · cases h
      · split at h <;> cases h
  | cons d rest =>
      by_cases hroom : room < allowance.demand writer d
      · rw [pass, if_pos hroom] at h
        cases h
      · exact length_rest_pass_cons_lt hroom last rest

/-!
## The loop
-/

/-- What is left to do.  A pass without room for a character leaves the text as
it is, but the next one has room. -/
def left (out : Output) (text : List Char) : Nat :=
  2 * text.length + if out.room < 16 then 1 else 0

theorem left_lt_of_shorter {out more : Output} {text rest : List Char}
    (h : rest.length < text.length) : left more rest < left out text := by
  unfold left
  split <;> split <;> omega

theorem left_lt_of_full {allowance : Allowance} {last : Bool} {writer : Writer}
    {out more : Output} {text : List Char} (hmore : 16 ≤ more.room)
    (h : (writer.pass allowance last out.room text).stop = .outputFull) :
    left more (writer.pass allowance last out.room text).rest <
      left out text := by
  by_cases hroom : 16 ≤ out.room
  · apply left_lt_of_shorter
    exact length_rest_pass_lt allowance last writer hroom (by rw [h]; nofun)
  · have hrest := length_rest_pass_le allowance last writer out.room text
    unfold left
    rw [if_neg (by omega), if_pos (by omega)]
    omega

/-- Passes over the text, with more room or a question mark between them. -/
def run (allowance : Allowance) (writer : Writer) (out : Output)
    (text : List Char) : List UInt8 :=
  let pass := writer.pass allowance true out.room text
  let written :=
    out.append pass.bytes
      (length_bytes_pass allowance true writer out.room text)
  match _hstop : pass.stop with
  | .inputEmpty => written.bytes
  | .outputFull =>
      let length := (Utf8.encode pass.rest).length
      run allowance pass.writer
        (written.reserve allowance (allowance.asked pass.writer length))
          pass.rest
  | .unmappable _ =>
      let roomy := written.reserve allowance (allowance.asked pass.writer 1)
      let mark := pass.writer.pass allowance false roomy.room ['?']
      run allowance mark.writer
        (roomy.append mark.bytes
          (length_bytes_pass allowance false pass.writer roomy.room ['?']))
        pass.rest
termination_by left out text
decreasing_by
  · exact left_lt_of_full
      (written.le_room_reserve_asked allowance pass.writer length) _hstop
  · exact left_lt_of_shorter (length_rest_pass_of_unmappable _hstop)

end Writer

/-- The bytes of a text that is written into a buffer.  UTF-8 is what the text
is held in. -/
def Encoding.write (allowance : Allowance) : Encoding -> List Char -> List UInt8
  | .utf8, text => Utf8.encode text
  | encoding, text =>
      let writer := Writer.start encoding
      let length := (Utf8.encode text).length
      let capacity := (allowance.estimate writer length).getD (length * 2)
      writer.run allowance (.empty (allowance.grown 0 capacity)) text

end Charset
end Reshape
