import Reshape.Proofs.Charset.Ascii

/-!
# ASCII around UTF-16

A code unit takes two bytes, so single bytes put around UTF-16 are never read as
the characters that they are in ASCII.  Of two such bytes or more this is a
matter of counting code units.  One byte at the end is cut short, and one byte
in front puts each code unit after it out of step.
-/

namespace Reshape
namespace Charset
namespace Utf16

open Unicode

/-!
## Counting code units
-/

def width (c : Char) : Nat :=
  if c.toNat < 0x10000 then 1 else 2

def units : List Char -> Nat
  | [] => 0
  | c :: cs => width c + units cs

theorem units_append (xs ys : List Char) :
    units (xs ++ ys) = units xs + units ys := by
  induction xs with
  | nil => exact (Nat.zero_add _).symm
  | cons c xs ih => rw [List.cons_append, units, units, ih, Nat.add_assoc]

theorem width_of_lt {c : Char} (h : c.toNat < 0x10000) : width c = 1 :=
  if_pos h

theorem units_byteChars (bytes : List UInt8) :
    units (bytes.map byteChar) = bytes.length := by
  induction bytes with
  | nil => rfl
  | cons b rest ih =>
      have hb := b.toNat_lt
      have hwidth : width (byteChar b) = 1 :=
        width_of_lt (by rw [toNat_byteChar]; lia)
      rw [List.map_cons, units, ih, hwidth, List.length_cons, Nat.add_comm]

theorem codeUnit_lt (order : ByteOrder) (a b : UInt8) :
    order.codeUnit a b < 0x10000 := by
  have ha := a.toNat_lt
  have hb := b.toNat_lt
  cases order <;>
    · simp only [ByteOrder.codeUnit]
      lia

theorem toNat_of_charOf? {code : Nat} {c : Char} (h : charOf? code = some c) :
    c.toNat = code := by
  unfold charOf? at h
  split at h
  · rename_i hvalid
    cases h
    exact Utf8.toNat_charOfNat hvalid
  · cases h

theorem toNat_pair {lead trail : Nat} (hlead : 0xD800 ≤ lead ∧ lead ≤ 0xDBFF)
    (htrail : 0xDC00 ≤ trail ∧ trail ≤ 0xDFFF) :
    (Char.ofNat (0x10000 + (lead - 0xD800) * 0x400 + (trail - 0xDC00))).toNat =
      0x10000 + (lead - 0xD800) * 0x400 + (trail - 0xDC00) :=
  Utf8.toNat_charOfNat (by lia)

theorem units_single (c : Char) : units (lossy [some c]) = width c :=
  Nat.add_zero _

theorem units_pair {lead trail : Nat} (hlead : 0xD800 ≤ lead ∧ lead ≤ 0xDBFF)
    (htrail : 0xDC00 ≤ trail ∧ trail ≤ 0xDFFF) :
    units
        (lossy
          [some (Char.ofNat
            (0x10000 + (lead - 0xD800) * 0x400 + (trail - 0xDC00)))]) =
      2 := by
  rw [units_single]
  unfold width
  rw [toNat_pair hlead htrail, if_neg (by lia)]

theorem units_none : units (lossy [none]) = 1 := by
  decide

/-- A piece of two bytes or more has no more code units than fit into its bytes,
and just as many if there is no fault in it. -/
theorem units_piece (order : ByteOrder) (a b : UInt8) (rest : List UInt8) :
    2 * units (lossy (piece order a (b :: rest)).chars) ≤
      (piece order a (b :: rest)).used + 1 ∧
      (Faultless (piece order a (b :: rest)).chars ->
        2 * units (lossy (piece order a (b :: rest)).chars) =
          (piece order a (b :: rest)).used + 1) := by
  unfold piece
  simp only
  split
  · rename_i hlead
    unfold pairPiece
    split
    · simp only
      split
      · rename_i htrail
        rw [units_pair hlead htrail]
        exact ⟨Nat.le_refl 4, fun _ => rfl⟩
      · exact ⟨Nat.le_refl 2, fun h => absurd h (not_faultless_none [])⟩
    · refine ⟨?_, fun h => absurd h (not_faultless_none [])⟩
      rw [units_none]
      lia
  · cases hchar : charOf? (order.codeUnit a b) with
    | none => exact ⟨Nat.le_refl 2, fun h => absurd h (not_faultless_none [])⟩
    | some c =>
        have hcode := codeUnit_lt order a b
        rw [units_single,
          width_of_lt (by rw [toNat_of_charOf? hchar]; exact hcode)]
        exact ⟨Nat.le_refl 2, fun _ => rfl⟩

theorem used_piece_le (order : ByteOrder) (a : UInt8) (rest : List UInt8) :
    (piece order a rest).used ≤ rest.length := by
  match rest with
  | [] => exact Nat.le_refl 0
  | b :: rest =>
      unfold piece
      simp only
      split
      · unfold pairPiece
        split
        · simp only
          split <;>
            · simp only [List.length_cons]
              lia
        · simp only [List.length_cons]
          lia
      · simp only [List.length_cons]
        lia

theorem units_lossy_readPieces (order : ByteOrder) (bytes : List UInt8) :
    2 * units (lossy (readPieces (piece order) bytes)) ≤ bytes.length + 1 ∧
      (Faultless (readPieces (piece order) bytes) ->
        2 * units (lossy (readPieces (piece order) bytes)) = bytes.length) := by
  induction hlength : bytes.length using Nat.strongRecOn generalizing bytes with
  | ind n ih =>
      match bytes with
      | [] =>
          rw [readPieces_nil]
          subst hlength
          exact ⟨Nat.zero_le _, fun _ => rfl⟩
      | [a] =>
          rw [readPieces, faultless_append, List.drop_nil, readPieces_nil,
            List.append_nil]
          subst hlength
          exact ⟨Nat.le_refl 2, fun h => absurd h.left (not_faultless_none [])⟩
      | a :: b :: rest =>
          have hused := used_piece_le order a (b :: rest)
          rcases units_piece order a b rest with ⟨hpiece, hwhole⟩
          rw [List.length_cons] at hlength
          have hleft :
              ((b :: rest).drop (piece order a (b :: rest)).used).length =
                n - 1 - (piece order a (b :: rest)).used := by
            rw [List.length_drop]
            lia
          rcases ih _ (by lia) _ hleft with ⟨hrest, hrestWhole⟩
          have hsplit :
              units (lossy (readPieces (piece order) (a :: b :: rest))) =
                units (lossy (piece order a (b :: rest)).chars) +
                  units
                    (lossy
                      (readPieces (piece order)
                        ((b :: rest).drop
                          (piece order a (b :: rest)).used))) := by
            rw [readPieces, lossy, List.map_append, units_append]
            rfl
          rw [hsplit, readPieces, faultless_append]
          constructor
          · lia
          · intro h
            have hpiece := hwhole h.left
            have hrest := hrestWhole h.right
            lia

theorem length_le_units (cs : List Char) : cs.length ≤ units cs := by
  induction cs with
  | nil => exact Nat.le_refl 0
  | cons c cs ih =>
      have hwidth : 1 ≤ width c := by
        unfold width
        split <;> decide
      rw [List.length_cons, units]
      lia

theorem length_readPieces_le {order : ByteOrder} {bytes : List UInt8}
    (h : Faultless (readPieces (piece order) bytes)) :
    2 * (readPieces (piece order) bytes).length ≤ bytes.length := by
  have hunits := (units_lossy_readPieces order bytes).right h
  have hlength := length_le_units (lossy (readPieces (piece order) bytes))
  rw [lossy, List.length_map] at hlength
  unfold lossy at hunits
  lia

/-!
## The first character
-/

def leadUnit (c : Char) : Nat :=
  if c.toNat < 0x10000 then c.toNat else 0xD800 + (c.toNat - 0x10000) / 0x400

theorem leadUnit_of_readPieces {order : ByteOrder} {a b : UInt8}
    {rest : List UInt8} {c : Char} {more : List (Option Char)}
    (h : readPieces (piece order) (a :: b :: rest) = some c :: more) :
    leadUnit c = order.codeUnit a b ∧
      (c.toNat < 0x10000 -> more = readPieces (piece order) rest) := by
  have hcode := codeUnit_lt order a b
  rw [readPieces] at h
  unfold piece at h
  simp only at h
  split at h
  · rename_i hlead
    unfold pairPiece at h
    split at h
    · simp only at h
      split at h
      · rename_i htrail
        injection h with hchar _
        injection hchar with hchar
        have hvalue := toNat_pair hlead htrail
        rw [hchar] at hvalue
        unfold leadUnit
        rw [if_neg (by lia), hvalue]
        refine ⟨?_, fun hsmall => ?_⟩ <;> lia
      · injection h with hnone _
        cases hnone
    · injection h with hnone _
      cases hnone
  · injection h with hchar hmore
    have hvalue := toNat_of_charOf? hchar
    unfold leadUnit
    rw [hvalue, if_pos hcode]
    exact ⟨rfl, fun _ => hmore.symm⟩

theorem exists_of_lossy_eq_cons {read : List (Option Char)} {c : Char}
    {more : List Char} (h : lossy read = c :: more) (hc : c ≠ replacement) :
    exists rest, read = some c :: rest ∧ lossy rest = more := by
  cases read with
  | nil => cases h
  | cons first rest =>
      injection h with hfirst hrest
      cases first with
      | none => exact absurd hfirst.symm hc
      | some d =>
          have hd : d = c := hfirst
          exact ⟨rest, by rw [hd], hrest⟩

theorem toNat_replacement : replacement.toNat = 0xFFFD := by
  decide

theorem byteChar_ne_replacement (b : UInt8) : byteChar b ≠ replacement := by
  intro heq
  have hnat := congrArg Char.toNat heq
  have hb := b.toNat_lt
  rw [toNat_byteChar, toNat_replacement] at hnat
  lia

theorem readPieces_ne_nil (order : ByteOrder) (a : UInt8) (rest : List UInt8) :
    readPieces (piece order) (a :: rest) ≠ [] := by
  have hpiece : (piece order a rest).chars ≠ [] := by
    unfold piece pairPiece
    split
    · exact List.cons_ne_nil _ _
    · dsimp only
      split
      · split
        · split <;> exact List.cons_ne_nil _ _
        · exact List.cons_ne_nil _ _
      · exact List.cons_ne_nil _ _
  rw [readPieces]
  exact List.append_ne_nil_of_left_ne_nil hpiece _

theorem readPieces_single (order : ByteOrder) (a : UInt8) :
    readPieces (piece order) [a] = [none] := by
  rw [readPieces, List.drop_nil, readPieces_nil]
  rfl

/-!
## One byte more
-/

theorem eq_zero_of_codeUnit_eq {order : ByteOrder} {a b : UInt8}
    (h : order.codeUnit a b = a.toNat) : b = 0 := by
  have hb := b.toNat_lt
  have hzero : b.toNat = 0 := by
    cases order <;>
      · simp only [ByteOrder.codeUnit] at h
        lia
  exact UInt8.toNat_inj.mp hzero

theorem eq_zero_of_codeUnit_eq_zero {order : ByteOrder} {a b : UInt8}
    (h : order.codeUnit a b = order.codeUnit 0 a) : a = 0 := by
  have ha := a.toNat_lt
  have hzero : a.toNat = 0 := by
    cases order <;>
      · simp only [ByteOrder.codeUnit, UInt8.toNat_zero] at h
        lia
  exact UInt8.toNat_inj.mp hzero

/-- A byte that is read as itself is followed by a zero, and after that the text
is out of step. -/
theorem zero_of_readPieces_cons {order : ByteOrder} {c : UInt8}
    {bytes : List UInt8}
    (h : lossy (readPieces (piece order) (c :: bytes)) =
      byteChar c :: lossy (readPieces (piece order) bytes)) :
    exists rest, bytes = 0 :: rest ∧
      lossy (readPieces (piece order) rest) =
        lossy (readPieces (piece order) (0 :: rest)) := by
  rcases exists_of_lossy_eq_cons h (byteChar_ne_replacement c) with
    ⟨more, hread, hmore⟩
  cases bytes with
  | nil =>
      rw [readPieces_single] at hread
      cases hread
  | cons b rest =>
      rcases leadUnit_of_readPieces hread with ⟨hunit, hleft⟩
      have hc := c.toNat_lt
      have hsmall : (byteChar c).toNat < 0x10000 := by
        rw [toNat_byteChar]
        lia
      unfold leadUnit at hunit
      rw [if_pos hsmall, toNat_byteChar] at hunit
      have hb := eq_zero_of_codeUnit_eq hunit.symm
      subst hb
      rw [hleft hsmall] at hmore
      exact ⟨rest, rfl, hmore⟩

theorem zero_of_readPieces_eq {order : ByteOrder} {bytes : List UInt8}
    (hread : Faultless (readPieces (piece order) (0 :: bytes)))
    (h : lossy (readPieces (piece order) bytes) =
      lossy (readPieces (piece order) (0 :: bytes))) :
    exists rest, bytes = 0 :: rest ∧ Faultless (readPieces (piece order) rest) ∧
      lossy (readPieces (piece order) (0 :: rest)) =
        byteChar 0 :: lossy (readPieces (piece order) rest) := by
  cases bytes with
  | nil =>
      rw [readPieces_single] at hread
      exact absurd hread (not_faultless_none [])
  | cons b rest =>
      rcases List.exists_cons_of_ne_nil
        (readPieces_ne_nil order 0 (b :: rest)) with
        ⟨first, others, hfirst⟩
      rw [hfirst] at hread h
      rcases faultless_cons.mp hread with ⟨hsome, hothers⟩
      rcases Option.isSome_iff_exists.mp hsome with ⟨d, rfl⟩
      have hcons :
          lossy (readPieces (piece order) (b :: rest)) = d :: lossy others := h
      rcases leadUnit_of_readPieces hfirst with ⟨hunit, hleft⟩
      have hd : d ≠ replacement := by
        rintro rfl
        have hb := b.toNat_lt
        unfold leadUnit at hunit
        rw [toNat_replacement, if_pos (by decide)] at hunit
        cases order <;>
          · simp only [ByteOrder.codeUnit, UInt8.toNat_zero] at hunit
            lia
      rcases exists_of_lossy_eq_cons hcons hd with ⟨more, hstep, _⟩
      cases rest with
      | nil =>
          rw [readPieces_single] at hstep
          cases hstep
      | cons b' rest =>
          have hb : b = 0 := by
            rw [(leadUnit_of_readPieces hstep).left] at hunit
            exact eq_zero_of_codeUnit_eq_zero hunit
          subst hb
          have hzero : d.toNat = 0 := by
            unfold leadUnit at hunit
            cases order <;>
              · simp only [ByteOrder.codeUnit, UInt8.toNat_zero] at hunit
                split at hunit <;> lia
          have hd : d = byteChar 0 :=
            Char.toNat_inj.mp (by rw [hzero, toNat_byteChar]; rfl)
          rw [hleft (by lia)] at hothers hcons
          rw [hd] at hcons
          exact ⟨b' :: rest, rfl, hothers, hcons⟩

/-- If one byte in front of a text were read as itself, each byte after it would
have to be zero, up to the last, which is cut short. -/
theorem lossy_readPieces_cons_ne (order : ByteOrder) (c : UInt8)
    {bytes : List UInt8} (h : Faultless (readPieces (piece order) bytes)) :
    lossy (readPieces (piece order) (c :: bytes)) ≠
      byteChar c :: lossy (readPieces (piece order) bytes) := by
  induction hlength : bytes.length using Nat.strongRecOn
    generalizing c bytes with
  | ind n ih =>
      intro heq
      rcases zero_of_readPieces_cons heq with ⟨rest, rfl, hsame⟩
      rcases zero_of_readPieces_eq h hsame with ⟨rest, rfl, hrest, hagain⟩
      simp only [List.length_cons] at hlength
      exact ih rest.length (by lia) 0 hrest rfl hagain

theorem lossy_readPieces_concat_ne (order : ByteOrder) (c : UInt8)
    {bytes : List UInt8} (h : Faultless (readPieces (piece order) bytes)) :
    lossy (readPieces (piece order) (bytes ++ [c])) ≠
      lossy (readPieces (piece order) bytes) ++ [byteChar c] := by
  intro heq
  rw [readPieces_append (completes_utf16 order) h, readPieces_single, lossy,
    List.map_append] at heq
  injection List.append_cancel_left heq with hlast _
  exact byteChar_ne_replacement c hlast.symm

/-- No bytes put around UTF-16 are read as themselves. -/
theorem lossy_readPieces_around_ne (order : ByteOrder)
    {before bytes after : List UInt8}
    (h : Faultless (readPieces (piece order) bytes))
    (haround : before ++ after ≠ []) :
    lossy (readPieces (piece order) (before ++ bytes ++ after)) ≠
      before.map byteChar ++ lossy (readPieces (piece order) bytes) ++
        after.map byteChar := by
  intro heq
  have hunits := (units_lossy_readPieces order (before ++ bytes ++ after)).left
  have hinner := (units_lossy_readPieces order bytes).right h
  rw [heq, units_append, units_append, units_byteChars, units_byteChars,
    List.length_append, List.length_append] at hunits
  have hone : before.length + after.length ≤ 1 := by lia
  match before, after with
  | [], [] => exact haround rfl
  | [c], [] =>
      rw [List.append_nil, List.map_nil, List.append_nil] at heq
      exact lossy_readPieces_cons_ne order c h heq
  | [], [c] => exact lossy_readPieces_concat_ne order c h heq
  | _ :: _ :: _, _ =>
      simp only [List.length_cons] at hone
      lia
  | _ :: _, _ :: _ =>
      simp only [List.length_cons] at hone
      lia
  | _, _ :: _ :: _ =>
      simp only [List.length_cons] at hone
      lia

end Utf16
end Charset
end Reshape
