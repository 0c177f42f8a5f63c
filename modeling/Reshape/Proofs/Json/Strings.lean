import Reshape.Json.Printer
import Reshape.Json.Reader

/-!
# Strings in JSON

What is written for a character is read as that character, be it escaped or not,
and what is written for a string is read up to the quote that closes it.
Nothing that is written for a string breaks the line.
-/

namespace Reshape
namespace Json

/-!
## Escapes
-/

theorem unescape?_of_shortEscape? {c e : Char} (h : shortEscape? c = some e) :
    e ≠ 'u' ∧ unescape? e = some c := by
  unfold shortEscape? at h
  repeat' split at h
  all_goals
    first
    | cases h
      subst_vars
      exact ⟨by decide, rfl⟩
    | cases h

theorem hexDigit?_digitChar {d : Nat} (h : d < 16) :
    hexDigit? (Nat.digitChar d) = some d := by
  have hall : forall d, d < 16 -> hexDigit? (Nat.digitChar d) = some d := by
    decide
  exact hall d h

theorem hexCode?_of_lt {n : Nat} (h : n < 0x100) :
    hexCode? '0' '0' (Nat.digitChar (n / 16)) (Nat.digitChar (n % 16)) =
      some n := by
  have hzero : hexDigit? '0' = some 0 := rfl
  have hhigh := hexDigit?_digitChar (d := n / 16) (by lia)
  have hlow := hexDigit?_digitChar (d := n % 16) (by lia)
  have hvalue : ((0 * 16 + 0) * 16 + n / 16) * 16 + n % 16 = n := by lia
  unfold hexCode?
  rw [hzero, hhigh, hlow]
  exact congrArg some hvalue

theorem escaped?_of_lt {c : Char} (h : c.toNat < 0x20) (rest : List Char) :
    escaped? c.toNat rest = some (c, 0) := by
  have htrail : isTrailSurrogate c.toNat = false := by
    unfold isTrailSurrogate
    rw [decide_eq_false (by lia)]
    rfl
  have hlead : isLeadSurrogate c.toNat = false := by
    unfold isLeadSurrogate
    rw [decide_eq_false (by lia)]
    rfl
  unfold escaped?
  simp only [htrail, hlead, Bool.false_eq_true, if_false, Char.ofNat_toNat]

theorem ne_of_shortEscape?_eq_none {c : Char} (h : shortEscape? c = none) :
    c ≠ '"' ∧ c ≠ '\\' ∧ c ≠ '\n' := by
  refine ⟨?_, ?_, ?_⟩ <;>
    · intro heq
      subst heq
      cases h

/-!
## Strings
-/

theorem stringChars?_escapeChar (c : Char) (rest : List Char) :
    stringChars? (escapeChar c ++ rest) =
      (stringChars? rest).map fun read => (c :: read.1, read.2) := by
  have hmap : forall read? : Option (List Char × List Char),
      (read?.bind fun read => some (c :: read.1, read.2)) =
        read?.map fun read => (c :: read.1, read.2) := by
    intro read?
    cases read? <;> rfl
  unfold escapeChar
  cases hshort : shortEscape? c with
  | some e =>
      rcases unescape?_of_shortEscape? hshort with ⟨hnot, hback⟩
      show stringChars? ('\\' :: e :: rest) = _
      rw [stringChars?.eq_4 e rest fun _ _ _ _ _ heq _ => hnot heq, hback]
      exact hmap (stringChars? rest)
  | none =>
      rcases ne_of_shortEscape?_eq_none hshort with ⟨hquote, hbackslash, _⟩
      by_cases hcontrol : c.toNat < 0x20
      · simp only [if_pos hcontrol]
        show stringChars?
              ('\\' :: 'u' :: '0' :: '0' :: Nat.digitChar (c.toNat / 16) ::
                Nat.digitChar (c.toNat % 16) :: rest) =
            _
        rw [stringChars?.eq_3,
          hexCode?_of_lt (Nat.lt_trans hcontrol (by decide))]
        simp only [escaped?_of_lt hcontrol, List.drop_zero]
        exact hmap (stringChars? rest)
      · simp only [if_neg hcontrol]
        show stringChars? (c :: rest) = _
        rw [stringChars?.eq_5 c rest hquote
          (fun _ _ _ _ _ heq _ => hbackslash heq)
          fun _ _ heq _ => hbackslash heq]
        simp only [hbackslash, hcontrol, decide_false, Bool.or_self,
          Bool.false_eq_true, if_false]
        exact hmap (stringChars? rest)

theorem stringChars?_flatMap_escapeChar (cs rest : List Char) :
    stringChars? (cs.flatMap escapeChar ++ '"' :: rest) = some (cs, rest) := by
  induction cs with
  | nil => exact stringChars?.eq_2 rest
  | cons c cs ih =>
      rw [List.flatMap_cons, List.append_assoc, stringChars?_escapeChar, ih]
      rfl

theorem string?_renderString (s : String) (rest : List Char) :
    string? (renderString s ++ rest) = some (s, rest) := by
  have htext : renderString s ++ rest =
      '"' :: (s.toList.flatMap escapeChar ++ '"' :: rest) := by
    show '"' :: (s.toList.flatMap escapeChar ++ ['"'] ++ rest) = _
    rw [List.append_assoc]
    rfl
  rw [htext, string?, stringChars?_flatMap_escapeChar]
  exact congrArg (fun s => some (s, rest)) String.ofList_toList

/-!
## Lines
-/

theorem newline_not_mem_escapeChar (c : Char) : Not ('\n' ∈ escapeChar c) := by
  unfold escapeChar
  cases hshort : shortEscape? c with
  | some e =>
      intro hmem
      rcases unescape?_of_shortEscape? hshort with ⟨_, hback⟩
      simp only [List.mem_cons, List.not_mem_nil, or_false] at hmem
      rcases hmem with hmem | rfl
      · exact absurd hmem (by decide)
      · cases hback
  | none =>
      rcases ne_of_shortEscape?_eq_none hshort with ⟨_, _, hnewline⟩
      by_cases hcontrol : c.toNat < 0x20
      · have hdigits : forall d, d < 16 -> '\n' ≠ Nat.digitChar d := by decide
        have hhigh := hdigits (c.toNat / 16) (by lia)
        have hlow := hdigits (c.toNat % 16) (by lia)
        simp [hcontrol, hhigh, hlow]
      · simp [hcontrol, hnewline.symm]

theorem newline_not_mem_renderString (s : String) :
    Not ('\n' ∈ renderString s) := by
  intro hmem
  unfold renderString at hmem
  simp only [List.cons_append, List.mem_cons, List.mem_append, List.mem_flatMap,
    List.not_mem_nil, or_false] at hmem
  rcases hmem with hmem | ⟨c, _, hmem⟩ | hmem
  · exact absurd hmem (by decide)
  · exact newline_not_mem_escapeChar c hmem
  · exact absurd hmem (by decide)

end Json
end Reshape
