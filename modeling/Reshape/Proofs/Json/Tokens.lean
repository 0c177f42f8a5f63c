import Mathlib.Data.List.TakeWhile
import Reshape.Proofs.Json.Compact
import Reshape.Proofs.Json.Lists

/-!
# The texts of tokens

What is read for a numeral or a string has a text of its own, and is read from
the same text whatever comes after it.  The text of a numeral holds no spaces,
and that of a string none that could be left out.
-/

namespace Reshape
namespace Json

/-!
## Spaces
-/

theorem isSpace_iff {c : Char} :
    isSpace c = true <-> c = ' ' ∨ c = '\t' ∨ c = '\n' ∨ c = '\r' := by
  simp [isSpace, or_assoc]

theorem extendsNumeral_of_isSpace {c : Char} (h : isSpace c = true) :
    extendsNumeral c = false := by
  rcases isSpace_iff.mp h with rfl | rfl | rfl | rfl <;> rfl

theorem spaces_nil : Spaces [] :=
  fun _ => nofun

theorem skipSpace_spaces_append {pad : List Char} (h : Spaces pad)
    (rest : List Char) : skipSpace (pad ++ rest) = skipSpace rest :=
  List.dropWhile_append_of_pos h

theorem skipSpace_front {pad : List Char} (h : Spaces pad) {c : Char}
    (hc : isSpace c = false) (rest : List Char) :
    skipSpace (pad ++ c :: rest) = c :: rest := by
  rw [skipSpace_spaces_append h, skipSpace_cons hc]

theorem exists_of_skipSpace {cs : List Char} {c : Char} {rest : List Char}
    (h : skipSpace cs = c :: rest) :
    exists pad, cs = pad ++ c :: rest ∧ Spaces pad ∧ isSpace c = false := by
  refine ⟨cs.takeWhile isSpace, ?_, ?_, ?_⟩
  · rw [← h]
    exact List.takeWhile_append_dropWhile.symm
  · intro d hd
    exact List.mem_takeWhile_imp hd
  · have hhead := List.head?_dropWhile_not isSpace cs
    unfold skipSpace at h
    rw [h] at hhead
    simpa using hhead

theorem stops_spaces_append {pad : List Char} (h : Spaces pad)
    {rest : List Char} (hrest : Stops rest) : Stops (pad ++ rest) := by
  cases pad with
  | nil => exact hrest
  | cons c pad => exact extendsNumeral_of_isSpace (h c List.mem_cons_self)

/-!
## Numerals
-/

namespace Numeral

def isPart (c : Char) : Bool :=
  extendsNumeral c || c == '+' || c == '-'

theorem isPart_of_isDigit {c : Char} (h : c.isDigit = true) :
    isPart c = true := by
  simp [isPart, extendsNumeral, h]

theorem solid_of_isPart {c : Char} (h : isPart c = true) :
    isSpace c = false ∧ c ≠ '"' := by
  refine ⟨?_, ?_⟩
  · cases hspace : isSpace c with
    | false => rfl
    | true =>
        rcases isSpace_iff.mp hspace with rfl | rfl | rfl | rfl <;> cases h
  · rintro rfl
    cases h

theorem digits?_eq_some {cs ds rest : List Char}
    (h : digits? cs = some (ds, rest)) :
    cs = ds ++ rest ∧ ds ≠ [] ∧ forall c, c ∈ ds -> c.isDigit = true := by
  unfold digits? at h
  split at h
  · cases h
  · rename_i hsome
    cases h
    exact ⟨List.takeWhile_append_dropWhile.symm, hsome,
      fun c hc => List.mem_takeWhile_imp hc⟩

theorem whole?_eq_some {cs ds rest : List Char}
    (h : whole? cs = some (ds, rest)) : cs = ds ++ rest ∧ Whole ds := by
  unfold whole? at h
  split at h
  · split at h
    · cases h
      exact ⟨rfl, .inl rfl⟩
    · split at h
      · cases h
      · cases h
        exact ⟨rfl, .inl rfl⟩
  · rename_i hzero
    rcases digits?_eq_some h with ⟨rfl, hsome, hdigits⟩
    cases ds with
    | nil => exact absurd rfl hsome
    | cons d more =>
        refine ⟨rfl, .inr ⟨d, more, rfl, ?_, hdigits⟩⟩
        rintro rfl
        exact hzero (more ++ rest) rfl

theorem fraction?_eq_some {cs rest : List Char} {fraction : Option (List Char)}
    (h : fraction? cs = some (fraction, rest)) :
    cs = fractionChars fraction ++ rest ∧
      forall ds, fraction = some ds ->
        ds ≠ [] ∧ forall c, c ∈ ds -> c.isDigit = true := by
  unfold fraction? at h
  split at h
  · rcases Option.map_eq_some_iff.mp h with ⟨⟨ds, left⟩, hdigits, heq⟩
    cases heq
    rcases digits?_eq_some hdigits with ⟨rfl, hsome, hall⟩
    refine ⟨rfl, ?_⟩
    intro ds' heq
    cases heq
    exact ⟨hsome, hall⟩
  · cases h
    exact ⟨rfl, nofun⟩

theorem isPart_of_mem_fractionChars {fraction : Option (List Char)}
    (h : forall ds, fraction = some ds -> forall c, c ∈ ds -> c.isDigit = true)
    {c : Char} (hc : c ∈ fractionChars fraction) : isPart c = true := by
  cases fraction with
  | none => cases hc
  | some ds =>
      rcases List.mem_cons.mp hc with rfl | hc
      · rfl
      · exact isPart_of_isDigit (h ds rfl c hc)

theorem exponentDigits?_eq_some {negative : Bool} {cs rest : List Char}
    {exponent : Option Int}
    (h : exponentDigits? negative cs = some (exponent, rest)) :
    exists d ds, cs = d :: ds ++ rest ∧
      (forall c, c ∈ d :: ds -> c.isDigit = true) ∧
      Reads (exponentDigits? negative) (d :: ds) exponent := by
  rcases Option.map_eq_some_iff.mp h with ⟨⟨ds, left⟩, hdigits, heq⟩
  cases heq
  rcases digits?_eq_some hdigits with ⟨rfl, hsome, hall⟩
  cases ds with
  | nil => exact absurd rfl hsome
  | cons d ds =>
      refine ⟨d, ds, rfl, hall, ?_⟩
      intro rest' hrest
      unfold exponentDigits?
      rw [digits?_append hall hsome (endsDigits_of_stops hrest)]
      rfl

theorem exists_sign {c : Char}
    (hletter : (decide (c = 'e') || decide (c = 'E')) = true)
    {cs rest : List Char} {exponent : Option Int}
    (h : exponent? (c :: cs) = some (exponent, rest)) :
    exists sign negative left, cs = sign ++ left ∧
      (forall d, d ∈ sign -> isPart d = true) ∧
      exponentDigits? negative left = some (exponent, rest) ∧
      forall d ds, d.isDigit = true ->
        exponent? (c :: (sign ++ d :: ds)) =
          exponentDigits? negative (d :: ds) := by
  replace h := (if_pos hletter).symm.trans h
  split at h
  · rename_i left
    exact ⟨['+'], false, left, rfl, by
      simp [isPart], h, fun d ds _ => if_pos hletter⟩
  · rename_i left
    exact ⟨['-'], true, left, rfl, by
      simp [isPart], h, fun d ds _ => if_pos hletter⟩
  · refine ⟨[], false, cs, rfl, nofun, h, ?_⟩
    intro d ds hd
    refine (if_pos hletter).trans ?_
    split
    · rename_i heq
      cases heq
      cases hd
    · rename_i heq
      cases heq
      cases hd
    · rfl

theorem exponent?_eq_some {cs rest : List Char} {exponent : Option Int}
    (h : exponent? cs = some (exponent, rest)) :
    exists text, cs = text ++ rest ∧ (forall c, c ∈ text -> isPart c = true) ∧
      (forall rest', Stops rest' -> EndsFraction (text ++ rest')) ∧
      Reads exponent? text exponent := by
  have hnone : (forall rest', Stops rest' -> EndsFraction ([] ++ rest')) ∧
      Reads exponent? [] none :=
    ⟨fun rest' => endsFraction_of_stops, fun rest' => exponent?_append none⟩
  cases cs with
  | nil =>
      cases h
      exact ⟨[], rfl, nofun, hnone⟩
  | cons c cs =>
      by_cases hletter : (decide (c = 'e') || decide (c = 'E')) = true
      · rcases exists_sign hletter h with
          ⟨sign, negative, left, rfl, hsign, hleft, hback⟩
        rcases exponentDigits?_eq_some hleft with ⟨d, ds, rfl, hdigits, hreads⟩
        have hc : isPart c = true ∧ c.isDigit = false ∧ c ≠ '.' := by
          simp only [Bool.or_eq_true, decide_eq_true_eq] at hletter
          rcases hletter with rfl | rfl <;> exact ⟨rfl, rfl, by decide⟩
        refine ⟨c :: (sign ++ d :: ds), by simp, ?_, fun _ _ => hc.right, ?_⟩
        · intro e he
          rcases List.mem_cons.mp he with rfl | he
          · exact hc.left
          · rcases List.mem_append.mp he with he | he
            · exact hsign e he
            · exact isPart_of_isDigit (hdigits e he)
        · intro rest' hrest
          rw [List.cons_append, List.append_assoc, List.cons_append,
            hback d _ (hdigits d List.mem_cons_self)]
          exact hreads rest' hrest
      · cases (if_neg hletter).symm.trans h
        exact ⟨[], rfl, nofun, hnone⟩

theorem unsigned?_eq_some {negative : Bool} {cs rest : List Char} {n : Numeral}
    (h : unsigned? negative cs = some (n, rest)) :
    exists d text, cs = d :: text ++ rest ∧ d.isDigit = true ∧
      (forall c, c ∈ d :: text -> isPart c = true) ∧
        Reads (unsigned? negative) (d :: text) n := by
  rcases Option.bind_eq_some_iff.mp h with ⟨⟨whole, left⟩, hwhole, h⟩
  rcases Option.bind_eq_some_iff.mp h with ⟨⟨fraction, left'⟩, hfraction, h⟩
  rcases Option.bind_eq_some_iff.mp h with ⟨⟨exponent, left''⟩, hexponent, heq⟩
  cases heq
  rcases whole?_eq_some hwhole with ⟨rfl, hproper⟩
  rcases fraction?_eq_some hfraction with ⟨rfl, hdigits⟩
  rcases exponent?_eq_some hexponent with ⟨text, rfl, hparts, hends, hreads⟩
  rcases hproper.exists_head with ⟨d, more, rfl, hd⟩
  refine ⟨d, more ++ (fractionChars fraction ++ text), by simp, hd, ?_, ?_⟩
  · intro c hc
    rw [← List.cons_append] at hc
    rcases List.mem_append.mp hc with hc | hc
    · exact isPart_of_isDigit (hproper.isDigit c hc)
    · rcases List.mem_append.mp hc with hc | hc
      · exact isPart_of_mem_fractionChars (fun ds heq => (hdigits ds heq).right)
          hc
      · exact hparts c hc
  · intro rest' hrest
    have hend := hends rest' hrest
    have htext : d :: (more ++ (fractionChars fraction ++ text)) ++ rest' =
        (d :: more) ++ (fractionChars fraction ++ (text ++ rest')) := by simp
    unfold unsigned?
    rw [htext, whole?_append hproper (endsDigits_fractionChars fraction hend)]
    show Option.bind (fraction? _) _ = _
    rw [fraction?_append hdigits hend]
    show Option.bind (exponent? _) _ = _
    rw [hreads rest' hrest]
    rfl

theorem read?_eq_some {cs rest : List Char} {n : Numeral}
    (h : read? cs = some (n, rest)) :
    exists c text, cs = c :: text ++ rest ∧
      (forall c', c' ∈ c :: text -> isPart c' = true) ∧
      Reads read? (c :: text) n := by
  unfold read? at h
  split at h
  · rcases unsigned?_eq_some h with ⟨d, text, rfl, _, hparts, hreads⟩
    refine ⟨'-', d :: text, rfl, ?_, hreads⟩
    intro c hc
    rcases List.mem_cons.mp hc with rfl | hc
    · rfl
    · exact hparts c hc
  · rcases unsigned?_eq_some h with ⟨d, text, rfl, hd, hparts, hreads⟩
    refine ⟨d, text, rfl, hparts, ?_⟩
    intro rest' hrest
    rw [read?.eq_2]
    · exact hreads rest' hrest
    · rintro other heq
      injection heq with hminus _
      rw [hminus] at hd
      cases hd

end Numeral

/-!
## Strings
-/

theorem ne_of_hexDigit? {c : Char} {n : Nat} (h : hexDigit? c = some n) :
    c ≠ '"' ∧ c ≠ '\\' ∧ c ≠ '\n' := by
  refine ⟨?_, ?_, ?_⟩ <;>
    · rintro rfl
      cases h

theorem ne_newline_of_unescape? {e c : Char} (h : unescape? e = some c) :
    e ≠ '\n' := by
  rintro rfl
  cases h

theorem quoted_hexDigit {c : Char} {n : Nat} (h : hexDigit? c = some n)
    {rest : List Char} (hrest : Quoted rest) : Quoted (c :: rest) := by
  rcases ne_of_hexDigit? h with ⟨hquote, hbackslash, hnewline⟩
  exact hrest.cons hquote hbackslash hnewline

theorem quoted_hexCode {a b c d : Char} {code : Nat}
    (h : hexCode? a b c d = some code) {rest : List Char}
    (hrest : Quoted rest) :
    Quoted ('\\' :: 'u' :: a :: b :: c :: d :: rest) := by
  rcases Option.bind_eq_some_iff.mp h with ⟨_, ha, h⟩
  rcases Option.bind_eq_some_iff.mp h with ⟨_, hb, h⟩
  rcases Option.bind_eq_some_iff.mp h with ⟨_, hc, h⟩
  rcases Option.bind_eq_some_iff.mp h with ⟨_, hd, _⟩
  have hdigits : Quoted (a :: b :: c :: d :: rest) :=
    quoted_hexDigit ha
      (quoted_hexDigit hb (quoted_hexDigit hc (quoted_hexDigit hd hrest)))
  exact hdigits.escape (by decide)

/-- The escape of a partner is all that an escape needs of the text behind
it. -/
theorem escaped?_eq_some {code : Nat} {cs : List Char} {char : Char}
    {used : Nat} (h : escaped? code cs = some (char, used)) :
    exists text, cs = text ++ cs.drop used ∧ Quoted text ∧ text.length = used ∧
      forall rest, escaped? code (text ++ rest) = some (char, used) := by
  unfold escaped? at h ⊢
  split at h
  · cases h
  · rename_i htrail
    split at h
    · rename_i hlead
      split at h
      · rename_i a b c d left
        cases hcode : hexCode? a b c d with
        | none =>
            rw [hcode] at h
            cases h
        | some trail =>
            simp only [hcode] at h
            split at h
            · rename_i hpartner
              rcases Prod.mk.inj (Option.some.inj h) with ⟨rfl, rfl⟩
              refine ⟨['\\', 'u', a, b, c, d], rfl,
                quoted_hexCode hcode .nil, rfl, ?_⟩
              intro rest
              simp [htrail, hlead, hcode, hpartner]
            · cases h
      · cases h
    · rename_i hlead
      rcases Prod.mk.inj (Option.some.inj h) with ⟨rfl, rfl⟩
      refine ⟨[], rfl, .nil, rfl, ?_⟩
      intro rest
      simp [htrail, hlead]

theorem exists_stringChars?_cons {char : Char} {cs chars rest : List Char}
    (h : (do let (chars, rest) ← stringChars? cs return (char :: chars, rest)) =
      some (chars, rest)) :
    exists others, chars = char :: others ∧
      stringChars? cs = some (others, rest) := by
  rcases Option.bind_eq_some_iff.mp h with ⟨⟨others, left⟩, hread, heq⟩
  cases heq
  exact ⟨others, rfl, hread⟩

/-- The text of a string stands on one line and holds no quote that is not
escaped. -/
theorem stringChars?_eq_some {cs chars rest : List Char}
    (h : stringChars? cs = some (chars, rest)) :
    exists text, cs = text ++ '"' :: rest ∧ Quoted text ∧
      forall rest',
        stringChars? (text ++ '"' :: rest') = some (chars, rest') := by
  induction cs using stringChars?.induct generalizing chars with
  | case1 =>
      rw [stringChars?.eq_1] at h
      cases h
  | case2 left =>
      rw [stringChars?.eq_2] at h
      cases h
      exact ⟨[], rfl, .nil, fun rest' => stringChars?.eq_2 rest'⟩
  | case3 a b c d left hcode =>
      simp only [stringChars?.eq_3, hcode] at h
      cases h
  | case4 a b c d left code hcode hescaped =>
      simp only [stringChars?.eq_3, hcode, hescaped] at h
      cases h
  | case5 a b c d left code hcode char used hescaped ih =>
      simp only [stringChars?.eq_3, hcode, hescaped] at h
      rcases exists_stringChars?_cons h with ⟨others, rfl, hothers⟩
      rcases ih hothers with ⟨text, htext, hquoted, hreads⟩
      rcases escaped?_eq_some hescaped with
        ⟨partner, hleft, hpartner, hlength, hback⟩
      -- The escape of a leading surrogate takes that of its partner along.
      refine ⟨'\\' :: 'u' :: a :: b :: c :: d :: (partner ++ text), ?_,
        quoted_hexCode hcode (hpartner.append hquoted), ?_⟩
      · rw [hleft, htext]
        simp
      · intro rest'
        have hdrop : (partner ++ (text ++ '"' :: rest')).drop used =
            text ++ '"' :: rest' :=
          List.drop_left' hlength
        simp only [List.cons_append, List.append_assoc, stringChars?.eq_3,
          hcode, hback, hdrop, hreads]
        rfl
  | case6 e left hu hnone =>
      simp only [stringChars?.eq_4 e left hu, hnone] at h
      cases h
  | case7 e left hu char hchar ih =>
      simp only [stringChars?.eq_4 e left hu, hchar] at h
      rcases exists_stringChars?_cons h with ⟨others, rfl, hothers⟩
      rcases ih hothers with ⟨text, rfl, hquoted, hreads⟩
      refine ⟨'\\' :: e :: text, rfl,
        .escape (ne_newline_of_unescape? hchar) hquoted, ?_⟩
      intro rest'
      have hne : e ≠ 'u' := by
        rintro rfl
        cases hchar
      simp only [List.cons_append,
        stringChars?.eq_4 e _ fun _ _ _ _ _ heq _ => hne heq, hchar, hreads]
      rfl
  | case8 c left hquote hu hescape hrefused =>
      rw [stringChars?.eq_5 c left hquote hu hescape, if_pos hrefused] at h
      cases h
  | case9 c left hquote hu hescape htaken ih =>
      rw [stringChars?.eq_5 c left hquote hu hescape, if_neg htaken] at h
      rcases exists_stringChars?_cons h with ⟨others, rfl, hothers⟩
      rcases ih hothers with ⟨text, rfl, hquoted, hreads⟩
      have hbackslash : c ≠ '\\' := by
        rintro rfl
        exact htaken rfl
      have hnewline : c ≠ '\n' := by
        rintro rfl
        exact htaken rfl
      refine ⟨c :: text, rfl, hquoted.cons hquote hbackslash hnewline, ?_⟩
      intro rest'
      rw [List.cons_append,
        stringChars?.eq_5 c _ hquote (fun _ _ _ _ _ heq _ => hbackslash heq)
          fun _ _ heq _ => hbackslash heq,
        if_neg htaken, hreads]
      rfl

theorem string?_eq_some {cs rest : List Char} {s : String}
    (h : string? cs = some (s, rest)) :
    exists inner, cs = quote inner ++ rest ∧ Quoted inner ∧
      forall rest', string? (quote inner ++ rest') = some (s, rest') := by
  unfold string? at h
  split at h
  · rcases Option.map_eq_some_iff.mp h with ⟨⟨chars, left⟩, hchars, heq⟩
    cases heq
    rcases stringChars?_eq_some hchars with ⟨inner, rfl, hquoted, hreads⟩
    have hshape : forall rest',
        quote inner ++ rest' = '"' :: (inner ++ '"' :: rest') := by
      intro rest'
      simp [quote]
    refine ⟨inner, (hshape _).symm, hquoted, ?_⟩
    intro rest'
    rw [hshape, string?, hreads]
    rfl
  · cases h

end Json
end Reshape
