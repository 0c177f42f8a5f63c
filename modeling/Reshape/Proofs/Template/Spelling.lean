import Mathlib.Data.List.Chain
import Reshape.Proofs.Except
import Reshape.Proofs.Number.Integer
import Reshape.Proofs.Unicode.Lines
import Reshape.Template.Token

/-!
# How tokens are spelled

A text is cut into tokens exactly if it spells them one after another, with
blanks anywhere around them, provided that no two of them run together.  A word
or an integer would take in what comes right after it, but a bracket always
stands apart.
-/

namespace Reshape
namespace Template

open Unicode Integer

/-!
## The spellings of a token
-/

/-- A content as it stands between quotes of a kind.  That quote and the
backslash need a backslash in front, and any other character may have one. -/
inductive Escaped (quote : Char) : List Char -> List Char -> Prop
  | nil : Escaped quote [] []
  | plain {c : Char} {content cs : List Char} (not_quote : c ≠ quote)
      (not_backslash : c ≠ '\\') (rest : Escaped quote content cs) :
      Escaped quote (c :: content) (c :: cs)
  | backslash (c : Char) {content cs : List Char}
      (rest : Escaped quote content cs) :
      Escaped quote (c :: content) ('\\' :: c :: cs)

inductive Token.Spelled : Token -> List Char -> Prop
  | word {c : Char} {cs : List Char} (start : isWordStart c = true)
      (parts : forall d, d ∈ cs -> isWordPart d = true) :
      Spelled (.word (String.ofList (c :: cs))) (c :: cs)
  | string {quote : Char} (kind : quote = '"' ∨ quote = '\x27')
      {content cs : List Char} (escaped : Escaped quote content cs) :
      Spelled (.string (String.ofList content)) (quote :: (cs ++ [quote]))
  | integer {n : Int64} {cs : List Char} (decimal : Decimal n cs) :
      Spelled (.integer n) cs
  | openBracket : Spelled .openBracket ['[']
  | closeBracket : Spelled .closeBracket [']']

/-- A text that spells tokens one after another, with blanks wherever the writer
likes. -/
inductive SpelledOut : List Token -> List Char -> Prop
  | nil : SpelledOut [] []
  | blank {c : Char} {ts : List Token} {cs : List Char}
      (blank : isBlank c = true) (rest : SpelledOut ts cs) :
      SpelledOut ts (c :: cs)
  | token {t : Token} {ts : List Token} {lexeme cs : List Char}
      (spelled : t.Spelled lexeme) (rest : SpelledOut ts cs) :
      SpelledOut (t :: ts) (lexeme ++ cs)

/-!
## String literals
-/

section Literals

variable {quote : Char}

theorem literal?_cons {c : Char} (h : c ≠ '\\') (cs : List Char) :
    literal? quote (c :: cs) =
      if c = quote then some ([], cs)
      else (literal? quote cs).map fun read => (c :: read.1, read.2) := by
  rw [literal?.eq_4]
  · intro hc
    exact absurd hc h
  · intro d rest hc
    exact absurd hc h

theorem ne_backslash_of_not_escape {c : Char} {rest : List Char}
    (hend : c = '\\' -> rest = [] -> False)
    (hescape : forall d more, c = '\\' -> rest = d :: more -> False) :
    c ≠ '\\' := by
  intro heq
  cases rest with
  | nil => exact hend heq rfl
  | cons d more => exact hescape d more heq rfl

theorem literal?_eq_some_iff (hquote : quote ≠ '\\')
    {cs content rest : List Char} :
    literal? quote cs = some (content, rest) <->
      exists inner, cs = inner ++ quote :: rest ∧
        Escaped quote content inner := by
  constructor
  · intro h
    fun_induction literal? quote cs generalizing content rest with
    | case1 => cases h
    | case2 => cases h
    | case3 c tail ih =>
        rw [Option.map_eq_some_iff] at h
        rcases h with ⟨⟨read, left⟩, hread, heq⟩
        cases heq
        rcases ih hread with ⟨inner, rfl, hinner⟩
        exact ⟨'\\' :: c :: inner, rfl, .backslash c hinner⟩
    | case4 tail =>
        cases h
        exact ⟨[], rfl, .nil⟩
    | case5 c tail hend hescape hc ih =>
        rw [Option.map_eq_some_iff] at h
        rcases h with ⟨⟨read, left⟩, hread, heq⟩
        cases heq
        have hplain := ne_backslash_of_not_escape hend hescape
        rcases ih hread with ⟨inner, rfl, hinner⟩
        exact ⟨c :: inner, rfl, .plain hc hplain hinner⟩
  · rintro ⟨inner, rfl, hinner⟩
    induction hinner with
    | nil => rw [List.nil_append, literal?_cons hquote, if_pos rfl]
    | plain not_quote not_backslash _ ih =>
        rw [List.cons_append, literal?_cons not_backslash, if_neg not_quote, ih]
        rfl
    | backslash c _ ih =>
        rw [List.cons_append, List.cons_append, literal?, ih]
        rfl

end Literals

/-!
## Kinds of characters
-/

theorem ne_of_class {p : Char -> Bool} {c d : Char} (hc : p c = true)
    (hd : p d = false) : c ≠ d := by
  rintro rfl
  rw [hd] at hc
  cases hc

theorem range_of_isWordStart {c : Char} (h : isWordStart c = true) :
    0x41 ≤ c.toNat ∧ c.toNat ≤ 0x7A := by
  have hranges :
      (decide ('A'.val ≤ c.val ∧ c.val ≤ 'Z'.val) ||
          (decide ('a'.val ≤ c.val) && decide (c.val ≤ 'z'.val)) || decide
          (c = '_')) =
        true :=
    h
  simp only [Bool.or_eq_true, Bool.and_eq_true, decide_eq_true_eq,
    UInt32.le_iff_toNat_le] at hranges
  rcases hranges with (⟨hlow, hhigh⟩ | ⟨hlow, hhigh⟩) | rfl
  · exact ⟨hlow, Nat.le_trans hhigh (by decide)⟩
  · exact ⟨Nat.le_trans (by decide) hlow, hhigh⟩
  · decide

theorem range_of_isDigit {c : Char} (h : c.isDigit = true) :
    0x30 ≤ c.toNat ∧ c.toNat ≤ 0x39 := by
  simp only [Char.isDigit, Bool.and_eq_true, decide_eq_true_eq,
    UInt32.le_iff_toNat_le, ge_iff_le] at h
  exact h

theorem isWordPart_iff {c : Char} :
    isWordPart c = true <-> isWordStart c = true ∨ c.isDigit = true := by
  unfold isWordPart isWordStart Char.isAlphanum
  simp only [Bool.or_eq_true]
  exact or_right_comm

theorem isBlank_of_isWordPart {c : Char} (h : isWordPart c = true) :
    isBlank c = false := by
  rcases isWordPart_iff.mp h with hstart | hdigit
  · have hrange := range_of_isWordStart hstart
    exact isBlank_of_range (by lia)
  · exact isBlank_of_isDigit hdigit

theorem isDigit_of_isWordStart {c : Char} (h : isWordStart c = true) :
    c.isDigit = false := by
  have hrange := range_of_isWordStart h
  cases hdigit : c.isDigit with
  | false => rfl
  | true =>
      have hdigits := range_of_isDigit hdigit
      lia

def Parted : List Char -> Prop
  | [] => True
  | c :: _ => isWordPart c = false

theorem parted_of_isBlank {c : Char} (h : isBlank c = true) (rest : List Char) :
    Parted (c :: rest) := by
  show isWordPart c = false
  cases hpart : isWordPart c with
  | false => rfl
  | true =>
      rw [isBlank_of_isWordPart hpart] at h
      cases h

theorem span_of_parted {p : Char -> Bool}
    (hp : forall c, p c = true -> isWordPart c = true) {run : List Char}
    (hrun : forall c, c ∈ run -> p c = true) {rest : List Char}
    (hrest : Parted rest) :
    (run ++ rest).takeWhile p = run ∧ (run ++ rest).dropWhile p = rest := by
  have hstop : rest.takeWhile p = [] ∧ rest.dropWhile p = rest := by
    cases rest with
    | nil => exact ⟨rfl, rfl⟩
    | cons c rest =>
        have hc : Not (p c = true) := by
          intro hpc
          have hpart := hp c hpc
          rw [hrest] at hpart
          cases hpart
        exact ⟨List.takeWhile_cons_of_neg hc, List.dropWhile_cons_of_neg hc⟩
  rw [List.takeWhile_append_of_pos hrun, List.dropWhile_append_of_pos hrun,
    hstop.left, hstop.right, List.append_nil]
  exact ⟨rfl, rfl⟩

theorem cons_ne_plus {c : Char} (h : c = '-' ∨ c.isDigit = true)
    (ds rest : List Char) : c :: ds ≠ '+' :: rest := by
  intro heq
  injection heq with hplus _
  rw [hplus] at h
  revert h
  decide

/-!
## Cutting off one token
-/

theorem tokens_blank {c : Char} (h : isBlank c = true) (total : Nat)
    (cs : List Char) : tokens total (c :: cs) = tokens total cs := by
  rw [tokens, if_pos h]

theorem tokens_openBracket (total : Nat) (cs : List Char) :
    tokens total ('[' :: cs) = (tokens total cs).map (.openBracket :: ·) := by
  rw [tokens, if_neg (by decide), if_pos rfl]
  cases tokens total cs <;> rfl

theorem tokens_closeBracket (total : Nat) (cs : List Char) :
    tokens total (']' :: cs) = (tokens total cs).map (.closeBracket :: ·) := by
  rw [tokens, if_neg (by decide), if_neg (by decide), if_pos rfl]
  cases tokens total cs <;> rfl

theorem tokens_string {quote : Char} (hquote : quote = '"' ∨ quote = '\x27')
    {cs content rest : List Char} (h : literal? quote cs = some (content, rest))
    (total : Nat) :
    tokens total (quote :: cs) =
      (tokens total rest).map (.string (String.ofList content) :: ·) := by
  have hblank : Not (isBlank quote = true) := by
    rcases hquote with rfl | rfl <;> decide
  have hopen : quote ≠ '[' := by
    rcases hquote with rfl | rfl <;> decide
  have hclose : quote ≠ ']' := by
    rcases hquote with rfl | rfl <;> decide
  rw [tokens, if_neg hblank, if_neg hopen, if_neg hclose,
    if_pos (by simpa using hquote)]
  split
  · rename_i hnone
    rw [h] at hnone
    cases hnone
  · rename_i hsome
    rw [h] at hsome
    cases hsome
    cases tokens total rest <;> rfl

theorem tokens_integer {c : Char} (hc : c = '-' ∨ c.isDigit = true)
    {cs : List Char} {n : Int64}
    (h : Integer.read? (c :: cs.takeWhile Char.isDigit) = some n)
    (total : Nat) :
    tokens total (c :: cs) =
      (tokens total (cs.dropWhile Char.isDigit)).map (.integer n :: ·) := by
  have hblank : Not (isBlank c = true) := by
    rcases hc with rfl | hdigit
    · decide
    · rw [isBlank_of_isWordPart (isWordPart_iff.mpr (.inr hdigit))]
      decide
  have hne : forall d, d ≠ '-' -> d.isDigit = false -> c ≠ d := by
    intro d hminus hdigit
    rcases hc with rfl | hc
    · exact Ne.symm hminus
    · exact ne_of_class hc hdigit
  rw [tokens, if_neg hblank, if_neg (hne '[' (by decide) rfl),
    if_neg (hne ']' (by decide) rfl),
    if_neg (by simp [hne '"' (by decide) rfl, hne '\x27' (by decide) rfl]),
    if_pos (by simpa using hc)]
  dsimp only
  rw [h]
  cases tokens total (cs.dropWhile Char.isDigit) <;> rfl

theorem tokens_word {c : Char} (hc : isWordStart c = true) (total : Nat)
    (cs : List Char) :
    tokens total (c :: cs) =
      (tokens total (cs.dropWhile isWordPart)).map
        (.word (String.ofList (c :: cs.takeWhile isWordPart)) :: ·) := by
  have hblank : Not (isBlank c = true) := by
    rw [isBlank_of_isWordPart (isWordPart_iff.mpr (.inl hc))]
    decide
  have hne : forall d, isWordStart d = false -> c ≠ d :=
    fun _ hd => ne_of_class hc hd
  rw [tokens, if_neg hblank, if_neg (hne '[' rfl), if_neg (hne ']' rfl),
    if_neg (by simp [hne '"' rfl, hne '\x27' rfl]),
    if_neg (by simp [hne '-' rfl, isDigit_of_isWordStart hc]), if_pos hc]
  cases tokens total (cs.dropWhile isWordPart) <;> rfl

/-!
## Texts that spell tokens
-/

def Token.IsBracket (t : Token) : Prop :=
  t = .openBracket ∨ t = .closeBracket

/-- What spells a token is cut off as that token, unless it runs together with
what comes after it. -/
theorem tokens_append {t : Token} {lexeme rest : List Char}
    (h : t.Spelled lexeme) (hrest : t.IsBracket ∨ Parted rest) (total : Nat) :
    tokens total (lexeme ++ rest) = (tokens total rest).map (t :: ·) := by
  cases h with
  | @word c cs start parts =>
      have hparted : Parted rest :=
        hrest.resolve_left (by unfold Token.IsBracket; simp)
      rcases span_of_parted (fun _ hpart => hpart) parts hparted with
        ⟨htaken, hdropped⟩
      rw [List.cons_append, tokens_word start, htaken, hdropped]
  | @string quote kind content cs escaped =>
      have hbackslash : quote ≠ '\\' := by
        rcases kind with rfl | rfl <;> decide
      rw [List.cons_append, List.append_assoc]
      exact tokens_string kind
        ((literal?_eq_some_iff hbackslash).mpr ⟨cs, rfl, escaped⟩) total
  | @integer n cs decimal =>
      have hparted : Parted rest :=
        hrest.resolve_left (by unfold Token.IsBracket; simp)
      rcases decimal.exists_head with ⟨c, ds, rfl, hc, hds⟩
      rcases span_of_parted (fun _ hdigit => isWordPart_iff.mpr (.inr hdigit))
        hds hparted with
        ⟨htaken, hdropped⟩
      rw [List.cons_append, tokens_integer hc, hdropped]
      rw [htaken]
      exact (Integer.read?_eq_some_iff (cons_ne_plus hc ds)).mpr decimal
  | openBracket => exact tokens_openBracket total rest
  | closeBracket => exact tokens_closeBracket total rest

def Apart (ts : List Token) : Prop :=
  ts.IsChain fun t next => t.IsBracket ∨ next.IsBracket

theorem parted_of_spelledOut {ts : List Token} {cs : List Char}
    (h : SpelledOut ts cs)
    (hhead : forall t, ts.head? = some t -> t.IsBracket) : Parted cs := by
  induction h with
  | nil => trivial
  | blank hblank _ _ => exact parted_of_isBlank hblank _
  | @token t ts lexeme cs spelled _ _ =>
      rcases hhead t rfl with rfl | rfl
      · cases spelled
        rfl
      · cases spelled
        rfl

theorem tokens_of_spelledOut {ts : List Token} {cs : List Char}
    (h : SpelledOut ts cs) (hapart : Apart ts) (total : Nat) :
    tokens total cs = .ok ts := by
  induction h with
  | nil => rw [tokens]
  | blank hblank _ ih => rw [tokens_blank hblank, ih hapart]
  | @token t ts lexeme cs spelled rest ih =>
      rcases List.isChain_cons.mp hapart with ⟨hnext, hlater⟩
      rw [tokens_append spelled, ih hlater]
      · rfl
      · by_cases hbracket : t.IsBracket
        · exact .inl hbracket
        · right
          apply parted_of_spelledOut rest
          intro next hhead
          exact (hnext next hhead).resolve_left hbracket

theorem spelledOut_of_tokens {total : Nat} {cs : List Char} {ts : List Token}
    (h : tokens total cs = .ok ts) : SpelledOut ts cs := by
  fun_induction tokens total cs generalizing ts with
  | case1 =>
      cases h
      exact .nil
  | case2 c rest hblank ih => exact .blank hblank (ih h)
  | case3 rest _ ih =>
      rcases except_bind_eq_ok h with ⟨more, hmore, hts⟩
      cases hts
      exact .token .openBracket (ih hmore)
  | case4 rest _ _ ih =>
      rcases except_bind_eq_ok h with ⟨more, hmore, hts⟩
      cases hts
      exact .token .closeBracket (ih hmore)
  | case5 => cases h
  | case6 c rest _ _ _ hquote content rest' hliteral ih =>
      rcases except_bind_eq_ok h with ⟨more, hmore, hts⟩
      cases hts
      simp only [Bool.or_eq_true, decide_eq_true_eq] at hquote
      have hbackslash : c ≠ '\\' := by
        rcases hquote with rfl | rfl <;> decide
      rcases (literal?_eq_some_iff hbackslash).mp hliteral with
        ⟨inner, rfl, hinner⟩
      have hspelled := SpelledOut.token (.string hquote hinner) (ih hmore)
      rw [List.cons_append, List.append_assoc] at hspelled
      exact hspelled
  | case7 => cases h
  | case8 c rest _ _ _ _ hdigit literal n hread =>
      rename_i ih
      rcases except_bind_eq_ok h with ⟨more, hmore, hts⟩
      cases hts
      simp only [Bool.or_eq_true, decide_eq_true_eq] at hdigit
      have hdecimal :=
        (Integer.read?_eq_some_iff (cons_ne_plus hdigit _)).mp hread
      have hspelled := SpelledOut.token (.integer hdecimal) (ih hmore)
      rw [List.cons_append, List.takeWhile_append_dropWhile] at hspelled
      exact hspelled
  | case9 c rest _ _ _ _ _ hword name =>
      rename_i ih
      rcases except_bind_eq_ok h with ⟨more, hmore, hts⟩
      cases hts
      have hparts :
          forall d, d ∈ rest.takeWhile isWordPart -> isWordPart d = true :=
        List.all_eq_true.mp List.all_takeWhile
      have hspelled := SpelledOut.token (.word hword hparts) (ih hmore)
      rw [List.cons_append, List.takeWhile_append_dropWhile] at hspelled
      exact hspelled
  | case10 => cases h

end Template
end Reshape
