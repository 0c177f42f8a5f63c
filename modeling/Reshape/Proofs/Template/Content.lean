import Reshape.Proofs.Template.Grammar
import Reshape.Proofs.Template.Scan

/-!
# Contents that spell expressions

The search for the closing brace goes by bytes and the tokens of an expression
are spelled by characters, and yet they agree on where a literal ends.  So a
content that spells tokens is closed: the search gets through it with no literal
open, and every brace that it holds stands in a literal.
-/

namespace Reshape
namespace Template

open Unicode

/-!
## Outside of literals
-/

def Quiet (c : Char) : Prop :=
  c ≠ '"' ∧ c ≠ '\x27' ∧ c ≠ '\x7d'

theorem quiet_of_class {p : Char -> Bool} (hdouble : p '"' = false)
    (hsingle : p '\x27' = false) (hbrace : p '\x7d' = false) {c : Char}
    (hc : p c = true) : Quiet c :=
  ⟨ne_of_class hc hdouble, ne_of_class hc hsingle, ne_of_class hc hbrace⟩

theorem quiet_of_isBlank {c : Char} (h : isBlank c = true) : Quiet c :=
  quiet_of_class rfl rfl rfl h

theorem quiet_of_isDigit {c : Char} (h : c.isDigit = true) : Quiet c :=
  quiet_of_class rfl rfl rfl h

theorem quiet_of_isWordPart {c : Char} (h : isWordPart c = true) : Quiet c :=
  quiet_of_class rfl rfl rfl h

theorem through_high_outside {bytes : List UInt8}
    (h : forall b, b ∈ bytes -> 0x80 ≤ b.toNat) :
    Scan.outside.through bytes = some .outside := by
  induction bytes with
  | nil => rfl
  | cons b rest ih =>
      have hb := h b List.mem_cons_self
      have hdouble : b ≠ '"'.toUInt8 := Utf8.ne_toUInt8_of_le hb (by decide)
      have hsingle : b ≠ '\x27'.toUInt8 := Utf8.ne_toUInt8_of_le hb (by decide)
      have hbrace : b ≠ '\x7d'.toUInt8 := Utf8.ne_toUInt8_of_le hb (by decide)
      rw [Scan.through, if_neg (by simp [hbrace]), Scan.next,
        if_neg (by simp [hdouble, hsingle])]
      exact ih fun x hx => h x (List.mem_cons_of_mem b hx)

theorem through_of_quiet {c : Char} (h : Quiet c) (rest : List Char) :
    Scan.outside.through (Utf8.encode (c :: rest)) =
      Scan.outside.through (Utf8.encode rest) := by
  by_cases hc : c.toNat < 0x80
  · rcases h with ⟨hdouble, hsingle, hbrace⟩
    have hdouble := Utf8.toUInt8_ne hc (by decide) hdouble
    have hsingle := Utf8.toUInt8_ne hc (by decide) hsingle
    have hbrace := Utf8.toUInt8_ne hc (by decide) hbrace
    rw [Utf8.encode_cons_of_ascii hc, Scan.through, if_neg (by simp [hbrace]),
      Scan.next, if_neg (by simp [hdouble, hsingle])]
  · rw [Utf8.encode_cons, through_append, through_high_outside]
    · rfl
    · intro b hb
      exact Utf8.le_of_mem_utf8EncodeChar (Nat.le_of_not_lt hc) hb

/-!
## Inside of literals
-/

section Literals

variable {quote : Char} (hquote : quote.toNat < 0x80)

include hquote

theorem through_high_inside {bytes : List UInt8}
    (h : forall b, b ∈ bytes -> 0x80 ≤ b.toNat) :
    (Scan.inside quote.toUInt8).through bytes =
      some (.inside quote.toUInt8) := by
  induction bytes with
  | nil => rfl
  | cons b rest ih =>
      have hb := h b List.mem_cons_self
      have hbackslash : b ≠ '\\'.toUInt8 := Utf8.ne_toUInt8_of_le hb (by decide)
      rw [Scan.through, if_neg (by simp), Scan.next, if_neg hbackslash,
        if_neg (Utf8.ne_toUInt8_of_le hb hquote)]
      exact ih fun x hx => h x (List.mem_cons_of_mem b hx)

theorem through_inside {c : Char} (hbackslash : c ≠ '\\') (hc : c ≠ quote)
    (rest : List Char) :
    (Scan.inside quote.toUInt8).through (Utf8.encode (c :: rest)) =
      (Scan.inside quote.toUInt8).through (Utf8.encode rest) := by
  by_cases hascii : c.toNat < 0x80
  · rw [Utf8.encode_cons_of_ascii hascii, Scan.through, if_neg (by simp),
      Scan.next, if_neg (Utf8.toUInt8_ne hascii (by decide) hbackslash),
      if_neg (Utf8.toUInt8_ne hascii hquote hc)]
  · rw [Utf8.encode_cons, through_append, through_high_inside hquote]
    · rfl
    · intro b hb
      exact Utf8.le_of_mem_utf8EncodeChar (Nat.le_of_not_lt hascii) hb

/-- After a backslash only the first byte of a character is passed over, but its
other bytes mean nothing. -/
theorem through_escaped (c : Char) (rest : List Char) :
    (Scan.escaped quote.toUInt8).through (Utf8.encode (c :: rest)) =
      (Scan.inside quote.toUInt8).through (Utf8.encode rest) := by
  by_cases hascii : c.toNat < 0x80
  · rw [Utf8.encode_cons_of_ascii hascii, Scan.through, if_neg (by simp),
      Scan.next]
  · have hhigh : forall b, b ∈ String.utf8EncodeChar c -> 0x80 ≤ b.toNat := by
      intro b hb
      exact Utf8.le_of_mem_utf8EncodeChar (Nat.le_of_not_lt hascii) hb
    cases hbytes : String.utf8EncodeChar c with
    | nil => exact absurd hbytes String.utf8EncodeChar_ne_nil
    | cons b bytes =>
        rw [hbytes] at hhigh
        rw [Utf8.encode_cons, hbytes, List.cons_append, Scan.through,
          if_neg (by simp), Scan.next, through_append,
          through_high_inside hquote]
        · rfl
        · intro x hx
          exact hhigh x (List.mem_cons_of_mem b hx)

theorem through_of_escaped (hbackslash : quote ≠ '\\')
    {content inner : List Char} (h : Escaped quote content inner)
    (rest : List Char) :
    (Scan.inside quote.toUInt8).through (Utf8.encode (inner ++ quote :: rest)) =
      Scan.outside.through (Utf8.encode rest) := by
  have hslash : Char.toNat '\\' < 0x80 := by decide
  induction h with
  | nil =>
      rw [List.nil_append, Utf8.encode_cons_of_ascii hquote, Scan.through,
        if_neg (by simp), Scan.next,
        if_neg (Utf8.toUInt8_ne hquote hslash hbackslash), if_pos rfl]
  | plain not_quote not_backslash _ ih =>
      rw [List.cons_append, through_inside hquote not_backslash not_quote, ih]
  | backslash c _ ih =>
      rw [List.cons_append, List.cons_append, Utf8.encode_cons_of_ascii hslash,
        Scan.through, if_neg (by simp), Scan.next, if_pos rfl,
        through_escaped hquote, ih]

end Literals

/-!
## Quotes
-/

section Quotes

variable {quote : Char} (hquote : quote = '"' ∨ quote = '\x27')

include hquote

theorem ascii_of_quote : quote.toNat < 0x80 := by
  rcases hquote with rfl | rfl <;> decide

theorem ne_backslash_of_quote : quote ≠ '\\' := by
  rcases hquote with rfl | rfl <;> decide

theorem through_quote (rest : List Char) :
    Scan.outside.through (Utf8.encode (quote :: rest)) =
      (Scan.inside quote.toUInt8).through (Utf8.encode rest) := by
  have hopens : Scan.next quote.toUInt8 .outside = .inside quote.toUInt8 := by
    rcases hquote with rfl | rfl <;> rfl
  have hbrace : quote.toUInt8 ≠ '\x7d'.toUInt8 := by
    rcases hquote with rfl | rfl <;> decide
  rw [Utf8.encode_cons_of_ascii (ascii_of_quote hquote), Scan.through,
    if_neg (by simp [hbrace]), hopens]

end Quotes

/-!
## Tokens
-/

theorem closed_cons_of_quiet {c : Char} (hc : Quiet c) {rest : List Char}
    (h : Closed rest) : Closed (c :: rest) := by
  unfold Closed at h ⊢
  rw [through_of_quiet hc, h]

theorem closed_append_of_quiet {lexeme : List Char}
    (h : forall c, c ∈ lexeme -> Quiet c) {rest : List Char}
    (hrest : Closed rest) : Closed (lexeme ++ rest) := by
  induction lexeme with
  | nil => exact hrest
  | cons c lexeme ih =>
      exact closed_cons_of_quiet (h c List.mem_cons_self)
        (ih fun d hd => h d (List.mem_cons_of_mem c hd))

theorem closed_of_escaped {quote : Char} (hquote : quote = '"' ∨ quote = '\x27')
    {content inner rest : List Char} (h : Escaped quote content inner)
    (hrest : Closed rest) : Closed (quote :: (inner ++ quote :: rest)) := by
  unfold Closed at hrest ⊢
  rw [through_quote hquote,
    through_of_escaped (ascii_of_quote hquote) (ne_backslash_of_quote hquote) h,
    hrest]

theorem closed_append_of_spelled {t : Token} {lexeme : List Char}
    (h : t.Spelled lexeme) {rest : List Char} (hrest : Closed rest) :
    Closed (lexeme ++ rest) := by
  cases h with
  | @word c cs start parts =>
      apply closed_append_of_quiet _ hrest
      intro d hd
      rcases List.mem_cons.mp hd with rfl | hlater
      · exact quiet_of_isWordPart (isWordPart_iff.mpr (.inl start))
      · exact quiet_of_isWordPart (parts d hlater)
  | string kind escaped =>
      rw [List.cons_append, List.append_assoc]
      exact closed_of_escaped kind escaped hrest
  | @integer n cs decimal =>
      rcases decimal.exists_head with ⟨c, ds, rfl, hc, hds⟩
      apply closed_append_of_quiet _ hrest
      intro d hd
      rcases List.mem_cons.mp hd with rfl | hlater
      · rcases hc with rfl | hdigit
        · unfold Quiet
          decide
        · exact quiet_of_isDigit hdigit
      · exact quiet_of_isDigit (hds d hlater)
  | openBracket => exact closed_cons_of_quiet (by unfold Quiet; decide) hrest
  | closeBracket => exact closed_cons_of_quiet (by unfold Quiet; decide) hrest

theorem closed_of_spelledOut {ts : List Token} {cs : List Char}
    (h : SpelledOut ts cs) : Closed cs := by
  induction h with
  | nil => rfl
  | blank hblank _ ih => exact closed_cons_of_quiet (quiet_of_isBlank hblank) ih
  | token spelled _ ih => exact closed_append_of_spelled spelled ih

/-- Every text that spells an expression may stand between the braces of a
placeholder. -/
theorem closed_of_parse {source : String} {e : Expr}
    (h : Expr.parse source = .ok e) : Closed source.toList :=
  closed_of_spelledOut (Expr.parse_eq_ok_iff.mp h).right

end Template
end Reshape
