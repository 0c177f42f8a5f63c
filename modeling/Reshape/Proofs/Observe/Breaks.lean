import Reshape.Proofs.Expansion.Building
import Reshape.Proofs.Json.RoundTrip
import Reshape.Proofs.Template.Failures
import Reshape.Proofs.Template.Grammar

/-!
# Line breaks in messages

A message is put together from fixed words, from texts in quotes, which show a
line break as an escape, and from texts that stand in it as they are.  A line
break gets into a message only by one of the last.  What is left of them in the
errors of a transformer are the keys of its fields and the content of a bracket
in a key path.
-/

namespace Reshape

namespace Unicode

theorem exists_digit_of_mem_toDigits {base n : Nat} (hbase : 1 < base)
    {c : Char} (h : c ∈ Nat.toDigits base n) :
    exists d, d < base ∧ c = Nat.digitChar d := by
  induction n using Nat.strongRecOn with
  | ind n ih =>
      by_cases hone : n < base
      · rw [Nat.toDigits_of_lt_base hone, List.mem_singleton] at h
        exact ⟨n, hone, h⟩
      · rw [Nat.toDigits_of_base_le hbase (Nat.le_of_not_lt hone),
          List.mem_append, List.mem_singleton] at h
        rcases h with hmore | rfl
        · exact ih (n / base) (Nat.div_lt_self (by lia) hbase) hmore
        · exact ⟨n % base, Nat.mod_lt n (by lia), rfl⟩

theorem newline_not_mem_quotedChar (c : Char) : Not ('\n' ∈ quotedChar c) := by
  unfold quotedChar
  split
  · decide
  split
  · decide
  split
  · decide
  split
  · decide
  split
  · decide
  split
  · decide
  split
  · intro hmem
    simp only [List.mem_append, List.mem_cons, List.not_mem_nil,
      or_false] at hmem
    rcases hmem with (hlead | hdigit) | hclose
    · rcases hlead with hlead | hlead | hlead <;> exact absurd hlead (by decide)
    · rcases exists_digit_of_mem_toDigits (by decide) hdigit with ⟨d, hd, heq⟩
      have hdigits : forall d, d < 16 -> '\n' ≠ Nat.digitChar d := by decide
      exact hdigits d hd heq
    · exact absurd hclose (by decide)
  · rename_i hnewline _ _ _ _
    rw [List.mem_singleton]
    exact fun heq => hnewline heq.symm

@[simp] theorem newline_not_mem_quoted (s : String) :
    Not ('\n' ∈ (quoted s).toList) := by
  unfold quoted
  rw [String.toList_ofList]
  intro hmem
  simp only [List.cons_append, List.mem_cons, List.mem_append, List.mem_flatMap,
    List.not_mem_nil, or_false] at hmem
  rcases hmem with hopen | ⟨c, _, hc⟩ | hclose
  · exact absurd hopen (by decide)
  · exact newline_not_mem_quotedChar c hc
  · exact absurd hclose (by decide)

end Unicode

open Unicode

@[simp] theorem newline_not_mem_decimal (n : Nat) :
    Not ('\n' ∈ (Template.decimal n).toList) := by
  unfold Template.decimal
  rw [String.toList_ofList]
  intro hmem
  exact absurd (Json.isDigit_of_mem_toDigits hmem) (by decide)

@[simp] theorem newline_not_mem_intChars (n : Int) :
    Not ('\n' ∈ Json.intChars n) := by
  rw [← Json.Numeral.chars_ofInt]
  exact Json.Numeral.newline_not_mem_chars (Json.Numeral.proper_ofInt n)

@[simp] theorem newline_not_mem_render (json : Json) :
    Not ('\n' ∈ json.render.toList) := by
  rcases Json.exists_nested json with ⟨n, hnested⟩
  unfold Json.render
  rw [String.toList_ofList]
  exact Json.newline_not_mem_renderChars hnested

@[simp] theorem Accessor.newline_not_mem_shown (a : Accessor) :
    Not ('\n' ∈ a.shown.toList) := by
  cases a with
  | key name => exact newline_not_mem_quoted name
  | position n => simp [Accessor.shown]

/-!
## Errors of templates
-/

namespace Template

def Token.Breaks : Token -> Prop
  | .word name => '\n' ∈ name.toList
  | _ => False

@[simp] theorem Token.newline_mem_shown_iff (t : Token) :
    '\n' ∈ t.shown.toList <-> t.Breaks := by
  unfold Token.shown
  cases t <;> simp [Token.Breaks]

def TokenError.Breaks : TokenError -> Prop
  | .unterminatedString _ => False
  | .integerOutOfRange literal => '\n' ∈ literal.toList
  | .unexpectedCharacter c _ => c = '\n'

@[simp] theorem TokenError.newline_mem_message_iff (e : TokenError) :
    '\n' ∈ e.message.toList <-> e.Breaks := by
  unfold TokenError.message
  cases e <;> simp [TokenError.Breaks, eq_comm]

def ExprError.Breaks : ExprError -> Prop
  | .token cause => cause.Breaks
  | .unknownVariable name => '\n' ∈ name.toList
  | .unexpected found => found.Breaks
  | .accessorContent found => found.Breaks
  | .accessorEnd found => found.Breaks
  | .trailing found => found.Breaks
  | _ => False

@[simp] theorem ExprError.newline_mem_message_iff (e : ExprError) :
    '\n' ∈ e.message.toList <-> e.Breaks := by
  unfold ExprError.message
  cases e <;> simp [ExprError.Breaks]

def TemplateError.Breaks : TemplateError -> Prop
  | .unclosedPlaceholder _ => False
  | .expression cause _ => cause.Breaks

@[simp] theorem TemplateError.newline_mem_message_iff (e : TemplateError) :
    '\n' ∈ e.message.toList <-> e.Breaks := by
  unfold TemplateError.message
  cases e <;> simp [TemplateError.Breaks]

def EvalError.Breaks : EvalError -> Prop
  | .indexOutOfRange target _ _ => '\n' ∈ target.toList
  | .missingBinding name => '\n' ∈ name.toList
  | .notIndexable target index => '\n' ∈ target.toList ∨ '\n' ∈ index.toList

@[simp] theorem EvalError.newline_mem_message_iff (e : EvalError) :
    '\n' ∈ e.message.toList <-> e.Breaks := by
  unfold EvalError.message
  cases e <;> simp [EvalError.Breaks]

end Template

/-!
## Errors of configurations
-/

def KeyPath.AccessorError.Breaks : KeyPath.AccessorError -> Prop
  | .unterminatedQuote content => '\n' ∈ content.toList
  | .bracketContent content => '\n' ∈ content.toList
  | _ => False

@[simp] theorem KeyPath.AccessorError.newline_mem_message_iff
    (e : KeyPath.AccessorError) : '\n' ∈ e.message.toList <-> e.Breaks := by
  unfold KeyPath.AccessorError.message
  cases e <;> simp [KeyPath.AccessorError.Breaks]

def KeyPolicy.Error.Breaks : KeyPolicy.Error -> Prop
  | .path (.accessor _ cause) => cause.Breaks
  | _ => False

@[simp] theorem KeyPolicy.Error.newline_mem_message_iff (e : KeyPolicy.Error) :
    '\n' ∈ e.message.toList <-> e.Breaks := by
  unfold KeyPolicy.Error.message KeyPath.Error.message
  rcases e with _ | (_ | ⟨raw, cause⟩) <;> simp [KeyPolicy.Error.Breaks]

@[simp] theorem Charset.newline_not_mem_name (charset : Charset) :
    Not ('\n' ∈ charset.name.toList) := by
  rcases charset with _ | encoding
  · decide
  · cases encoding with
    | singleByte set => cases set <;> decide
    | _ => decide

@[simp] theorem EncodingSpec.Error.newline_not_mem_message
    (e : EncodingSpec.Error) : Not ('\n' ∈ e.message.toList) := by
  unfold EncodingSpec.Error.message
  cases e <;> simp

@[simp] theorem TimeFormatter.Error.newline_not_mem_message
    (e : TimeFormatter.Error) : Not ('\n' ∈ e.message.toList) := by
  unfold TimeFormatter.Error.message
  simp

def ConfigError.Breaks : ConfigError -> Prop
  | .template key _ cause => '\n' ∈ key.toList ∨ cause.Breaks
  | .keyPolicy cause => cause.Breaks
  | .encoding _ => False
  | .timeFormat _ => False
  | .stated reason => '\n' ∈ reason.toList

@[simp] theorem ConfigError.newline_mem_message_iff (e : ConfigError) :
    '\n' ∈ e.message.toList <-> e.Breaks := by
  unfold ConfigError.message
  cases e <;> simp [ConfigError.Breaks]

/-!
## All errors
-/

def RecordError.Breaks : RecordError -> Prop
  | .stated reason => '\n' ∈ reason.toList
  | _ => False

@[simp] theorem RecordError.newline_mem_message_iff (e : RecordError) :
    '\n' ∈ e.message.toList <-> e.Breaks := by
  unfold RecordError.message
  cases e <;> simp [RecordError.Breaks]

def Error.Breaks : Error -> Prop
  | .config cause => cause.Breaks
  | .evaluation field source => '\n' ∈ field.toList ∨ source.Breaks
  | .json => False
  | .io reason => '\n' ∈ reason.toList
  | .invalidRecord _ cause => cause.Breaks

@[simp] theorem Error.newline_mem_message_iff (e : Error) :
    '\n' ∈ e.message.toList <-> e.Breaks := by
  unfold Error.message
  cases e <;> simp [Error.Breaks]

/-!
## Errors of evaluating

They name the types of values and show accessors, keys in quotes.
-/

@[simp] theorem Value.newline_not_mem_typeName (v : Value) :
    Not ('\n' ∈ v.typeName.toList) := by
  unfold Value.typeName
  cases v <;> simp

namespace Template

theorem not_breaks_of_lookup {record : Record} {path : List Accessor}
    {e : EvalError} (h : lookup record path = .error e) : Not e.Breaks := by
  cases lookup_eq_error_iff.mp h with
  | record n rest => simp [EvalError.Breaks]
  | value _ _ _ => simp [EvalError.Breaks]

theorem not_breaks_of_lookupPart {parts : List String} {path : List Accessor}
    {e : EvalError} (h : lookupPart parts path = .error e) : Not e.Breaks := by
  unfold lookupPart at h
  split at h
  · cases h
  · split at h
    · cases h
    · cases h
      simp [EvalError.Breaks]
  · cases h
    simp [EvalError.Breaks]

theorem not_breaks_of_evaluate {expr : Expr} {ctx : Context} {e : EvalError}
    (h : expr.evaluate ctx = .error e) : Not e.Breaks := by
  unfold Expr.evaluate at h
  split at h
  case h_7 =>
    split at h
    · cases h
      simp [EvalError.Breaks]
    · exact not_breaks_of_lookupPart h
  case h_8 => exact not_breaks_of_lookup h
  all_goals cases h

theorem not_breaks_of_evaluate_plan {plan : Plan} {ctx : Context}
    {e : EvalError} (h : plan.evaluate ctx = .error e) : Not e.Breaks := by
  cases plan with
  | literal s => cases h
  | raw expr => exact not_breaks_of_evaluate h
  | template segments =>
      rcases exists_of_mapM_eq_error (except_bind_pure_eq_error h) with
        ⟨segment, _, hsegment⟩
      cases segment with
      | literal s => cases hsegment
      | expr expr =>
          exact not_breaks_of_evaluate (except_bind_pure_eq_error hsegment)

end Template

/-!
## Errors of compiling

Words and numbers are read up to the first character that is no part of them,
and a line break between tokens is a blank.
-/

namespace Template

theorem not_breaks_of_spelled {t : Token} {lexeme : List Char}
    (h : t.Spelled lexeme) : Not t.Breaks := by
  cases h with
  | @word c cs start parts =>
      show Not ('\n' ∈ (String.ofList (c :: cs)).toList)
      rw [String.toList_ofList]
      intro hmem
      rcases List.mem_cons.mp hmem with rfl | hlater
      · cases start
      · exact absurd (parts '\n' hlater) (by decide)
  | _ => exact id

theorem not_breaks_of_tokens {total : Nat} {cs : List Char} {ts : List Token}
    (h : tokens total cs = .ok ts) {t : Token} (ht : t ∈ ts) :
    Not t.Breaks := by
  have hspelled := spelledOut_of_tokens h
  clear h
  induction hspelled with
  | nil => cases ht
  | blank _ _ ih => exact ih ht
  | token spelled _ ih =>
      rcases List.mem_cons.mp ht with rfl | hlater
      · exact not_breaks_of_spelled spelled
      · exact ih hlater

theorem not_breaks_of_tokens_error {total : Nat} {cs : List Char}
    {e : TokenError} (h : tokens total cs = .error e) : Not e.Breaks := by
  fun_induction tokens total cs generalizing e with
  | case1 => cases h
  | case2 c rest _ ih => exact ih h
  | case3 rest _ ih => exact ih (except_bind_pure_eq_error h)
  | case4 rest _ _ ih => exact ih (except_bind_pure_eq_error h)
  | case5 =>
      cases h
      exact id
  | case6 =>
      rename_i ih
      exact ih (except_bind_pure_eq_error h)
  | case7 c rest _ _ _ _ hsign _ =>
      cases h
      show Not ('\n' ∈
          (String.ofList (c :: rest.takeWhile Char.isDigit)).toList)
      rw [String.toList_ofList]
      intro hmem
      rcases List.mem_cons.mp hmem with rfl | hlater
      · cases hsign
      · exact absurd (List.mem_takeWhile_imp hlater) (by decide)
  | case8 =>
      rename_i ih
      exact ih (except_bind_pure_eq_error h)
  | case9 =>
      rename_i ih
      exact ih (except_bind_pure_eq_error h)
  | case10 c rest hblank =>
      cases h
      rintro rfl
      exact hblank (by decide)

section Tokens

variable {ts : List Token} (hts : forall t, t ∈ ts -> Not t.Breaks)
  {e : ExprError}

include hts

theorem not_breaks_of_readAccessor (h : readAccessor ts = .error e) :
    Not e.Breaks := by
  unfold readAccessor at h
  split at h
  · cases h
  · split at h
    · cases h
      exact id
    · split at h
      · cases h
        exact hts _ (by simp)
      · split at h
        · cases h
          exact id
        · cases h
        · cases h
          exact hts _ (by simp)
  · cases h
    exact hts _ (by simp)

theorem not_breaks_of_readPath (h : readPath ts = .error e) : Not e.Breaks := by
  fun_induction readPath ts generalizing e with
  | case1 ts e' hfails =>
      cases h
      exact not_breaks_of_readAccessor hts hfails
  | case2 => cases h
  | case3 ts a rest hsome ih =>
      have hrest : forall t, t ∈ rest -> Not t.Breaks := by
        intro t ht
        rw [readAccessor_eq_some hsome] at hts
        exact hts t (List.mem_append_right _ ht)
      exact ih hrest (except_bind_pure_eq_error h)

theorem not_breaks_of_readRoot (h : readRoot ts = .error e) : Not e.Breaks := by
  unfold readRoot at h
  split at h
  · cases h
    exact id
  · rename_i name rest
    split at h
    case h_6 =>
      split at h
      · rename_i hfails
        cases h
        exact not_breaks_of_readAccessor
          (fun t ht => hts t (List.mem_cons_of_mem _ ht)) hfails
      · cases h
      · cases h
        exact id
    case h_7 =>
      cases h
      exact hts (.word name) List.mem_cons_self
    all_goals cases h
  · cases h
  · cases h
  · rename_i found rest _ _ _
    cases h
    exact hts found List.mem_cons_self

theorem not_breaks_of_ofTokens (h : Expr.ofTokens ts = .error e) :
    Not e.Breaks := by
  rcases except_bind_eq_error h with hroot | ⟨⟨root, rest⟩, hroot, hafter⟩
  · exact not_breaks_of_readRoot hts hroot
  · have hrest : forall t, t ∈ rest -> Not t.Breaks := by
      intro t ht
      rw [readRoot_eq_ok_iff.mp hroot] at hts
      exact hts t (List.mem_append_right _ ht)
    rcases except_bind_eq_error hafter with hpath | ⟨path, _, hcheck⟩
    · exact not_breaks_of_readPath hrest hpath
    · have hshape := except_bind_pure_eq_error hcheck
      unfold checkPath at hshape
      split at hshape <;> cases hshape <;> exact id

end Tokens

theorem not_breaks_of_parse {source : String} {e : ExprError}
    (h : Expr.parse source = .error e) : Not e.Breaks := by
  unfold Expr.parse at h
  split at h
  · rename_i hfails
    cases h
    exact not_breaks_of_tokens_error hfails
  · rename_i ts hts
    exact not_breaks_of_ofTokens (fun t ht => not_breaks_of_tokens hts ht) h

theorem not_breaks_of_parsePlaceholder {content : List Char} {offset : Nat}
    {e : TemplateError} (h : parsePlaceholder content offset = .error e) :
    Not e.Breaks := by
  unfold parsePlaceholder at h
  split at h
  · rename_i hfails
    cases h
    exact not_breaks_of_parse hfails
  · cases h

theorem not_breaks_of_compile {raw : String} {e : TemplateError}
    (h : Plan.compile raw = .error e) : Not e.Breaks := by
  unfold Plan.compile at h
  split at h
  · cases h
    exact id
  · unfold Plan.ofSpans at h
    split at h
    · exact not_breaks_of_parsePlaceholder (except_bind_pure_eq_error h)
    · split at h
      · cases h
      · rcases exists_of_mapM_eq_error (except_bind_pure_eq_error h) with
          ⟨span, _, hspan⟩
        cases span with
        | text chars => cases hspan
        | placeholder content offset =>
            exact not_breaks_of_parsePlaceholder
              (except_bind_pure_eq_error hspan)

end Template

/-!
## The errors that are met
-/

def KeyPath.AccessorError.bareText? : KeyPath.AccessorError -> Option String
  | .unterminatedQuote content => some content
  | .bracketContent content => some content
  | _ => none

def ConfigError.bareText? : ConfigError -> Option String
  | .template key _ _ => some key
  | .keyPolicy (.path (.accessor _ cause)) => cause.bareText?
  | .stated reason => some reason
  | _ => none

def Error.bareText? : Error -> Option String
  | .config cause => cause.bareText?
  | .evaluation field _ => some field
  | .io reason => some reason
  | .invalidRecord _ (.stated reason) => some reason
  | _ => none

/-- A line break gets into the message by its bare text or not at all. -/
def Error.Guarded (e : Error) : Prop :=
  e.Breaks <-> exists text, e.bareText? = some text ∧ '\n' ∈ text.toList

theorem guarded_evaluation {plan : Template.Plan} {ctx : Template.Context}
    {source : Template.EvalError} (h : plan.evaluate ctx = .error source)
    (field : String) : (Error.evaluation field source).Guarded := by
  have hsource := Template.not_breaks_of_evaluate_plan h
  simp [Error.Guarded, Error.Breaks, Error.bareText?, hsource]

theorem ConfigError.breaks_iff_of_compiled {e : ConfigError}
    (h :
      forall key raw cause, e = .template key raw cause -> Not cause.Breaks) :
    e.Breaks <-> exists text, e.bareText? = some text ∧ '\n' ∈ text.toList := by
  cases e with
  | template key raw cause =>
      simp [ConfigError.Breaks, ConfigError.bareText?, h key raw cause rfl]
  | keyPolicy cause =>
      rcases cause with _ | (_ | ⟨raw, cause⟩)
      · simp [ConfigError.Breaks, ConfigError.bareText?, KeyPolicy.Error.Breaks]
      · simp [ConfigError.Breaks, ConfigError.bareText?, KeyPolicy.Error.Breaks]
      · cases cause <;>
          simp [ConfigError.Breaks, ConfigError.bareText?,
            KeyPolicy.Error.Breaks, KeyPath.AccessorError.Breaks,
            KeyPath.AccessorError.bareText?]
  | _ => simp [ConfigError.Breaks, ConfigError.bareText?]

theorem not_breaks_of_buildField {entry : String × String} {e : ConfigError}
    (h : Transformer.buildField entry = .error e) {key raw : String}
    {cause : Template.TemplateError} (he : e = .template key raw cause) :
    Not cause.Breaks := by
  unfold Transformer.buildField at h
  split at h
  · cases h
  · rename_i hcompile
    rw [he] at h
    cases h
    exact Template.not_breaks_of_compile hcompile

/-- Only the fields have templates, and their errors show no text of a template
as it is. -/
theorem guarded_build {config : Config} {e : ConfigError}
    (h : Transformer.build config = .error e) : (Error.config e).Guarded := by
  apply ConfigError.breaks_iff_of_compiled
  intro key raw cause he
  rcases except_bind_eq_error h with hfields | ⟨fields, _, hpolicy⟩
  · rcases exists_of_mapM_eq_error hfields with ⟨entry, _, hentry⟩
    exact not_breaks_of_buildField hentry he
  rcases except_bind_eq_error hpolicy with hlists | ⟨policy, _, hencoding⟩
  · rcases except_mapError_eq_error hlists with ⟨_, _, hcause⟩
    rw [he] at hcause
    cases hcause
  rcases except_bind_eq_error hencoding with hspec | ⟨encoding, _, htime⟩
  · unfold Transformer.buildEncoding at hspec
    split at hspec
    · cases hspec
    · rcases except_mapError_eq_error hspec with ⟨_, _, hcause⟩
      rw [he] at hcause
      cases hcause
  · have hfield := except_bind_pure_eq_error htime
    unfold Transformer.buildTimeField at hfield
    split at hfield
    · cases hfield
    · have hformatter := except_bind_pure_eq_error hfield
      unfold Transformer.buildFormatter at hformatter
      split at hformatter
      · cases hformatter
      · split at hformatter
        · cases hformatter
        · rcases except_mapError_eq_error hformatter with ⟨_, _, hcause⟩
          rw [he] at hcause
          cases hcause

end Reshape
