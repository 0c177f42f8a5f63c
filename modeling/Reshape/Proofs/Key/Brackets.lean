import Reshape.Proofs.Except
import Reshape.Proofs.Key.Removal
import Reshape.Proofs.Number.Integer
import Reshape.Proofs.Unicode.Lines

/-!
# Key paths in brackets

Every accessor can be written in brackets, a key between quotes and a position
in decimal.  A path that is written like this is read as itself exactly if no
key holds a closing bracket: the reader looks for the first one, be it between
quotes or not, so that no key in brackets is ever read with one.  Quotes, dots,
opening brackets and blanks do no harm.
-/

namespace Reshape

open Unicode

namespace Accessor

def inner : Accessor -> List Char
  | .key name => '\x27' :: (name.toList ++ ['\x27'])
  | .position n => Json.intChars n.toInt

def bracketed (a : Accessor) : List Char :=
  '[' :: (a.inner ++ [']'])

theorem bracketed_append (a : Accessor) (rest : List Char) :
    a.bracketed ++ rest = '[' :: (a.inner ++ ']' :: rest) := by
  simp [bracketed]

/-!
## Between the brackets
-/

theorem class_of_mem_intChars {n : Int64} {c : Char}
    (h : c ∈ Json.intChars n.toInt) : c = '-' ∨ c.isDigit = true := by
  rcases (Integer.decimal_intChars n).exists_head with
    ⟨first, rest, hchars, hfirst, hrest⟩
  rw [hchars] at h
  rcases List.mem_cons.mp h with rfl | hmem
  · exact hfirst
  · exact .inr (hrest c hmem)

theorem closing_not_mem_intChars (n : Int64) :
    Not (']' ∈ Json.intChars n.toInt) := by
  intro hmem
  rcases class_of_mem_intChars hmem with heq | hdigit
  · cases heq
  · cases hdigit

theorem closing_mem_inner_iff {a : Accessor} :
    ']' ∈ a.inner <-> exists name, a = .key name ∧ ']' ∈ name.toList := by
  cases a with
  | key name => simp [inner]
  | position n => simpa [inner] using closing_not_mem_intChars n

theorem trim_inner (a : Accessor) : trim a.inner = a.inner := by
  cases a with
  | key name =>
      exact trim_of_framed ⟨'\x27', name.toList, '\x27', rfl, rfl, rfl⟩
  | position n =>
      apply trim_of_no_blank
      intro c hc
      rcases class_of_mem_intChars hc with rfl | hdigit
      · rfl
      · exact isBlank_of_isDigit hdigit

end Accessor

namespace KeyPath

theorem unquote?_eq_some_iff {quote : Char} {cs name : List Char} :
    unquote? quote cs = some name <-> cs = name ++ [quote] := by
  unfold unquote?
  constructor
  · intro h
    split at h
    · cases h
    · rename_i c before hreverse
      split at h
      · rename_i hc
        cases h
        rw [← List.reverse_reverse cs, hreverse, List.reverse_cons, hc]
      · cases h
  · rintro rfl
    rw [List.reverse_append]
    show (if quote = quote then some name.reverse.reverse else none) = some name
    rw [if_pos rfl, List.reverse_reverse]

theorem bracket_quoted {quote : Char} (h : isQuote quote = true)
    (name : List Char) :
    bracket (quote :: (name ++ [quote])) = .ok (.key (String.ofList name)) := by
  have hunquote : unquote? quote (name ++ [quote]) = some name :=
    unquote?_eq_some_iff.mpr rfl
  unfold bracket
  simp only [h, hunquote, if_true]

theorem exists_quote_of_bracket {inner : List Char} {name : String}
    (h : bracket inner = .ok (.key name)) :
    exists quote, inner = quote :: (name.toList ++ [quote]) := by
  unfold bracket at h
  dsimp only at h
  split at h
  · cases h
  · rename_i quote rest
    split at h
    · split at h
      · rename_i content hcontent
        cases h
        rw [String.toList_ofList]
        exact ⟨quote, congrArg _ (unquote?_eq_some_iff.mp hcontent)⟩
      · cases h
    · split at h <;> cases h

theorem bracket_intChars (n : Int64) :
    bracket (Json.intChars n.toInt) = .ok (.position n) := by
  rcases (Integer.decimal_intChars n).exists_head with ⟨c, rest, hchars, hc, _⟩
  have hother : forall d : Char, d ≠ '-' -> d.isDigit = false -> c ≠ d := by
    rintro d hminus hdigit rfl
    rcases hc with hc | hc
    · exact hminus hc
    · rw [hdigit] at hc
      cases hc
  have hread : Integer.read? (Json.intChars n.toInt) = some n := by
    refine (Integer.read?_eq_some_iff ?_).mpr (Integer.decimal_intChars n)
    intro rest' heq
    rw [hchars] at heq
    injection heq with heq _
    exact hother '+' (by decide) rfl heq
  have hquote : isQuote c = false := by
    simp only [isQuote, hother '"' (by decide) rfl,
      hother '\x27' (by decide) rfl, decide_false, Bool.or_self]
  rw [hchars] at hread ⊢
  unfold bracket
  simp only [hquote, hread, Bool.false_eq_true, if_false]

theorem bracket_inner (a : Accessor) : bracket a.inner = .ok a := by
  cases a with
  | key name =>
      have hquote : isQuote '\x27' = true := rfl
      have hread := bracket_quoted hquote name.toList
      rw [String.ofList_toList] at hread
      exact hread
  | position n => exact bracket_intChars n

/-!
## Brackets in a row
-/

theorem readAccessors_bracket {content : List Char} (h : Not (']' ∈ content))
    (rest : List Char) :
    readAccessors ('[' :: (content ++ ']' :: rest)) =
      (bracket (trim content)).bind
        fun a => (readAccessors rest).map (a :: ·) := by
  have hpasses : forall c, c ∈ content -> decide (c ≠ ']') = true := by
    intro c hc
    rw [decide_eq_true_eq]
    rintro rfl
    exact h hc
  have htake : (content ++ ']' :: rest).takeWhile (fun c => decide (c ≠ ']')) =
      content := by
    rw [List.takeWhile_append_of_pos hpasses]
    simp
  have hdrop : (content ++ ']' :: rest).dropWhile (fun c => decide (c ≠ ']')) =
      ']' :: rest := by
    rw [List.dropWhile_append_of_pos hpasses]
    simp
  rw [readAccessors, if_neg (by decide), if_pos rfl, htake]
  split
  · rename_i hnil
    rw [hdrop] at hnil
    cases hnil
  · rename_i after hcons
    rw [hdrop] at hcons
    cases hcons
    cases bracket (trim content) with
    | error e => rfl
    | ok a => cases readAccessors rest <;> rfl

def bracketedChars (path : List Accessor) : List Char :=
  path.flatMap Accessor.bracketed

theorem readAccessors_bracketed_append {a : Accessor} (h : Not (']' ∈ a.inner))
    (rest : List Char) :
    readAccessors (a.bracketed ++ rest) =
      (readAccessors rest).map (a :: ·) := by
  rw [a.bracketed_append, readAccessors_bracket h, a.trim_inner, bracket_inner]
  rfl

/-- The first closing bracket ends an accessor, so none is read that holds
one. -/
theorem not_mem_inner_of_readAccessors {a : Accessor} {path : List Accessor}
    {rest : List Char}
    (h : readAccessors (a.bracketed ++ rest) = .ok (a :: path)) :
    Not (']' ∈ a.inner) := by
  intro hmem
  rcases List.eq_append_cons_of_mem hmem with ⟨content, more, hinner, hcontent⟩
  rcases Accessor.closing_mem_inner_iff.mp hmem with ⟨name, rfl, hname⟩
  rw [Accessor.bracketed_append, hinner, List.append_assoc, List.cons_append,
    readAccessors_bracket hcontent] at h
  rcases except_bind_eq_ok h with ⟨read, hread, hrest⟩
  rcases except_map_eq_ok hrest with ⟨more, _, heq⟩
  cases heq
  rcases exists_quote_of_bracket hread with ⟨quote, htrim⟩
  have hclosing : ']' ∈ trim content := by
    rw [htrim]
    exact List.mem_cons_of_mem quote (List.mem_append_left _ hname)
  exact hcontent (mem_of_mem_trim hclosing)

theorem readAccessors_bracketedChars_iff (path : List Accessor) :
    readAccessors (bracketedChars path) = .ok path <->
      forall a, a ∈ path -> Not (']' ∈ a.inner) := by
  induction path with
  | nil => simp [bracketedChars, readAccessors]
  | cons a path ih =>
      have hchars :
          bracketedChars (a :: path) = a.bracketed ++ bracketedChars path :=
        List.flatMap_cons
      rw [List.forall_mem_cons, ← ih, hchars]
      constructor
      · intro h
        have hinner := not_mem_inner_of_readAccessors h
        rw [readAccessors_bracketed_append hinner] at h
        rcases except_map_eq_ok h with ⟨read, hread, heq⟩
        injection heq with _ heq
        rw [heq] at hread
        exact ⟨hinner, hread⟩
      · intro h
        rw [readAccessors_bracketed_append h.left, h.right]
        rfl

/-!
## Whole paths
-/

def written (path : List Accessor) : String :=
  String.ofList ('$' :: bracketedChars path)

theorem readPath_eq_ok_iff {cs : List Char} {name : String}
    {rest : List Accessor} :
    readPath cs = .ok (.key name :: rest) <->
      readAccessors cs = .ok (.key name :: rest) := by
  unfold readPath
  cases readAccessors cs with
  | error e => constructor <;> nofun
  | ok path =>
      cases path with
      | nil => constructor <;> nofun
      | cons first path =>
          cases first with
          | key other => exact Iff.rfl
          | position n => constructor <;> nofun

theorem parse_trimmed (source : String) :
    parse (trimmed source) = parse source := by
  have htrim : trimmed (trimmed source) = trimmed source := by
    unfold trimmed
    rw [String.toList_ofList, trim_trim]
  unfold parse
  rw [htrim]

theorem raw_of_parse {source : String} {path : KeyPath}
    (h : parse source = .ok path) : path.raw = trimmed source := by
  unfold parse at h
  dsimp only at h
  split at h
  · cases h
  · split at h
    · cases h
      rfl
    · cases h
  · cases h
    rfl

theorem framed_written {path : List Accessor} (h : path ≠ []) :
    Framed ('$' :: bracketedChars path) := by
  rcases List.eq_nil_or_concat path with hnil | ⟨before, last, hpath⟩
  · exact absurd hnil h
  · refine ⟨'$', bracketedChars before ++ '[' :: last.inner, ']', ?_, rfl, rfl⟩
    rw [hpath]
    simp [bracketedChars, Accessor.bracketed]

theorem parse_written (name : String) (rest : List Accessor) :
    (parse (written (.key name :: rest))).map accessors =
        .ok (.key name :: rest) <->
      readPath (bracketedChars (.key name :: rest)) =
        .ok (.key name :: rest) := by
  have htrim :
      trimmed (written (.key name :: rest)) = written (.key name :: rest) := by
    unfold trimmed written
    rw [String.toList_ofList,
      trim_of_framed (framed_written (List.cons_ne_nil _ _))]
  unfold parse
  simp only [htrim]
  unfold written
  simp only [String.toList_ofList]
  cases readPath (bracketedChars (.key name :: rest)) with
  | error e => constructor <;> nofun
  | ok path =>
      constructor
      · intro h
        injection h with h
        exact congrArg _ h
      · intro h
        injection h with h
        exact congrArg _ h

/-- A path that begins with a key is read as itself from brackets exactly if
none of its keys holds a closing bracket.  Whatever is read begins with a key,
and is read again from the text that it is shown as. -/
theorem parse_written_iff :
    (forall name rest,
      (parse (written (.key name :: rest))).map accessors =
        .ok (.key name :: rest) <->
        forall key, .key key ∈ .key name :: rest -> Not (']' ∈ key.toList)) ∧
    forall source path, parse source = .ok path ->
      (exists name rest, path.accessors = .key name :: rest) ∧
        parse path.raw = .ok path := by
  constructor
  · intro name rest
    rw [parse_written, readPath_eq_ok_iff, readAccessors_bracketedChars_iff]
    constructor
    · intro h key hmem hclosing
      exact h (.key key) hmem
        (Accessor.closing_mem_inner_iff.mpr ⟨key, rfl, hclosing⟩)
    · intro h a hmem hclosing
      rcases Accessor.closing_mem_inner_iff.mp hclosing with ⟨key, rfl, hkey⟩
      exact h key hmem hkey
  · intro source path h
    refine ⟨exists_key_of_parse h, ?_⟩
    rw [raw_of_parse h, parse_trimmed, h]

theorem parse_written_iff_spaced :
    (parse (written [.key "it's \"a.b\" [c", .position (-1)])).map accessors =
        .ok [.key "it's \"a.b\" [c", .position (-1)] ∧
      exists path, parse "\t$[ \"it's\" ][-1].b " = .ok path ∧
        (exists name rest, path.accessors = .key name :: rest) ∧
        parse path.raw = .ok path := by
  have hkeys : forall key,
      Accessor.key key ∈ [.key "it's \"a.b\" [c", .position (-1)] ->
        Not (']' ∈ key.toList) := by
    intro key hmem
    rcases List.mem_cons.mp hmem with heq | hlater
    · cases heq
      decide
    · rcases List.mem_singleton.mp hlater with ⟨⟩
  have h : parse "\t$[ \"it's\" ][-1].b " =
      .ok ⟨"$[ \"it's\" ][-1].b", [.key "it's", .position (-1), .key "b"]⟩ := by
    with_unfolding_all rfl
  exact ⟨(parse_written_iff.left _ _).mpr hkeys, _, h,
    parse_written_iff.right _ _ h⟩

end KeyPath
end Reshape
