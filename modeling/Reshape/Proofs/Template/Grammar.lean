import Reshape.Proofs.Template.Spelling
import Reshape.Template.Expr

/-!
# The grammar of expressions

An expression is a root with accessors after it, and one row of tokens stands
for it.  The parser takes a text for an expression exactly if the root takes the
path and the text spells these tokens, in whatever layout.  So every expression
of this shape can be printed and read again.
-/

namespace Reshape
namespace Template

/-!
## The tokens of an expression
-/

def innerToken : Accessor -> Token
  | .key name => .string name
  | .position n => .integer n

def accessorTokens (a : Accessor) : List Token :=
  [.openBracket, innerToken a, .closeBracket]

def pathTokens (path : List Accessor) : List Token :=
  path.flatMap accessorTokens

def Root.tokens : Root -> List Token
  | .tag => [.word "tag"]
  | .time => [.word "time"]
  | .record => [.word "record"]
  | .tagParts => [.word "tag_parts"]
  | .hostname => [.word "hostname"]
  | .environment name => .word "ENV" :: accessorTokens (.key name)
  | .string s => [.string s]
  | .integer n => [.integer n]

def Expr.tokens (e : Expr) : List Token :=
  e.root.tokens ++ pathTokens e.path

theorem Expr.exists_tokens_eq (e : Expr) :
    exists t path, e.tokens = t :: pathTokens path := by
  rcases e with ⟨root, path⟩
  cases root with
  | environment name => exact ⟨.word "ENV", .key name :: path, rfl⟩
  | _ => exact ⟨_, path, rfl⟩

theorem apart_cons_pathTokens (t : Token) (path : List Accessor) :
    Apart (t :: pathTokens path) := by
  induction path generalizing t with
  | nil => exact List.isChain_singleton t
  | cons a path ih =>
      have hlater : Apart (.closeBracket :: pathTokens path) := ih .closeBracket
      show Apart
          (t :: .openBracket :: innerToken a :: .closeBracket ::
            pathTokens path)
      unfold Apart
      rw [List.isChain_cons_cons, List.isChain_cons_cons,
        List.isChain_cons_cons]
      exact ⟨.inr (.inl rfl), .inl (.inl rfl), .inr (.inr rfl), hlater⟩

theorem Expr.apart_tokens (e : Expr) : Apart e.tokens := by
  rcases e.exists_tokens_eq with ⟨t, path, htokens⟩
  rw [htokens]
  exact apart_cons_pathTokens t path

/-!
## Reading tokens
-/

theorem Token.accessor?_eq_some_iff {t : Token} {a : Accessor} :
    t.accessor? = some a <-> t = innerToken a := by
  constructor
  · intro h
    cases t <;> cases h <;> rfl
  · rintro rfl
    cases a <;> rfl

theorem readAccessor_append (a : Accessor) (rest : List Token) :
    readAccessor (accessorTokens a ++ rest) = .ok (some (a, rest)) := by
  cases a <;> rfl

theorem readAccessor_eq_some {ts rest : List Token} {a : Accessor}
    (h : readAccessor ts = .ok (some (a, rest))) :
    ts = accessorTokens a ++ rest := by
  unfold readAccessor at h
  split at h
  · cases h
  · split at h
    · cases h
    · split at h
      · cases h
      · rename_i hinner
        split at h
        · cases h
        · cases h
          rw [Token.accessor?_eq_some_iff.mp hinner]
          rfl
        · cases h
  · cases h

theorem readAccessor_eq_none {ts : List Token}
    (h : readAccessor ts = .ok none) : ts = [] := by
  unfold readAccessor at h
  split at h
  · rfl
  · split at h
    · cases h
    · split at h
      · cases h
      · split at h <;> cases h
  · cases h

theorem readPath_eq_ok_iff {ts : List Token} {path : List Accessor} :
    readPath ts = .ok path <-> ts = pathTokens path := by
  constructor
  · intro h
    fun_induction readPath ts generalizing path with
    | case1 => cases h
    | case2 ts hnone =>
        cases h
        exact readAccessor_eq_none hnone
    | case3 ts a rest hsome ih =>
        rcases except_bind_eq_ok h with ⟨path', hrest, hpath⟩
        cases hpath
        rw [readAccessor_eq_some hsome, ih hrest]
        rfl
  · rintro rfl
    induction path with
    | nil =>
        rw [readPath]
        rfl
    | cons a path ih =>
        have hread : readAccessor (pathTokens (a :: path)) =
            .ok (some (a, pathTokens path)) :=
          readAccessor_append a (pathTokens path)
        rw [readPath]
        split
        · rename_i hfails
          rw [hread] at hfails
          cases hfails
        · rename_i hends
          rw [hread] at hends
          cases hends
        · rename_i hreads
          rw [hread] at hreads
          cases hreads
          rw [ih]
          rfl

theorem readRoot_eq_ok_iff {ts rest : List Token} {root : Root} :
    readRoot ts = .ok (root, rest) <-> ts = root.tokens ++ rest := by
  constructor
  · intro h
    unfold readRoot at h
    split at h
    · cases h
    · split at h
      case h_6 =>
        -- The name of a variable of the environment is the only root with an
        -- accessor of its own.
        split at h
        · cases h
        · rename_i haccessor
          cases h
          rw [readAccessor_eq_some haccessor]
          rfl
        · cases h
      case h_7 => cases h
      all_goals
        cases h
        rfl
    · cases h
      rfl
    · cases h
      rfl
    · cases h
  · rintro rfl
    cases root <;> rfl

def Expr.Shaped (e : Expr) : Prop :=
  match e.root, e.path with
  | .record, _ => True
  | .tagParts, [.position _] => True
  | _, path => path = []

theorem checkPath_eq_ok_iff {root : Root} {path : List Accessor} :
    checkPath root path = .ok () <-> Expr.Shaped ⟨root, path⟩ := by
  constructor
  · intro h
    unfold checkPath at h
    split at h
    · trivial
    · cases root <;> trivial
    · trivial
    · cases h
    · cases h
  · intro h
    cases root with
    | record => rfl
    | tagParts =>
        cases path with
        | nil => rfl
        | cons first rest =>
            cases first with
            | key name => cases h
            | position n =>
                cases rest with
                | nil => rfl
                | cons second rest => cases h
    | _ =>
        cases h
        rfl

theorem Expr.ofTokens_eq_ok_iff {ts : List Token} {e : Expr} :
    Expr.ofTokens ts = .ok e <-> e.Shaped ∧ ts = e.tokens := by
  rcases e with ⟨root, path⟩
  constructor
  · intro h
    rcases except_bind_eq_ok h with ⟨⟨root', rest⟩, hroot, hrest⟩
    rcases except_bind_eq_ok hrest with ⟨path', hpath, hcheck⟩
    rcases except_bind_eq_ok hcheck with ⟨_, hshape, hok⟩
    cases hok
    refine ⟨checkPath_eq_ok_iff.mp hshape, ?_⟩
    rw [readRoot_eq_ok_iff.mp hroot, readPath_eq_ok_iff.mp hpath]
    rfl
  · rintro ⟨hshape, rfl⟩
    have hroot :
        readRoot (Expr.tokens ⟨root, path⟩) = .ok (root, pathTokens path) :=
      readRoot_eq_ok_iff.mpr rfl
    have hpath : readPath (pathTokens path) = .ok path :=
      readPath_eq_ok_iff.mpr rfl
    unfold Expr.ofTokens
    rw [hroot]
    show ((readPath (pathTokens path)).bind fun path => _) = _
    rw [hpath]
    show ((checkPath root path).bind fun _ => _) = _
    rw [checkPath_eq_ok_iff.mpr hshape]
    rfl

theorem Expr.parse_eq_ok_iff {source : String} {e : Expr} :
    Expr.parse source = .ok e <->
      e.Shaped ∧ SpelledOut e.tokens source.toList := by
  unfold Expr.parse
  constructor
  · intro h
    cases htokens : tokenize source with
    | error cause =>
        rw [htokens] at h
        cases h
    | ok ts =>
        rw [htokens] at h
        rcases Expr.ofTokens_eq_ok_iff.mp h with ⟨hshape, rfl⟩
        exact ⟨hshape, spelledOut_of_tokens htokens⟩
  · rintro ⟨hshape, hspelled⟩
    have htokens : tokenize source = .ok e.tokens :=
      tokens_of_spelledOut hspelled e.apart_tokens _
    rw [htokens]
    exact Expr.ofTokens_eq_ok_iff.mpr ⟨hshape, rfl⟩

theorem shaped_of_parse {source : String} {e : Expr}
    (h : Expr.parse source = .ok e) : e.Shaped :=
  (Expr.parse_eq_ok_iff.mp h).left

/-!
## Printing
-/

def printChar (c : Char) : List Char :=
  if c = '"' ∨ c = '\\' then ['\\', c] else [c]

def Token.print : Token -> List Char
  | .word name => name.toList
  | .string content => '"' :: (content.toList.flatMap printChar ++ ['"'])
  | .integer n => Json.intChars n.toInt
  | .openBracket => ['[']
  | .closeBracket => [']']

/-- The expression without blanks, its strings between double quotes and with no
backslash but those that have to be there. -/
def Expr.print (e : Expr) : String :=
  String.ofList (e.tokens.flatMap Token.print)

theorem escaped_flatMap_printChar (content : List Char) :
    Escaped '"' content (content.flatMap printChar) := by
  induction content with
  | nil => exact .nil
  | cons c content ih =>
      rw [List.flatMap_cons, printChar]
      split
      · exact .backslash c ih
      · rename_i hplain
        rw [not_or] at hplain
        exact .plain hplain.left hplain.right ih

theorem spelled_string (content : String) :
    (Token.string content).Spelled (Token.string content).print := by
  have hspelled :=
    Token.Spelled.string (.inl rfl) (escaped_flatMap_printChar content.toList)
  rw [String.ofList_toList] at hspelled
  exact hspelled

theorem spelledOut_pathTokens (path : List Accessor) :
    SpelledOut (pathTokens path) ((pathTokens path).flatMap Token.print) := by
  induction path with
  | nil => exact .nil
  | cons a path ih =>
      have hinner : (innerToken a).Spelled (innerToken a).print := by
        cases a with
        | key name => exact spelled_string name
        | position n => exact .integer (Integer.decimal_intChars n)
      exact .token .openBracket (.token hinner (.token .closeBracket ih))

theorem spelled_word {name : String} {c : Char} {cs : List Char}
    (hname : name.toList = c :: cs) (hstart : isWordStart c = true)
    (hparts : cs.all isWordPart = true) :
    (Token.word name).Spelled (Token.word name).print := by
  have hspelled := Token.Spelled.word hstart (List.all_eq_true.mp hparts)
  rw [← hname, String.ofList_toList] at hspelled
  exact hspelled

theorem Expr.spelledOut_print (e : Expr) :
    SpelledOut e.tokens e.print.toList := by
  have hpath := spelledOut_pathTokens e.path
  unfold Expr.print Expr.tokens
  rw [String.toList_ofList]
  cases e.root with
  | tag => exact .token (spelled_word rfl rfl rfl) hpath
  | time => exact .token (spelled_word rfl rfl rfl) hpath
  | record => exact .token (spelled_word rfl rfl rfl) hpath
  | tagParts => exact .token (spelled_word rfl rfl rfl) hpath
  | hostname => exact .token (spelled_word rfl rfl rfl) hpath
  | environment name =>
      exact .token (spelled_word rfl rfl rfl)
        (spelledOut_pathTokens (.key name :: e.path))
  | string s => exact .token (spelled_string s) hpath
  | integer n => exact .token (.integer (Integer.decimal_intChars n)) hpath

/-!
## What the parser takes
-/

/-- What is parsed is what spells the tokens of an expression whose root takes
the path, and each of these expressions comes back from its printing. -/
theorem Expr.parse_iff_grammatical (source : String) (e : Expr) :
    (Expr.parse source = .ok e <->
      e.Shaped ∧ SpelledOut e.tokens source.toList) ∧
      (Expr.parse e.print = .ok e <-> e.Shaped) := by
  refine ⟨Expr.parse_eq_ok_iff, ?_⟩
  rw [Expr.parse_eq_ok_iff]
  exact and_iff_left e.spelledOut_print

end Template
end Reshape
