import Reshape.Proofs.Fields
import Reshape.Proofs.Json.Floats
import Reshape.Proofs.Json.Lists
import Reshape.Proofs.Json.Strings

/-!
# Reading back JSON

A value is read back from its compact text, whatever comes after it that does
not go on with a numeral.  It may be nested as deep as the reader goes.  Only
its floats may come out as others.  If each of its objects has every key once,
merging the keys changes nothing.
-/

namespace Reshape
namespace Json

theorem induction_on_parts {P : Json -> Prop} (null : P .null)
    (bool : forall b, P (.bool b)) (number : forall n, P (.number n))
    (string : forall s, P (.string s))
    (array :
      forall items, (forall item, item ∈ items -> P item) -> P (.array items))
    (object :
      forall members : List (String × Json),
          (forall member, member ∈ members -> P member.2) ->
        P (.object members))
    (json : Json) : P json :=
  Json.rec null bool number string array object
    (fun _ h => absurd h List.not_mem_nil)
    (fun item rest hitem hrest v hv => by
      rcases List.mem_cons.mp hv with rfl | hv
      · exact hitem
      · exact hrest v hv)
    (fun _ h => absurd h List.not_mem_nil)
    (fun member rest hmember hrest e he => by
      rcases List.mem_cons.mp he with rfl | he
      · exact hmember
      · exact hrest e he)
    (fun _ _ hvalue => hvalue) json

inductive Nested : Nat -> Json -> Prop
  | null {n : Nat} : Nested n .null
  | bool {n : Nat} (b : Bool) : Nested n (.bool b)
  | number {n : Nat} (k : Number) : Nested n (.number k)
  | string {n : Nat} (s : String) : Nested n (.string s)
  | array {n : Nat} {items : List Json}
      (each : forall item, item ∈ items -> Nested n item) :
      Nested (n + 1) (.array items)
  | object {n : Nat} {members : List (String × Json)}
      (each : forall member, member ∈ members -> Nested n member.2) :
      Nested (n + 1) (.object members)

/-- Nested at most some levels deep, with integers for numbers and each key of
an object once. -/
inductive Plain : Nat -> Json -> Prop
  | null {n : Nat} : Plain n .null
  | bool {n : Nat} (b : Bool) : Plain n (.bool b)
  | integer {n : Nat} (k : Int)
      (inRange : -0x8000000000000000 ≤ k ∧ k < 0x10000000000000000) :
      Plain n (.number (.integer k inRange))
  | string {n : Nat} (s : String) : Plain n (.string s)
  | array {n : Nat} {items : List Json}
      (each : forall item, item ∈ items -> Plain n item) :
      Plain (n + 1) (.array items)
  | object {n : Nat} {members : List (String × Json)}
      (distinct : Fields.Distinct members)
      (each : forall member, member ∈ members -> Plain n member.2) :
      Plain (n + 1) (.object members)

theorem nested_of_plain {n : Nat} {json : Json} (h : Plain n json) :
    Nested n json := by
  induction h with
  | null => exact .null
  | bool b => exact .bool b
  | integer k inRange => exact .number _
  | string s => exact .string s
  | array each ih => exact .array ih
  | object distinct each ih => exact .object ih

theorem nested_succ {n : Nat} {json : Json} (h : Nested n json) :
    Nested (n + 1) json := by
  induction h with
  | null => exact .null
  | bool b => exact .bool b
  | number k => exact .number k
  | string s => exact .string s
  | array each ih => exact .array ih
  | object each ih => exact .object ih

theorem nested_of_le {m n : Nat} {json : Json} (h : Nested m json)
    (hle : m ≤ n) : Nested n json := by
  induction hle with
  | refl => exact h
  | step _ ih => exact nested_succ ih

theorem exists_nested_of_each {values : List Json}
    (h : forall value, value ∈ values -> exists n, Nested n value) :
    exists n, forall value, value ∈ values -> Nested n value := by
  induction values with
  | nil => exact ⟨0, nofun⟩
  | cons first rest ih =>
      rcases h first List.mem_cons_self with ⟨m, hfirst⟩
      rcases ih
        fun value hvalue => h value (List.mem_cons_of_mem first hvalue) with
          ⟨n, hrest⟩
      refine ⟨max m n, ?_⟩
      intro value hvalue
      rcases List.mem_cons.mp hvalue with rfl | hlater
      · exact nested_of_le hfirst (Nat.le_max_left m n)
      · exact nested_of_le (hrest value hlater) (Nat.le_max_right m n)

theorem exists_nested (json : Json) : exists n, Nested n json := by
  induction json using induction_on_parts with
  | null => exact ⟨0, .null⟩
  | bool b => exact ⟨0, .bool b⟩
  | number k => exact ⟨0, .number k⟩
  | string s => exact ⟨0, .string s⟩
  | array items ih =>
      rcases exists_nested_of_each ih with ⟨n, hitems⟩
      exact ⟨n + 1, .array hitems⟩
  | object members ih =>
      have hvalues : forall value, value ∈ members.map Prod.snd ->
          exists n, Nested n value := by
        intro value hvalue
        rcases List.mem_map.mp hvalue with ⟨member, hmember, rfl⟩
        exact ih member hmember
      rcases exists_nested_of_each hvalues with ⟨n, hmembers⟩
      refine ⟨n + 1, .object ?_⟩
      intro member hmember
      exact hmembers member.2 (List.mem_map_of_mem hmember)

/-!
## Numbers
-/

namespace Number

def numeral : Number -> Numeral
  | .integer k _ => Numeral.ofInt k
  | .float x _ => x.jsonNumeral

def reread (k : Number) : Number :=
  k.numeral.number?.getD k

theorem chars_numeral (k : Number) : k.numeral.chars = k.render := by
  cases k with
  | integer k inRange => exact Numeral.chars_ofInt k
  | float x finite => exact Binary64.chars_jsonNumeral x

theorem proper_numeral (k : Number) : k.numeral.Proper := by
  cases k with
  | integer k inRange => exact Numeral.proper_ofInt k
  | float x finite => exact Binary64.proper_jsonNumeral finite

theorem reread_integer (k : Int)
    (h : -0x8000000000000000 ≤ k ∧ k < 0x10000000000000000) :
    (Number.integer k h).reread = .integer k h := by
  unfold reread numeral
  rw [Numeral.number?_of_integer k h]
  rfl

theorem number?_numeral (k : Number) : k.numeral.number? = some k.reread := by
  cases k with
  | integer k inRange =>
      rw [reread_integer]
      exact Numeral.number?_of_integer k inRange
  | float x finite =>
      rcases Binary64.number?_jsonNumeral finite with ⟨y, hy, hnumber⟩
      unfold reread numeral
      rw [hnumber]
      rfl

end Number

/-!
## The text of a value
-/

def memberChars (member : String × Json) : List Char :=
  renderString member.1 ++ ':' :: renderChars member.2

theorem renderItems_eq (items : List Json) :
    renderItems items =
      (items.flatMap fun item => ',' :: renderChars item) ++ [']'] := by
  induction items with
  | nil => rfl
  | cons item rest ih =>
      rw [renderItems, ih, List.flatMap_cons]
      simp only [List.cons_append, List.append_assoc]

theorem renderMembers_eq (members : List (String × Json)) :
    renderMembers members =
      (members.flatMap fun member => ',' :: memberChars member) ++
        ['\x7d'] := by
  induction members with
  | nil => rfl
  | cons member rest ih =>
      rcases member with ⟨key, value⟩
      rw [renderMembers, ih, List.flatMap_cons]
      simp only [memberChars, List.cons_append, List.append_assoc]

theorem renderChars_array (items : List Json) :
    renderChars (.array items) = '[' :: listed renderChars ']' items := by
  cases items with
  | nil => rfl
  | cons item rest =>
      rw [renderChars, renderItems_eq]
      simp only [listed, List.cons_append, List.append_assoc]

theorem renderChars_object (members : List (String × Json)) :
    renderChars (.object members) =
      '\x7b' :: listed memberChars '\x7d' members := by
  cases members with
  | nil => rfl
  | cons member rest =>
      rcases member with ⟨key, value⟩
      rw [renderChars, renderMembers_eq]
      simp only [listed, memberChars, List.cons_append, List.append_assoc]

theorem isSpace_of_opensNumeral {c : Char} (h : opensNumeral c = true) :
    isSpace c = false := by
  simp only [isSpace, Bool.or_eq_false_iff, decide_eq_false_iff_not]
  exact ⟨⟨⟨ne_of_opensNumeral h rfl, ne_of_opensNumeral h rfl⟩,
      ne_of_opensNumeral h rfl⟩,
    ne_of_opensNumeral h rfl⟩

theorem exists_head_render (k : Number) :
    exists c cs, k.render = c :: cs ∧ opensNumeral c = true := by
  rw [← Number.chars_numeral]
  exact Numeral.exists_head_chars k.proper_numeral

theorem begins_renderChars (json : Json) : Begins ']' (renderChars json) := by
  cases json with
  | null => exact ⟨'n', _, rfl, rfl, by decide⟩
  | bool b =>
      cases b
      · exact ⟨'f', _, rfl, rfl, by decide⟩
      · exact ⟨'t', _, rfl, rfl, by decide⟩
  | number k =>
      rcases exists_head_render k with ⟨c, cs, hchars, hopens⟩
      exact ⟨c, cs, hchars, isSpace_of_opensNumeral hopens,
        ne_of_opensNumeral hopens rfl⟩
  | string s => exact ⟨'"', _, rfl, rfl, by decide⟩
  | array items => exact ⟨'[', _, renderChars_array _, rfl, by decide⟩
  | object members => exact ⟨'\x7b', _, renderChars_object _, rfl, by decide⟩

theorem newline_not_mem_memberChars {member : String × Json}
    (h : Not ('\n' ∈ renderChars member.2)) :
    Not ('\n' ∈ memberChars member) := by
  intro hmem
  rcases List.mem_append.mp hmem with hkey | hvalue
  · exact newline_not_mem_renderString member.1 hkey
  · rcases List.mem_cons.mp hvalue with hcolon | hvalue
    · exact absurd hcolon (by decide)
    · exact h hvalue

theorem newline_not_mem_renderChars {n : Nat} {json : Json}
    (h : Nested n json) : Not ('\n' ∈ renderChars json) := by
  induction h with
  | null => decide
  | bool b =>
      cases b
      · decide
      · decide
  | number k =>
      rw [renderChars, ← Number.chars_numeral]
      exact Numeral.newline_not_mem_chars k.proper_numeral
  | string s => exact newline_not_mem_renderString s
  | array each ih =>
      rw [renderChars_array, List.mem_cons, not_or]
      exact ⟨by decide, not_mem_listed (by decide) (by decide) ih⟩
  | object each ih =>
      rw [renderChars_object, List.mem_cons, not_or]
      refine ⟨by decide, not_mem_listed (by decide) (by decide) ?_⟩
      intro member hmember
      exact newline_not_mem_memberChars (ih member hmember)

/-!
## What is read
-/

mutual

def reread : Json -> Json
  | .null => .null
  | .bool b => .bool b
  | .number k => .number k.reread
  | .string s => .string s
  | .array items => .array (rereadItems items)
  | .object members => .object (rereadMembers members)

def rereadItems : List Json -> List Json
  | [] => []
  | item :: rest => item.reread :: rereadItems rest

def rereadMembers : List (String × Json) -> List (String × Json)
  | [] => []
  | (key, value) :: rest => (key, value.reread) :: rereadMembers rest

end

theorem rereadItems_eq (items : List Json) :
    rereadItems items = items.map reread := by
  induction items with
  | nil => rfl
  | cons item rest ih => rw [rereadItems, ih, List.map_cons]

theorem rereadMembers_eq (members : List (String × Json)) :
    rereadMembers members =
      members.map fun member => (member.1, member.2.reread) := by
  induction members with
  | nil => rfl
  | cons member rest ih =>
      rcases member with ⟨key, value⟩
      rw [rereadMembers, ih, List.map_cons]

theorem reread_of_plain {n : Nat} {json : Json} (h : Plain n json) :
    json.reread = json := by
  induction h with
  | null => rfl
  | bool b => rfl
  | integer k inRange => rw [reread, Number.reread_integer]
  | string s => rfl
  | array each ih =>
      rw [reread, rereadItems_eq, List.map_congr_left ih, List.map_id']
  | object distinct each ih =>
      rw [reread, rereadMembers_eq, List.map_congr_left (fun member hmember =>
        congrArg (Prod.mk member.1) (ih member hmember)), List.map_id']

/-!
## Reading values
-/

theorem reads_null (n : Nat) : Reads (value? n) (renderChars .null) .null := by
  intro rest _
  show value? n ('n' :: 'u' :: 'l' :: 'l' :: rest) = _
  rw [value?, skipSpace_cons rfl]
  rfl

theorem reads_bool (n : Nat) (b : Bool) :
    Reads (value? n) (renderChars (.bool b)) (.bool b) := by
  intro rest _
  cases b
  · show value? n ('f' :: 'a' :: 'l' :: 's' :: 'e' :: rest) = _
    rw [value?, skipSpace_cons rfl]
    rfl
  · show value? n ('t' :: 'r' :: 'u' :: 'e' :: rest) = _
    rw [value?, skipSpace_cons rfl]
    rfl

theorem reads_string (n : Nat) (s : String) :
    Reads (value? n) (renderChars (.string s)) (.string s) := by
  intro rest _
  have hread := string?_renderString s rest
  show value? n ('"' :: (s.toList.flatMap escapeChar ++ ['"'] ++ rest)) = _
  rw [value?, skipSpace_cons rfl]
  show Option.map _ (string? (renderString s ++ rest)) = _
  rw [hread]
  rfl

theorem reads_number (n : Nat) (k : Number) :
    Reads (value? n) (renderChars (.number k)) (.number k.reread) := by
  intro rest hrest
  rcases exists_head_render k with ⟨c, cs, hchars, hopens⟩
  have hother : forall d, opensNumeral d = false -> c ≠ d :=
    fun d => ne_of_opensNumeral hopens
  have hread := Numeral.read?_chars k.proper_numeral hrest
  rw [Number.chars_numeral] at hread
  rw [renderChars]
  rw [hchars, List.cons_append] at hread ⊢
  rw [value?, skipSpace_cons (isSpace_of_opensNumeral hopens)]
  simp only [hother '"' rfl, hother '[' rfl, hother '\x7b' rfl, hother 'n' rfl,
    hother 't' rfl, hother 'f' rfl, if_false, hread]
  show Option.bind (Numeral.number? _) _ = _
  rw [Number.number?_numeral]
  rfl

theorem reads_array {n : Nat} {items : List Json}
    (hreads :
      forall item, item ∈ items ->
        Reads (value? n) (renderChars item) item.reread) :
    Reads (value? (n + 1)) (renderChars (.array items))
      (.array (items.map reread)) := by
  intro rest _
  have hread :=
    items?_of_reads (.inl rfl) (fun item _ => begins_renderChars item)
      hreads rest
  rw [renderChars_array, List.cons_append, value?, skipSpace_cons rfl]
  show Option.map _
        (items? (value? n) ']' (listed renderChars ']' items ++ rest)) =
      _
  rw [hread]
  rfl

theorem reads_member {n : Nat} {key : String} {value : Json}
    (h : Reads (value? n) (renderChars value) value.reread) :
    Reads (member? (value? n)) (memberChars (key, value))
      (key, value.reread) := by
  intro rest hrest
  have hstring := string?_renderString key (':' :: (renderChars value ++ rest))
  have htext : memberChars (key, value) ++ rest =
      renderString key ++ ':' :: (renderChars value ++ rest) := by
    unfold memberChars
    rw [List.append_assoc]
    rfl
  have hskip :
      skipSpace (renderString key ++ ':' :: (renderChars value ++ rest)) =
        renderString key ++ ':' :: (renderChars value ++ rest) :=
    skipSpace_cons rfl _
  rw [htext, member?, hskip, hstring]
  show Option.bind (value? n (renderChars value ++ rest)) _ = _
  rw [h rest hrest]
  rfl

theorem reads_object {n : Nat} {members : List (String × Json)}
    (hreads : forall member, member ∈ members ->
      Reads (value? n) (renderChars member.2) member.2.reread) :
    Reads (value? (n + 1)) (renderChars (.object members))
      (.object (members.map fun member => (member.1, member.2.reread))) := by
  intro rest _
  have hbegins :
      forall member, member ∈ members -> Begins '\x7d' (memberChars member) :=
    fun member _ => ⟨'"', _, rfl, rfl, by decide⟩
  have hread := items?_of_reads (.inr rfl) hbegins
    (fun member hmember => reads_member (hreads member hmember)) rest
  rw [renderChars_object, List.cons_append, value?, skipSpace_cons rfl]
  show Option.map _
      (items? (member? (value? n)) '\x7d'
        (listed memberChars '\x7d' members ++ rest)) =
    _
  rw [hread]
  rfl

theorem reads_renderChars {n : Nat} {json : Json} (h : Nested n json) :
    Reads (value? n) (renderChars json) json.reread := by
  induction h with
  | null => exact reads_null _
  | bool b => exact reads_bool _ b
  | number k => exact reads_number _ k
  | string s => exact reads_string _ s
  | array each ih =>
      rw [reread, rereadItems_eq]
      exact reads_array ih
  | object each ih =>
      rw [reread, rereadMembers_eq]
      exact reads_object ih

/-!
## Keys
-/

theorem mergeItems_eq (items : List Json) :
    mergeItems items = items.map merge := by
  induction items with
  | nil => rfl
  | cons item rest ih => rw [mergeItems, ih, List.map_cons]

theorem mergeMembers_eq (members : List (String × Json)) :
    mergeMembers members =
      members.map fun member => (member.1, member.2.merge) := by
  induction members with
  | nil => rfl
  | cons member rest ih =>
      rcases member with ⟨key, value⟩
      rw [mergeMembers, ih, List.map_cons]

theorem merge_of_plain {n : Nat} {json : Json} (h : Plain n json) :
    json.merge = json := by
  induction h with
  | null => rfl
  | bool b => rfl
  | integer k inRange => rfl
  | string s => rfl
  | array each ih =>
      rw [merge, mergeItems_eq, List.map_congr_left ih, List.map_id']
  | @object _ members distinct each ih =>
      have hmembers :
          (members.map fun member => (member.1, member.2.merge)) = members := by
        rw [List.map_congr_left (fun member hmember =>
          congrArg (Prod.mk member.1) (ih member hmember)), List.map_id']
      rw [merge, mergeMembers_eq, hmembers, Fields.ofPairs_of_distinct distinct]

/-- The value as it is read back: each float as its numeral says, and each key
of an object once. -/
def asRead (json : Json) : Json :=
  json.reread.merge

theorem asRead_of_plain {n : Nat} {json : Json} (h : Plain n json) :
    json.asRead = json := by
  rw [asRead, reread_of_plain h, merge_of_plain h]

theorem asRead_array (items : List Json) :
    (array items).asRead = .array (items.map asRead) := by
  rw [asRead, reread, merge, rereadItems_eq, mergeItems_eq, List.map_map]
  rfl

def membersRead (members : List (String × Json)) : List (String × Json) :=
  Fields.ofPairs (members.map fun member => (member.1, member.2.asRead))

theorem asRead_object (members : List (String × Json)) :
    (object members).asRead = .object (membersRead members) := by
  rw [asRead, reread, merge, rereadMembers_eq, mergeMembers_eq, List.map_map]
  rfl

theorem membersRead_of_plain {n : Nat} {members : List (String × Json)}
    (h : Plain n (.object members)) : membersRead members = members := by
  have hread := asRead_of_plain h
  rw [asRead_object] at hread
  injection hread

/-!
## Whole texts
-/

theorem readChars?_renderChars {json : Json} (h : Nested maxDepth json) :
    readChars? (renderChars json) = some json.reread := by
  have hread := reads_renderChars h [] trivial
  rw [List.append_nil] at hread
  unfold readChars?
  rw [hread]
  rfl

theorem parseChars?_renderChars {json : Json} (h : Nested maxDepth json) :
    parseChars? (renderChars json) = some json.asRead := by
  unfold parseChars?
  rw [readChars?_renderChars h]
  rfl

theorem parseChars?_append {json : Json} (h : Nested maxDepth json)
    {rest : List Char} (hstops : Stops rest) (hrest : skipSpace rest ≠ []) :
    parseChars? (renderChars json ++ rest) = none := by
  unfold parseChars? readChars?
  rw [reads_renderChars h rest hstops]
  show Option.map merge
        (if (skipSpace rest).isEmpty then some json.reread else none) =
      none
  rw [if_neg (by simpa using hrest)]
  rfl

end Json
end Reshape
