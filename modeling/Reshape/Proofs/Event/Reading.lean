import Reshape.Event
import Reshape.Proofs.Json.RoundTrip
import Reshape.Proofs.Unicode.Padding

/-!
# Reading one event

A JSON value that stands for an event is read as this event from its line,
whatever blanks are around it.  Neither alone nor with more lines after it is it
taken for a list of events.
-/

namespace Reshape
namespace Event

open Unicode

/-- The event that a JSON value stands for: an object alone gets the default
time, and a pair keeps its own. -/
inductive Stands (defaultTime : Int64) : Json -> Event -> Prop
  | bare (members : List (String × Json)) :
      Stands defaultTime (.object members)
        (defaultTime, recordOf (Json.membersRead members))
  | pair (time : Int64) (members : List (String × Json)) :
      Stands defaultTime (.array [.ofInt64 time, .object members])
        (time, recordOf (Json.membersRead members))

theorem framed_array (items : List Json) :
    Framed (Json.array items).renderChars := by
  rw [Json.renderChars_array]
  rcases Json.exists_listed Json.renderChars ']' items with ⟨inner, hlist⟩
  exact ⟨'[', inner, ']', congrArg _ hlist, rfl, rfl⟩

theorem time?_ofInt64 (time : Int64) : time? (.ofInt64 time) = some time := by
  have hlt : time.toInt < 0x8000000000000000 := Int64.toInt_lt time
  unfold time? Json.ofInt64
  simp only [hlt, if_true, Int64.ofInt_toInt]

theorem asRead_pair (time : Int64) (members : List (String × Json)) :
    (Json.array [.ofInt64 time, .object members]).asRead =
      .array [.ofInt64 time, .object (Json.membersRead members)] := by
  have htime : (Json.ofInt64 time).asRead = .ofInt64 time :=
    Json.asRead_of_plain (n := 0) (.integer time.toInt _)
  rw [Json.asRead_array, List.map_cons, List.map_cons, List.map_nil, htime,
    Json.asRead_object]

/-!
## Blanks
-/

theorem isSpace_of_not_blank {c : Char} (h : isBlank c = false) :
    Json.isSpace c = false := by
  cases hspace : Json.isSpace c with
  | false => rfl
  | true =>
      simp only [Json.isSpace, Bool.or_eq_true, decide_eq_true_eq] at hspace
      rcases hspace with ((rfl | rfl) | rfl) | rfl <;> cases h

theorem skipSpace_ne_nil {cs : List Char} {c : Char} (hmem : c ∈ cs)
    (hc : isBlank c = false) : Json.skipSpace cs ≠ [] := by
  intro hnil
  have hspace := List.dropWhile_eq_nil_iff.mp hnil c hmem
  rw [isSpace_of_not_blank hc] at hspace
  cases hspace

theorem extendsNumeral_of_blank {c : Char} (h : isBlank c = true) :
    Json.extendsNumeral c = false := by
  cases hextends : Json.extendsNumeral c with
  | false => rfl
  | true =>
      simp only [Json.extendsNumeral, Bool.or_eq_true, beq_iff_eq] at hextends
      rcases hextends with ((hdigit | rfl) | rfl) | rfl
      · rw [isBlank_of_isDigit hdigit] at h
        cases h
      · cases h
      · cases h
      · cases h

theorem stops_of_blank_line {pad : List Char} (h : Blank pad)
    (rest : List Char) : Json.Stops (pad ++ '\n' :: rest) := by
  cases pad with
  | nil => exact rfl
  | cons c pad => exact extendsNumeral_of_blank (h c List.mem_cons_self)

/-!
## A line
-/

section Standing

variable {defaultTime : Int64} {json : Json} {event : Event}

theorem framed_of_stands (h : Stands defaultTime json event) :
    Framed json.renderChars := by
  cases h with
  | bare members =>
      rw [Json.renderChars_object]
      rcases Json.exists_listed Json.memberChars '\x7d' members with
        ⟨inner, hlist⟩
      exact ⟨'\x7b', inner, '\x7d', congrArg _ hlist, rfl, rfl⟩
  | pair time members => exact framed_array _

theorem ofJson_asRead (h : Stands defaultTime json event) (line : Nat) :
    ofJson line defaultTime json.asRead = .ok event := by
  cases h with
  | bare members => rw [Json.asRead_object, ofJson]
  | pair time members => rw [asRead_pair, ofJson, time?_ofInt64]

theorem ofLine_around (hnested : Json.Nested Json.maxDepth json)
    (h : Stands defaultTime json event) {before after : List Char}
    (hbefore : Blank before) (hafter : Blank after) (line : Nat) :
    ofLine defaultTime line (before ++ (json.renderChars ++ after)) =
      .ok (some event) := by
  have hframed := framed_of_stands h
  have hnonempty : json.renderChars.isEmpty = false := by
    rcases hframed with ⟨c, inner, d, hchars, _⟩
    rw [hchars]
    rfl
  unfold ofLine
  simp only [trim_around hbefore hframed hafter, hnonempty, Bool.false_eq_true,
    if_false, Json.parseChars?_renderChars hnested, ofJson_asRead h]
  rfl

theorem ofLine_blank {line : List Char} (h : Blank line) (number : Nat) :
    ofLine defaultTime number line = .ok none := by
  unfold ofLine
  rw [trim_of_blank h]
  rfl

/-!
## No list
-/

theorem time?_asRead (h : Stands defaultTime json event) :
    time? json.asRead = none := by
  cases h with
  | bare members =>
      rw [Json.asRead_object]
      rfl
  | pair time members =>
      rw [asRead_pair]
      rfl

theorem items?_pair {cs : List Char} {time : Int64}
    {members : List (String × Json)}
    (h : Json.parseChars? cs = some (.array [.ofInt64 time, .object members])) :
    items? cs = none := by
  have hpair : isPair [.ofInt64 time, .object members] = true := by
    rw [isPair, time?_ofInt64]
    rfl
  unfold items?
  rw [h]
  exact if_pos hpair

theorem items?_of_stands (hnested : Json.Nested Json.maxDepth json)
    (h : Stands defaultTime json event) : items? json.renderChars = none := by
  have hparse := Json.parseChars?_renderChars hnested
  cases h with
  | bare members =>
      rw [Json.asRead_object] at hparse
      unfold items?
      rw [hparse]
  | pair time members =>
      rw [asRead_pair] at hparse
      exact items?_pair hparse

theorem items?_append (hnested : Json.Nested Json.maxDepth json)
    {after rest : List Char} (hafter : Pad after) {c : Char} (hmem : c ∈ rest)
    (hc : isBlank c = false) :
    items? (json.renderChars ++ (after ++ '\n' :: rest)) = none := by
  have hstops : Json.Stops (after ++ '\n' :: rest) :=
    stops_of_blank_line hafter.left rest
  have hgoes : Json.skipSpace (after ++ '\n' :: rest) ≠ [] :=
    skipSpace_ne_nil (List.mem_append_right _ (List.mem_cons_of_mem _ hmem)) hc
  unfold items?
  rw [Json.parseChars?_append hnested hstops hgoes]

end Standing

end Event
end Reshape
