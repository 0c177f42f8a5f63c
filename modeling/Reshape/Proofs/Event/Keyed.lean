import Reshape.Event
import Reshape.Proofs.Except
import Reshape.Proofs.Json.RoundTrip
import Reshape.Proofs.Value.Json
import Reshape.Proofs.Value.Keyed

/-!
# Keys of events that are read

A text may repeat a key of an object, but reading it keeps each key once, so
every event that is read has distinct keys at every depth.
-/

namespace Reshape

open Value

theorem Value.keyed_ofInteger (n : Int) : Keyed (ofInteger n) := by
  unfold ofInteger
  split
  · exact .int _
  · exact .uint _

theorem Value.keyed_ofJson_merge (json : Json) : Keyed (ofJson json.merge) := by
  induction json using Json.induction_on_parts with
  | null => exact .null
  | bool b => exact .bool b
  | number n =>
      cases n with
      | integer n inRange => exact keyed_ofInteger n
      | float x finite => exact .float x
  | string s => exact .text _
  | array items ih =>
      rw [Json.merge, Json.mergeItems_eq, ofJson, ofJsonItems_eq, List.map_map]
      refine .array ?_
      intro item hitem
      rcases List.mem_map.mp hitem with ⟨whole, hwhole, rfl⟩
      exact ih whole hwhole
  | object members ih =>
      rw [Json.merge, Json.mergeMembers_eq, ofJson, ofJsonMembers_eq]
      refine .map ?_ ?_
      · unfold Fields.Distinct Fields.keys
        rw [List.map_map]
        exact Fields.distinct_ofPairs _
      · intro entry hentry
        rcases List.mem_map.mp hentry with ⟨member, hmember, rfl⟩
        rcases List.mem_map.mp (Fields.mem_of_mem_ofPairs hmember) with
          ⟨whole, hwhole, rfl⟩
        exact ih whole hwhole

namespace Event

open Unicode

theorem keyed_of_parseChars? {cs : List Char} {json : Json}
    (h : Json.parseChars? cs = some json) : Keyed (Value.ofJson json) := by
  rcases Option.map_eq_some_iff.mp h with ⟨read, _, rfl⟩
  exact keyed_ofJson_merge read

theorem keyed_of_ofJson {line : Nat} {defaultTime : Int64} {json : Json}
    {event : Event} (hjson : Keyed (Value.ofJson json))
    (h : ofJson line defaultTime json = .ok event) : Keyed (.map event.2) := by
  unfold ofJson at h
  split at h
  · cases h
    exact hjson
  · split at h
    · cases h
      exact keyed_array_iff.mp hjson _
        (List.mem_cons_of_mem _ List.mem_cons_self)
    · cases h
  · cases h
  · cases h

theorem keyed_of_ofItems {defaultTime : Int64} {line : Nat} {items : List Json}
    {events : List Event}
    (hitems : forall json, json ∈ items -> Keyed (Value.ofJson json))
    (h : ofItems defaultTime line items = .ok events) {event : Event}
    (hmem : event ∈ events) : Keyed (.map event.2) := by
  induction items generalizing line events with
  | nil =>
      cases h
      cases hmem
  | cons json rest ih =>
      rcases except_bind_eq_ok h with ⟨first, hfirst, hlater⟩
      rcases except_bind_eq_ok hlater with ⟨more, hmore, heq⟩
      cases heq
      rcases List.mem_cons.mp hmem with rfl | hmem
      · exact keyed_of_ofJson (hitems json List.mem_cons_self) hfirst
      · exact ih
          (fun later hlater => hitems later (List.mem_cons_of_mem json hlater))
          hmore hmem

theorem keyed_of_ofLine {defaultTime : Int64} {line : Nat} {cs : List Char}
    {event : Event} (h : ofLine defaultTime line cs = .ok (some event)) :
    Keyed (.map event.2) := by
  unfold ofLine at h
  dsimp only at h
  split at h
  · cases h
  · split at h
    · cases h
    · rename_i json hjson
      rcases except_bind_eq_ok h with ⟨read, hread, heq⟩
      cases heq
      exact keyed_of_ofJson (keyed_of_parseChars? hjson) hread

theorem keyed_of_ofLines {defaultTime : Int64} {line : Nat}
    {lines : List (List Char)} {events : List Event}
    (h : ofLines defaultTime line lines = .ok events) {event : Event}
    (hmem : event ∈ events) : Keyed (.map event.2) := by
  induction lines generalizing line events with
  | nil =>
      cases h
      cases hmem
  | cons cs rest ih =>
      rcases except_bind_eq_ok h with ⟨read, hread, hlater⟩
      rcases except_bind_eq_ok hlater with ⟨more, hmore, heq⟩
      cases heq
      rcases List.mem_append.mp hmem with hfirst | hmem
      · rw [Option.mem_toList] at hfirst
        cases hfirst
        exact keyed_of_ofLine hread
      · exact ih hmore hmem

/-- Every event that is read from a text has distinct keys, however deep. -/
theorem keyed_of_parse {source : String} {defaultTime : Int64}
    {events : List Event} (h : parse source defaultTime = .ok events)
    {event : Event} (hmem : event ∈ events) : Keyed (.map event.2) := by
  unfold parse parseChars at h
  dsimp only at h
  split at h
  · cases h
    cases hmem
  · split at h
    · rename_i items hitems
      refine keyed_of_ofItems ?_ h hmem
      intro json hjson
      unfold items? at hitems
      split at hitems
      · rename_i whole hwhole
        split at hitems
        · cases hitems
        · cases hitems
          have hkeyed := keyed_of_parseChars? hwhole
          rw [Value.ofJson, ofJsonItems_eq] at hkeyed
          exact keyed_array_iff.mp hkeyed _ (List.mem_map_of_mem hjson)
      · cases hitems
    · exact keyed_of_ofLines h hmem

end Event
end Reshape
