import Reshape.Proofs.Json.RoundTrip
import Reshape.Proofs.Unicode.Decoding
import Reshape.Value.Json

/-!
# Values through JSON

A JSON value comes back from the value that it becomes, and a value that JSON
holds exactly comes back from JSON: its keys in their order, its numbers of
their kind, its texts byte by byte.  Every value that comes from JSON is held
exactly.
-/

namespace Reshape
namespace Value

/-- Held by JSON exactly: unsigned integers only above the signed words, finite
floats, and texts in valid UTF-8. -/
inductive Exact : Value -> Prop
  | null : Exact .null
  | bool (b : Bool) : Exact (.bool b)
  | int (k : Int64) : Exact (.int k)
  | uint (k : UInt64) (large : 0x8000000000000000 ≤ k.toNat) : Exact (.uint k)
  | float (x : Binary64) (finite : x.isFinite = true) : Exact (.float x)
  | text (t : Text) (utf8 : t.charset = .utf8)
      (valid : exists cs, t.bytes = Unicode.Utf8.encode cs) : Exact (.text t)
  | array {items : List Value}
      (each : forall item, item ∈ items -> Exact item) : Exact (.array items)
  | map {entries : Record}
      (each : forall entry, entry ∈ entries -> Exact entry.2) :
      Exact (.map entries)

theorem exists_ofString {t : Text} (utf8 : t.charset = .utf8)
    (valid : exists cs, t.bytes = Unicode.Utf8.encode cs) :
    exists s, t = Text.ofString s := by
  rcases valid with ⟨cs, hbytes⟩
  exists String.ofList cs
  rcases t with ⟨bytes, charset⟩
  unfold Text.ofString Unicode.Utf8.ofString
  rw [String.toList_ofList, ← hbytes, ← utf8]

/-!
## Arrays and maps
-/

theorem itemsToJson_eq (items : List Value) :
    itemsToJson items = items.map toJson := by
  induction items with
  | nil => rfl
  | cons item rest ih => rw [itemsToJson, ih, List.map_cons]

theorem entriesToJson_eq (entries : Record) :
    entriesToJson entries =
      entries.map fun entry => (entry.1, toJson entry.2) := by
  induction entries with
  | nil => rfl
  | cons entry rest ih =>
      rcases entry with ⟨key, value⟩
      rw [entriesToJson, ih, List.map_cons]

theorem ofJsonItems_eq (items : List Json) :
    ofJsonItems items = items.map ofJson := by
  induction items with
  | nil => rfl
  | cons item rest ih => rw [ofJsonItems, ih, List.map_cons]

theorem ofJsonMembers_eq (members : List (String × Json)) :
    ofJsonMembers members =
      members.map fun member => (member.1, ofJson member.2) := by
  induction members with
  | nil => rfl
  | cons member rest ih =>
      rcases member with ⟨key, value⟩
      rw [ofJsonMembers, ih, List.map_cons]

/-!
## Integers
-/

theorem ofInteger_toInt (k : Int64) : ofInteger k.toInt = .int k := by
  have hlt : k.toInt < 0x8000000000000000 := Int64.toInt_lt k
  unfold ofInteger
  rw [if_pos hlt, Int64.ofInt_toInt]

theorem ofInteger_toNat {k : UInt64} (large : 0x8000000000000000 ≤ k.toNat) :
    ofInteger k.toNat = .uint k := by
  unfold ofInteger
  rw [if_neg (by lia), Int.toNat_natCast, UInt64.ofNat_toNat]

theorem ofInteger_cases {n : Int}
    (h : -0x8000000000000000 ≤ n ∧ n < 0x10000000000000000) :
    (exists k : Int64, ofInteger n = .int k ∧ k.toInt = n) ∨
      exists k : UInt64, ofInteger n = .uint k ∧ (k.toNat : Int) = n ∧
        0x8000000000000000 ≤ k.toNat := by
  unfold ofInteger
  split
  · rename_i hlt
    exact .inl ⟨_, rfl, Int64.toInt_ofInt_of_le (by lia) (by lia)⟩
  · rename_i hge
    have hvalue : (UInt64.ofNat n.toNat).toNat = n.toNat :=
      UInt64.toNat_ofNat_of_lt' (by
      show n.toNat < 2 ^ 64
      lia)
    exact .inr ⟨_, rfl, by lia, by lia⟩

theorem toJson_ofInteger {n : Int}
    (h : -0x8000000000000000 ≤ n ∧ n < 0x10000000000000000) :
    toJson (ofInteger n) = .number (.integer n h) := by
  rcases ofInteger_cases h with ⟨k, hk, hvalue⟩ | ⟨k, hk, hvalue, _⟩
  · rw [hk, toJson, Json.ofInt64]
    simp only [hvalue]
  · rw [hk, toJson, Json.ofUInt64]
    simp only [hvalue]

/-!
## There and back
-/

theorem ofJson_toJson_of_exact {value : Value} (h : Exact value) :
    ofJson (toJson value) = value := by
  induction h with
  | null => rfl
  | bool b => rfl
  | int k => exact ofInteger_toInt k
  | uint k large =>
      rw [toJson, Json.ofUInt64, ofJson, ofNumber]
      exact ofInteger_toNat large
  | float x finite => rw [toJson, floatToJson, dif_pos finite, ofJson, ofNumber]
  | text t utf8 valid =>
      rcases exists_ofString utf8 valid with ⟨s, rfl⟩
      show Value.ofString (Text.ofString s).shown = _
      rw [Text.shown_ofString]
      rfl
  | @array items each ih =>
      have hitems : (items.map fun item => ofJson (toJson item)) = items := by
        rw [List.map_congr_left ih, List.map_id']
      rw [toJson, ofJson, itemsToJson_eq, ofJsonItems_eq, List.map_map]
      exact congrArg Value.array hitems
  | @map entries each ih =>
      have hentries :
          (entries.map fun entry => (entry.1, ofJson (toJson entry.2))) =
            entries := by
        rw [List.map_congr_left (fun entry hentry =>
          congrArg (Prod.mk entry.1) (ih entry hentry)), List.map_id']
      rw [toJson, ofJson, entriesToJson_eq, ofJsonMembers_eq, List.map_map]
      exact congrArg Value.map hentries

theorem toJson_ofJson (json : Json) : toJson (ofJson json) = json := by
  induction json using Json.induction_on_parts with
  | null => rfl
  | bool b => rfl
  | number n =>
      cases n with
      | integer n inRange => exact toJson_ofInteger inRange
      | float x finite =>
          rw [ofJson, ofNumber, toJson, floatToJson, dif_pos finite]
  | string s =>
      show Json.string (Text.ofString s).shown = _
      rw [Text.shown_ofString]
  | array items ih =>
      have hitems : (items.map fun item => toJson (ofJson item)) = items := by
        rw [List.map_congr_left ih, List.map_id']
      rw [ofJson, toJson, ofJsonItems_eq, itemsToJson_eq, List.map_map]
      exact congrArg Json.array hitems
  | object members ih =>
      have hmembers :
          (members.map fun member => (member.1, toJson (ofJson member.2))) =
            members := by
        rw [List.map_congr_left (fun member hmember =>
          congrArg (Prod.mk member.1) (ih member hmember)), List.map_id']
      rw [ofJson, toJson, ofJsonMembers_eq, entriesToJson_eq, List.map_map]
      exact congrArg Json.object hmembers

theorem exact_ofJson (json : Json) : Exact (ofJson json) := by
  induction json using Json.induction_on_parts with
  | null => exact .null
  | bool b => exact .bool b
  | number n =>
      cases n with
      | integer n inRange =>
          show Exact (ofInteger n)
          rcases ofInteger_cases inRange with ⟨k, hk, _⟩ | ⟨k, hk, _, hlarge⟩
          · rw [hk]
            exact .int k
          · rw [hk]
            exact .uint k hlarge
      | float x finite => exact .float x finite
  | string s => exact .text _ rfl ⟨s.toList, rfl⟩
  | array items ih =>
      rw [ofJson, ofJsonItems_eq]
      refine .array ?_
      intro item hitem
      rcases List.mem_map.mp hitem with ⟨whole, hwhole, rfl⟩
      exact ih whole hwhole
  | object members ih =>
      rw [ofJson, ofJsonMembers_eq]
      refine .map ?_
      intro entry hentry
      rcases List.mem_map.mp hentry with ⟨member, hmember, rfl⟩
      exact ih member hmember

/-- JSON values and the values that JSON holds exactly are turned into each
other and back, with their keys in the same order and their numbers of the same
kind; of all numbers, just the integers above the signed words become unsigned
ones. -/
theorem conversions_inverse :
    (forall json : Json, toJson (ofJson json) = json ∧ Exact (ofJson json) ∧
      forall k, ofJson json = .uint k <->
        json = .ofUInt64 k ∧ 0x8000000000000000 ≤ k.toNat) ∧
    forall value, Exact value -> ofJson (toJson value) = value := by
  constructor
  · intro json
    refine ⟨toJson_ofJson json, exact_ofJson json, ?_⟩
    intro k
    constructor
    · intro h
      have hback := toJson_ofJson json
      have hexact := exact_ofJson json
      rw [h] at hback hexact
      cases hexact with
      | uint k large => exact ⟨hback.symm, large⟩
    · intro h
      rw [h.left, Json.ofUInt64, ofJson, ofNumber]
      exact ofInteger_toNat h.right
  · intro value h
    exact ofJson_toJson_of_exact h

/-- A map with keys out of order, an integer above the signed words, a negative
zero and a text beyond ASCII. -/
def assorted : Value :=
  .map
    [("z", .array [.uint 0x8000000000000000, .float ⟨0x8000000000000000⟩]),
      ("a", .ofString "é"), ("m", .int (-1))]

theorem conversions_inverse_assorted :
    Exact assorted ∧ ofJson (toJson assorted) = assorted := by
  have hexact : Exact assorted := by
    refine .map ?_
    simp only [List.mem_cons, List.not_mem_nil, or_false, forall_eq_or_imp,
      forall_eq]
    refine ⟨.array ?_, .text _ rfl ⟨"é".toList, rfl⟩, .int (-1)⟩
    simp only [List.mem_cons, List.not_mem_nil, or_false, forall_eq_or_imp,
      forall_eq]
    exact ⟨.uint _ (by decide), .float _ (by decide)⟩
  exact ⟨hexact, conversions_inverse.right assorted hexact⟩

/-!
## Nesting
-/

/-- Nested at most some levels deep and held by JSON exactly.  That the keys of
a map are distinct is no restriction: no operation on fields writes a key
twice. -/
inductive Portable : Nat -> Value -> Prop
  | null {n : Nat} : Portable n .null
  | bool {n : Nat} (b : Bool) : Portable n (.bool b)
  | int {n : Nat} (k : Int64) : Portable n (.int k)
  | uint {n : Nat} (k : UInt64) (large : 0x8000000000000000 ≤ k.toNat) :
      Portable n (.uint k)
  | text {n : Nat} (t : Text) (utf8 : t.charset = .utf8)
      (valid : exists cs, t.bytes = Unicode.Utf8.encode cs) :
      Portable n (.text t)
  | array {n : Nat} {items : List Value}
      (each : forall item, item ∈ items -> Portable n item) :
      Portable (n + 1) (.array items)
  | map {n : Nat} {entries : Record} (distinct : Fields.Distinct entries)
      (each : forall entry, entry ∈ entries -> Portable n entry.2) :
      Portable (n + 1) (.map entries)

theorem exact_of_portable {n : Nat} {value : Value} (h : Portable n value) :
    Exact value := by
  induction h with
  | null => exact .null
  | bool b => exact .bool b
  | int k => exact .int k
  | uint k large => exact .uint k large
  | text t utf8 valid => exact .text t utf8 valid
  | array each ih => exact .array ih
  | map distinct each ih => exact .map ih

theorem distinct_entriesToJson {entries : Record}
    (h : Fields.Distinct entries) :
    Fields.Distinct (entriesToJson entries) := by
  have hkeys : Fields.keys (entriesToJson entries) = Fields.keys entries := by
    rw [entriesToJson_eq]
    unfold Fields.keys
    rw [List.map_map]
    rfl
  unfold Fields.Distinct
  rw [hkeys]
  exact h

theorem plain_toJson {n : Nat} {value : Value} (h : Portable n value) :
    Json.Plain n (toJson value) := by
  induction h with
  | null => exact .null
  | bool b => exact .bool b
  | int k => exact .integer k.toInt _
  | uint k large => exact .integer k.toNat _
  | text t utf8 valid => exact .string t.shown
  | array each ih =>
      rw [toJson, itemsToJson_eq]
      apply Json.Plain.array
      intro item hitem
      rcases List.mem_map.mp hitem with ⟨value, hvalue, rfl⟩
      exact ih value hvalue
  | map distinct each ih =>
      rw [toJson]
      apply Json.Plain.object (distinct_entriesToJson distinct)
      intro member hmember
      rw [entriesToJson_eq] at hmember
      rcases List.mem_map.mp hmember with ⟨entry, hentry, rfl⟩
      exact ih entry hentry

theorem ofJson_toJson {n : Nat} {value : Value} (h : Portable n value) :
    ofJson (toJson value) = value :=
  ofJson_toJson_of_exact (exact_of_portable h)

end Value
end Reshape
