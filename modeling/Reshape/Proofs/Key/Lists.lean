import Reshape.Key.List
import Reshape.Proofs.Unicode.Lines

/-!
# Listed keys

The keys of a list are what stands between the blanks of its entries, in their
order; an entry with nothing but blanks has no key.  Entries that are joined
with commas come to the same keys exactly if none of them holds a comma.  Keys
that are listed once more stay what they are.
-/

namespace Reshape

open Unicode

structure IsKey (key : String) : Prop where
  some : key ≠ ""
  bare : Bare key.toList

/-- The keys that entries come to, in order and as often as they are listed. -/
inductive Listed : List String -> List String -> Prop
  | nil : Listed [] []
  | blank {entry : String} {entries keys : List String}
      (blank : Blank entry.toList) (rest : Listed entries keys) :
      Listed (entry :: entries) keys
  | key {entry key : String} {entries keys : List String}
      {before after : List Char} (before_blank : Blank before)
      (after_blank : Blank after)
      (around : entry.toList = before ++ (key.toList ++ after))
      (is_key : IsKey key) (rest : Listed entries keys) :
      Listed (entry :: entries) (key :: keys)

/-!
## Cleaning entries
-/

theorem cleanKeys_cons_of_blank {entry : List Char} (h : Blank entry)
    (entries : List (List Char)) :
    cleanKeys (entry :: entries) = cleanKeys entries := by
  unfold cleanKeys
  rw [List.map_cons, trim_of_blank h]
  rfl

theorem cleanKeys_cons_of_not_blank {entry : List Char} (h : Not (Blank entry))
    (entries : List (List Char)) :
    cleanKeys (entry :: entries) =
      String.ofList (trim entry) :: cleanKeys entries := by
  have hsome : (!(trim entry).isEmpty) = true := by
    rw [Bool.not_eq_true', List.isEmpty_eq_false_iff]
    exact fun hnil => h (blank_of_trim_eq_nil hnil)
  unfold cleanKeys
  rw [List.map_cons, List.filter_cons, if_pos hsome, List.map_cons]

theorem isKey_trim {entry : List Char} (h : Not (Blank entry)) :
    IsKey (String.ofList (trim entry)) where
  some hempty := by
    have hnil := congrArg String.toList hempty
    rw [String.toList_ofList] at hnil
    exact h (blank_of_trim_eq_nil hnil)
  bare := by
    rw [String.toList_ofList]
    exact bare_trim entry

theorem mem_cleanKeys_iff {key : String} {entries : List (List Char)} :
    key ∈ cleanKeys entries <->
      exists entry, entry ∈ entries ∧ Not (Blank entry) ∧
        key = String.ofList (trim entry) := by
  unfold cleanKeys
  simp only [List.mem_map, List.mem_filter, Bool.not_eq_true',
    List.isEmpty_eq_false_iff]
  constructor
  · rintro ⟨_, ⟨⟨entry, hentry, rfl⟩, hsome⟩, rfl⟩
    exact ⟨entry, hentry, fun hblank => hsome (trim_of_blank hblank), rfl⟩
  · rintro ⟨entry, hentry, hnot, rfl⟩
    exact ⟨trim entry,
      ⟨⟨entry, hentry, rfl⟩, fun hnil => hnot (blank_of_trim_eq_nil hnil)⟩, rfl⟩

theorem listed_cleanKeys (entries : List String) :
    Listed entries (cleanKeys (entries.map String.toList)) := by
  induction entries with
  | nil => exact .nil
  | cons entry rest ih =>
      rw [List.map_cons]
      by_cases hblank : Blank entry.toList
      · rw [cleanKeys_cons_of_blank hblank]
        exact .blank hblank ih
      · rw [cleanKeys_cons_of_not_blank hblank]
        rcases exists_around_trim entry.toList with ⟨tail, haround, htail⟩
        have hlead : Blank (entry.toList.takeWhile isBlank) :=
          fun c hc => List.mem_takeWhile_imp hc
        refine .key hlead htail ?_ (isKey_trim hblank) ih
        rw [String.toList_ofList]
        exact haround

theorem cleanKeys_of_isKey {keys : List String}
    (h : forall key, key ∈ keys -> IsKey key) :
    cleanKeys (keys.map String.toList) = keys := by
  induction keys with
  | nil => rfl
  | cons key rest ih =>
      have hkey := h key List.mem_cons_self
      have htrim := trim_of_bare hkey.bare
      have hnot : Not (Blank key.toList) := by
        intro hblank
        rw [trim_of_blank hblank] at htrim
        exact hkey.some (String.toList_eq_nil_iff.mp htrim.symm)
      rw [List.map_cons, cleanKeys_cons_of_not_blank hnot, htrim,
        String.ofList_toList,
        ih fun other hother => h other (List.mem_cons_of_mem key hother)]

/-!
## Commas
-/

theorem comma_not_mem_of_mem_splitKeys {list key : String}
    (h : key ∈ splitKeys list) : Not (',' ∈ key.toList) := by
  rcases mem_cleanKeys_iff.mp h with ⟨entry, hentry, _, rfl⟩
  rw [String.toList_ofList]
  exact fun hcomma => not_mem_of_mem_splitOn hentry (mem_of_mem_trim hcomma)

theorem mem_trim {cs : List Char} {c : Char} (hc : isBlank c = false)
    (h : c ∈ cs) : c ∈ trim cs := by
  rcases exists_around_trim cs with ⟨tail, hcs, htail⟩
  rw [hcs, List.mem_append, List.mem_append] at h
  rcases h with hlead | htrim | hafter
  · rw [List.mem_takeWhile_imp hlead] at hc
    cases hc
  · exact htrim
  · rw [htail c hafter] at hc
    cases hc

theorem splitKeys_intercalate {entries : List String}
    (h : forall entry, entry ∈ entries -> Not (',' ∈ entry.toList)) :
    splitKeys (",".intercalate entries) =
      cleanKeys (entries.map String.toList) := by
  have hjoined : (",".intercalate entries).toList =
      joinWith ',' (entries.map String.toList) := by
    rw [String.toList_intercalate, joinWith_eq_intercalate]
    rfl
  unfold splitKeys
  rw [hjoined]
  cases entries with
  | nil => rfl
  | cons first more =>
      have hpieces :
          forall piece, piece ∈ first.toList :: more.map String.toList ->
            Not (',' ∈ piece) := by
        intro piece hpiece
        rcases List.mem_map.mp (List.map_cons ▸ hpiece) with
          ⟨entry, hentry, rfl⟩
        exact h entry hentry
      rw [List.map_cons, splitOn_joinWith hpieces]

theorem comma_not_mem_of_keys_eq {entries : List String}
    (h : splitKeys (",".intercalate entries) =
      cleanKeys (entries.map String.toList)) :
    forall entry, entry ∈ entries -> Not (',' ∈ entry.toList) := by
  intro entry hentry hcomma
  have hnot : Not (Blank entry.toList) := by
    intro hblank
    cases hblank ',' hcomma
  have hkey : String.ofList (trim entry.toList) ∈
      splitKeys (",".intercalate entries) := by
    rw [h]
    exact mem_cleanKeys_iff.mpr
      ⟨entry.toList, List.mem_map_of_mem hentry, hnot, rfl⟩
  apply comma_not_mem_of_mem_splitKeys hkey
  rw [String.toList_ofList]
  exact mem_trim rfl hcomma

/-!
## Key lists
-/

theorem isKey_of_mem_keys {list : KeyList} {key : String}
    (h : key ∈ list.keys) : IsKey key := by
  cases list with
  | csv text =>
      rcases mem_cleanKeys_iff.mp h with ⟨entry, _, hnot, rfl⟩
      exact isKey_trim hnot
  | items entries =>
      rcases mem_cleanKeys_iff.mp h with ⟨entry, _, hnot, rfl⟩
      exact isKey_trim hnot

/-- Entries come to their keys, listed one by one or, exactly if none of them
holds a comma, in one text.  What any list comes to are keys, and these come to
themselves. -/
theorem keys_of_lists (entries : List String) (list : KeyList) :
    ((KeyList.csv (",".intercalate entries)).keys =
      (KeyList.items entries).keys <->
        forall entry, entry ∈ entries -> Not (',' ∈ entry.toList)) ∧
      Listed entries (KeyList.items entries).keys ∧
      (forall key, key ∈ list.keys -> IsKey key) ∧
      (KeyList.items list.keys).keys = list.keys := by
  refine ⟨⟨comma_not_mem_of_keys_eq, splitKeys_intercalate⟩,
    listed_cleanKeys entries, ?_, ?_⟩
  · intro key hkey
    exact isKey_of_mem_keys hkey
  · exact cleanKeys_of_isKey fun key hkey => isKey_of_mem_keys hkey

def spacedEntries : List String :=
  ["\u3000b ", "", "a", "\u2028", "b"]

theorem keys_of_lists_spaced :
    (forall entry, entry ∈ spacedEntries -> Not (',' ∈ entry.toList)) ∧
      (KeyList.csv (",".intercalate spacedEntries)).keys =
        (KeyList.items spacedEntries).keys ∧
      (KeyList.items spacedEntries).keys = ["b", "a", "b"] ∧
      "b" ∈ (KeyList.items spacedEntries).keys ∧ IsKey "b" := by
  have hcommas :
      forall entry, entry ∈ spacedEntries -> Not (',' ∈ entry.toList) := by
    decide
  have hkeys : (KeyList.items spacedEntries).keys = ["b", "a", "b"] := by decide
  have hmem : "b" ∈ (KeyList.items spacedEntries).keys := by
    rw [hkeys]
    exact List.mem_cons_self
  rcases keys_of_lists spacedEntries (.items spacedEntries) with
    ⟨hjoined, _, hbare, _⟩
  exact ⟨hcommas, hjoined.mpr hcommas, hkeys, hmem, hbare "b" hmem⟩

end Reshape
