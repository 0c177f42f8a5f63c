import Reshape.Key.Policy
import Reshape.Proofs.Fields

/-!
# Whitelists

A whitelist keeps the fields that it lists, whatever else it lists and however
often.  The two orders differ in nothing but the places of the fields: one goes
by the list, the other by the record.  Going by the list, each field is taken
out of the record when the list first names it, so the record may lose its order
on the way.
-/

namespace Reshape

/-!
## Taking out with one move
-/

namespace Fields

variable {α : Type}

def closeGap (rest : Fields α) : Fields α :=
  match rest.getLast? with
  | none => []
  | some last => last :: rest.dropLast

/-- Erases a field with one move: the last field goes where it was. -/
def swapErase : Fields α -> String -> Fields α
  | [], _ => []
  | (k, v) :: rest, key =>
      if k = key then closeGap rest else (k, v) :: swapErase rest key

theorem perm_closeGap (rest : Fields α) : (closeGap rest).Perm rest := by
  rcases List.eq_nil_or_concat rest with rfl | ⟨before, last, rfl⟩
  · exact .nil
  · unfold closeGap
    rw [List.concat_eq_append, List.getLast?_concat, List.dropLast_concat]
    exact (List.perm_append_singleton last before).symm

theorem perm_swapErase (fields : Fields α) (key : String) :
    (fields.swapErase key).Perm (fields.erase key) := by
  induction fields with
  | nil => exact .nil
  | cons entry rest ih =>
      rcases entry with ⟨k, v⟩
      rw [swapErase, erase]
      split
      · exact perm_closeGap rest
      · exact ih.cons (k, v)

end Fields

theorem nodup_eraseDups (items : List String) : items.eraseDups.Nodup := by
  induction hlength : items.length using Nat.strongRecOn generalizing items with
  | ind n ih =>
      cases items with
      | nil => exact List.nodup_nil
      | cons item rest =>
          have hshorter :
              (rest.filter fun other => !other == item).length < n := by
            have hle := List.length_filter_le (fun other => !other == item) rest
            rw [List.length_cons] at hlength
            lia
          rw [List.eraseDups_cons, List.nodup_cons]
          constructor
          · simp
          · exact ih _ hshorter _ rfl

namespace KeyPolicy

open Fields

/-!
## In the order of the list
-/

theorem mem_pick_iff {listed : List String} {record : Record}
    (h : Distinct record) {entry : String × Value} :
    entry ∈ pick listed record <-> entry ∈ record ∧ entry.1 ∈ listed := by
  induction listed generalizing record with
  | nil => simp [pick]
  | cons key rest ih =>
      rw [pick]
      cases hget : record.get? key with
      | none =>
          have hne : entry ∈ record -> entry.1 ≠ key := by
            rintro hentry rfl
            exact not_mem_of_get?_eq_none hget (List.mem_map_of_mem hentry)
          rw [ih h, List.mem_cons]
          constructor
          · intro hlisted
            exact ⟨hlisted.left, .inr hlisted.right⟩
          · intro hlisted
            exact ⟨hlisted.left, hlisted.right.resolve_left (hne hlisted.left)⟩
      | some value =>
          rw [List.mem_cons, ih (distinct_erase h key), mem_erase_iff h,
            List.mem_cons]
          constructor
          · intro hpicked
            rcases hpicked with rfl | ⟨⟨hentry, _⟩, hlater⟩
            · exact ⟨mem_of_get?_eq_some hget, .inl rfl⟩
            · exact ⟨hentry, .inr hlater⟩
          · intro hlisted
            rcases entry with ⟨k, v⟩
            by_cases hk : k = key
            · -- The record has the key once, so what is picked is what stands
              -- there.
              subst hk
              have hfound := get?_of_mem h hlisted.left
              rw [hget] at hfound
              cases hfound
              exact .inl rfl
            · exact .inr ⟨⟨hlisted.left, hk⟩, hlisted.right.resolve_left hk⟩

theorem keys_pick (listed : List String) {record : Record}
    (h : Distinct record) :
    Fields.keys (pick listed record) =
      (listed.filter fun key => decide (key ∈ record.keys)).eraseDups := by
  induction listed generalizing record with
  | nil => rfl
  | cons key rest ih =>
      rw [pick]
      cases hget : record.get? key with
      | none =>
          have habsent : key ∉ record.keys := not_mem_of_get?_eq_none hget
          rw [List.filter_cons_of_neg (by simpa using habsent)]
          exact ih h
      | some value =>
          have hpresent : key ∈ record.keys :=
            mem_keys_iff.mpr ⟨value, mem_of_get?_eq_some hget⟩
          rw [List.filter_cons_of_pos (by simpa using hpresent),
            List.eraseDups_cons, List.filter_filter]
          show key :: Fields.keys (pick rest (record.erase key)) = _
          rw [ih (distinct_erase h key)]
          refine congrArg (key :: List.eraseDups ·) (List.filter_congr ?_)
          intro other _
          have hmem : other ∈ (record.erase key).keys <->
              other ≠ key ∧ other ∈ record.keys := by
            rw [mem_keys_iff, mem_keys_iff]
            simp only [mem_erase_iff h, exists_and_right]
            exact and_comm
          rw [decide_eq_decide.mpr hmem, Bool.decide_and, decide_not]
          rfl

theorem distinct_pick (listed : List String) {record : Record}
    (h : Distinct record) : Distinct (pick listed record) := by
  unfold Distinct
  rw [keys_pick listed h]
  exact nodup_eraseDups _

theorem pick_congr {listed : List String} {record other : Record}
    (h : Distinct record) (hother : Distinct other)
    (hsame : forall key, key ∈ listed -> record.get? key = other.get? key) :
    pick listed record = pick listed other := by
  induction listed generalizing record other with
  | nil => rfl
  | cons key rest ih =>
      rw [pick, pick, ← hsame key List.mem_cons_self]
      cases record.get? key with
      | none =>
          exact ih h hother
            fun later hlater => hsame later (List.mem_cons_of_mem key hlater)
      | some value =>
          refine congrArg ((key, value) :: ·)
            (ih (distinct_erase h key) (distinct_erase hother key) ?_)
          intro later hlater
          exact get?_erase_congr h hother
            (hsame later (List.mem_cons_of_mem key hlater))

theorem pick_pick (listed : List String) {record : Record}
    (h : Distinct record) :
    pick listed (pick listed record) = pick listed record := by
  have hpicked := distinct_pick listed h
  apply pick_congr hpicked h
  intro key hkey
  apply Option.ext
  intro value
  rw [get?_eq_some_iff hpicked, get?_eq_some_iff h, mem_pick_iff h]
  exact and_iff_left hkey

/-- The listed fields in the order of the list, each taken out of the record
with one move. -/
def drain : List String -> Record -> Record
  | [], _ => []
  | key :: listed, record =>
      match record.get? key with
      | some value => (key, value) :: drain listed (record.swapErase key)
      | none => drain listed record

/-- The moves change no more than the order of what is not yet taken out. -/
theorem drain_eq_pick {listed : List String} {record other : Record}
    (h : Distinct record) (hother : Distinct other)
    (hsame : forall key, record.get? key = other.get? key) :
    drain listed record = pick listed other := by
  induction listed generalizing record other with
  | nil => rfl
  | cons key rest ih =>
      rw [drain, pick, hsame key]
      cases other.get? key with
      | none => exact ih h hother hsame
      | some value =>
          have hperm := perm_swapErase record key
          have hswapped : Distinct (record.swapErase key) :=
            (hperm.map Prod.fst).nodup_iff.mpr (distinct_erase h key)
          refine congrArg ((key, value) :: ·)
            (ih hswapped (distinct_erase hother key) ?_)
          intro later
          rw [get?_of_perm hswapped hperm]
          exact get?_erase_congr h hother (hsame later)

/-!
## Both orders
-/

def keptKeys : WhitelistOrder -> List String -> List String -> List String
  | .declaration, listed, present =>
      (listed.filter fun key => decide (key ∈ present)).eraseDups
  | .input, listed, present => present.filter fun key => decide (key ∈ listed)

structure Kept (listed : List String) (order : WhitelistOrder)
    (record left : Record) : Prop where
  /-- The entries with a listed key stay as they are, and no others do. -/
  entries : forall entry, entry ∈ left <-> entry ∈ record ∧ entry.1 ∈ listed
  distinct : Distinct left
  /-- They stand where the list first names them, or as they stood in the
  record. -/
  ordered : Fields.keys left = keptKeys order listed record.keys
  settled : (whitelist listed order).reduce left = left

theorem kept_of_declaration (listed : List String) {record : Record}
    (h : Distinct record) :
    Kept listed .declaration record (pick listed record) where
  entries _ := mem_pick_iff h
  distinct := distinct_pick listed h
  ordered := keys_pick listed h
  settled := pick_pick listed h

theorem kept_of_input (listed : List String) {record : Record}
    (h : Distinct record) :
    Kept listed .input record
      (record.filter fun entry => listed.contains entry.1) where
  entries entry := by
    rw [List.mem_filter, List.contains_iff_mem]
  distinct := distinct_of_sublist h List.filter_sublist
  ordered := by
    show List.map Prod.fst (List.filter _ record) =
        List.filter _ (List.map Prod.fst record)
    rw [List.filter_map]
    refine congrArg (List.map Prod.fst) (List.filter_congr ?_)
    intro entry _
    exact List.contains_eq_mem entry.1 listed
  settled := by
    show List.filter _ (List.filter _ record) = _
    rw [List.filter_filter]
    simp only [Bool.and_self]

/-- Both orders leave the same entries, each order its own way round, and the
order that goes by the list comes to the same however its fields are taken
out. -/
theorem whitelist_keeps_listed (listed : List String) {record : Record}
    (h : Distinct record) :
    (forall order,
      Kept listed order record ((whitelist listed order).reduce record)) ∧
      ((whitelist listed .declaration).reduce record).Perm
        ((whitelist listed .input).reduce record) ∧
      (whitelist listed .declaration).reduce record = drain listed record := by
  have hdeclared := kept_of_declaration listed h
  have hgiven := kept_of_input listed h
  refine ⟨?_, ?_, ?_⟩
  · intro order
    cases order with
    | declaration => exact hdeclared
    | input => exact hgiven
  · refine (List.perm_ext_iff_of_nodup (nodup_of_distinct hdeclared.distinct)
      (nodup_of_distinct hgiven.distinct)).mpr ?_
    intro entry
    rw [hdeclared.entries, hgiven.entries]
  · exact (drain_eq_pick h h fun _ => rfl).symm

theorem whitelist_keeps_listed_repeated :
    Kept ["b", "a", "x", "b", "d"] .declaration
        [("a", .int 1), ("b", .int 2), ("c", .int 3), ("d", .int 4)]
        [("b", .int 2), ("a", .int 1), ("d", .int 4)] ∧
      Kept ["b", "a", "x", "b", "d"] .input
        [("a", .int 1), ("b", .int 2), ("c", .int 3), ("d", .int 4)]
        [("a", .int 1), ("b", .int 2), ("d", .int 4)] ∧
      drain ["b", "a", "x", "b", "d"]
        [("a", .int 1), ("b", .int 2), ("c", .int 3), ("d", .int 4)] =
        [("b", .int 2), ("a", .int 1), ("d", .int 4)] := by
  have hdistinct : Distinct
      [("a", Value.int 1), ("b", .int 2), ("c", .int 3), ("d", .int 4)] := by
    unfold Distinct
    decide
  have hkeeps := whitelist_keeps_listed ["b", "a", "x", "b", "d"] hdistinct
  exact ⟨hkeeps.left .declaration, hkeeps.left .input, hkeeps.right.right.symm⟩

end KeyPolicy
end Reshape
