import Reshape.Value.Basic

/-!
# Looking up what was written

A key that is written has the value it was written with, and every other key
keeps what it had.  Writing and erasing bring in no entry but the one that is
written.
-/

namespace Reshape
namespace Fields

variable {α : Type}

theorem get?_insert_self (fields : Fields α) (key : String) (value : α) :
    (fields.insert key value).get? key = some value := by
  induction fields with
  | nil => exact if_pos rfl
  | cons entry rest ih =>
      rcases entry with ⟨k, v⟩
      rw [insert]
      split
      · exact if_pos rfl
      · rename_i hne
        rw [get?, if_neg hne]
        exact ih

theorem get?_insert_of_ne (fields : Fields α) {key other : String}
    (h : other ≠ key) (value : α) :
    (fields.insert key value).get? other = fields.get? other := by
  induction fields with
  | nil => exact if_neg (Ne.symm h)
  | cons entry rest ih =>
      rcases entry with ⟨k, v⟩
      rw [insert]
      split
      · rename_i hkey
        rw [get?, get?, hkey]
        rw [if_neg (Ne.symm h), if_neg (Ne.symm h)]
      · rw [get?, get?, ih]

/-!
## Entries
-/

theorem mem_of_mem_erase {fields : Fields α} {key : String} {field : String × α}
    (h : field ∈ fields.erase key) : field ∈ fields := by
  induction fields with
  | nil => cases h
  | cons entry rest ih =>
      rcases entry with ⟨k, v⟩
      rw [erase] at h
      split at h
      · exact List.mem_cons_of_mem (k, v) h
      · rcases List.mem_cons.mp h with rfl | hrest
        · exact List.mem_cons_self
        · exact List.mem_cons_of_mem (k, v) (ih hrest)

theorem mem_of_get?_eq_some {fields : Fields α} {key : String} {value : α}
    (h : fields.get? key = some value) : (key, value) ∈ fields := by
  induction fields with
  | nil => cases h
  | cons entry rest ih =>
      rcases entry with ⟨k, v⟩
      rw [get?] at h
      split at h
      · rename_i hkey
        cases h
        rw [hkey]
        exact List.mem_cons_self
      · exact List.mem_cons_of_mem (k, v) (ih h)

theorem mem_keys_iff {fields : Fields α} {key : String} :
    key ∈ fields.keys <-> exists value, (key, value) ∈ fields := by
  constructor
  · intro h
    rcases List.mem_map.mp h with ⟨⟨k, v⟩, hfield, rfl⟩
    exact ⟨v, hfield⟩
  · intro h
    rcases h with ⟨value, hfield⟩
    exact List.mem_map_of_mem hfield

theorem get?_of_mem {fields : Fields α} (h : Distinct fields) {key : String}
    {value : α} (hmem : (key, value) ∈ fields) :
    fields.get? key = some value := by
  induction fields with
  | nil => cases hmem
  | cons entry rest ih =>
      rcases entry with ⟨k, v⟩
      rcases List.nodup_cons.mp h with ⟨hnew, hrest⟩
      rcases List.mem_cons.mp hmem with heq | hlater
      · cases heq
        exact if_pos rfl
      · have hne : k ≠ key := by
          rintro rfl
          exact hnew (mem_keys_iff.mpr ⟨value, hlater⟩)
        rw [get?, if_neg hne]
        exact ih hrest hlater

theorem get?_eq_some_iff {fields : Fields α} (h : Distinct fields)
    {key : String} {value : α} :
    fields.get? key = some value <-> (key, value) ∈ fields :=
  ⟨mem_of_get?_eq_some, get?_of_mem h⟩

theorem mem_of_mem_insert {fields : Fields α} {key : String} {value : α}
    {field : String × α} (h : field ∈ fields.insert key value) :
    field = (key, value) ∨ field ∈ fields := by
  induction fields with
  | nil =>
      left
      exact List.mem_singleton.mp h
  | cons entry rest ih =>
      rcases entry with ⟨k, v⟩
      rw [insert] at h
      split at h
      · rcases List.mem_cons.mp h with hnew | hrest
        · exact .inl hnew
        · exact .inr (List.mem_cons_of_mem (k, v) hrest)
      · rcases List.mem_cons.mp h with rfl | hrest
        · exact .inr List.mem_cons_self
        · rcases ih hrest with hnew | hold
          · exact .inl hnew
          · exact .inr (List.mem_cons_of_mem (k, v) hold)

theorem mem_of_mem_ofPairs {pairs : List (String × α)} {field : String × α}
    (h : field ∈ ofPairs pairs) : field ∈ pairs := by
  have hall : forall (more : List (String × α)) (fields : Fields α),
      field ∈
        more.foldl (fun fields pair => fields.insert pair.1 pair.2) fields ->
        field ∈ more ∨ field ∈ fields := by
    intro more
    induction more with
    | nil => exact fun _ hmem => .inr hmem
    | cons pair rest ih =>
        intro fields hmem
        rcases ih (fields.insert pair.1 pair.2) hmem with hlater | hbefore
        · exact .inl (List.mem_cons_of_mem pair hlater)
        · rcases mem_of_mem_insert hbefore with rfl | hold
          · exact .inl List.mem_cons_self
          · exact .inr hold
  rcases hall pairs [] h with hmem | hnil
  · exact hmem
  · cases hnil

theorem get?_eq_none_of_not_mem {fields : Fields α} {key : String}
    (h : key ∉ fields.keys) : fields.get? key = none := by
  cases hget : fields.get? key with
  | none => rfl
  | some value =>
      exact absurd (List.mem_map_of_mem (mem_of_get?_eq_some hget)) h

theorem not_mem_of_get?_eq_none {fields : Fields α} {key : String}
    (h : fields.get? key = none) : key ∉ fields.keys := by
  induction fields with
  | nil => exact List.not_mem_nil
  | cons entry rest ih =>
      rcases entry with ⟨k, v⟩
      rw [get?] at h
      split at h
      · cases h
      · rename_i hne
        intro hmem
        rcases List.mem_cons.mp hmem with hkey | hlater
        · exact hne hkey.symm
        · exact ih h hlater

theorem not_mem_keys_insert {fields : Fields α} {key other : String}
    (hne : key ≠ other) (h : key ∉ fields.keys) (value : α) :
    key ∉ (fields.insert other value).keys := by
  intro hmem
  rcases List.mem_map.mp hmem with ⟨field, hfield, hkey⟩
  rcases mem_of_mem_insert hfield with rfl | hold
  · exact hne hkey.symm
  · rw [← hkey] at h
    exact h (List.mem_map_of_mem hold)

theorem erase_of_get?_eq_none {fields : Fields α} {key : String}
    (h : fields.get? key = none) : fields.erase key = fields := by
  induction fields with
  | nil => rfl
  | cons entry rest ih =>
      rcases entry with ⟨k, v⟩
      rw [get?] at h
      split at h
      · cases h
      · rename_i hne
        rw [erase, if_neg hne, ih h]

/-!
## Around one entry

The first entry with a key is the one that is read, replaced and erased.
-/

section Around

variable {before : Fields α} {key : String} (h : key ∉ before.keys)

include h

theorem get?_around (value : α) (after : Fields α) :
    Fields.get? (before ++ (key, value) :: after) key = some value := by
  induction before with
  | nil => exact if_pos rfl
  | cons entry rest ih =>
      rcases List.ne_and_not_mem_of_not_mem_cons h with ⟨hne, hrest⟩
      rw [List.cons_append, get?, if_neg (Ne.symm hne)]
      exact ih hrest

theorem insert_around (value other : α) (after : Fields α) :
    Fields.insert (before ++ (key, value) :: after) key other =
      before ++ (key, other) :: after := by
  induction before with
  | nil => exact if_pos rfl
  | cons entry rest ih =>
      rcases List.ne_and_not_mem_of_not_mem_cons h with ⟨hne, hrest⟩
      rw [List.cons_append, insert, if_neg (Ne.symm hne)]
      exact congrArg (entry :: ·) (ih hrest)

theorem erase_around (value : α) (after : Fields α) :
    Fields.erase (before ++ (key, value) :: after) key = before ++ after := by
  induction before with
  | nil => exact if_pos rfl
  | cons entry rest ih =>
      rcases List.ne_and_not_mem_of_not_mem_cons h with ⟨hne, hrest⟩
      rw [List.cons_append, erase, if_neg (Ne.symm hne)]
      exact congrArg (entry :: ·) (ih hrest)

end Around

theorem exists_around {fields : Fields α} {key : String} {value : α}
    (h : fields.get? key = some value) :
    exists before after, fields = before ++ (key, value) :: after ∧
      key ∉ keys before := by
  induction fields with
  | nil => cases h
  | cons entry rest ih =>
      rcases entry with ⟨k, v⟩
      rw [get?] at h
      split at h
      · rename_i hkey
        cases h
        subst hkey
        exact ⟨[], rest, rfl, List.not_mem_nil⟩
      · rename_i hne
        rcases ih h with ⟨before, after, rfl, hbefore⟩
        refine ⟨(k, v) :: before, after, rfl, ?_⟩
        intro hmem
        rcases List.mem_cons.mp hmem with hkey | hlater
        · exact hne hkey.symm
        · exact hbefore hlater

/-!
## Writing one after another
-/

theorem insert_of_not_mem {fields : Fields α} {key : String}
    (h : key ∉ fields.keys) (value : α) :
    fields.insert key value = fields ++ [(key, value)] := by
  induction fields with
  | nil => rfl
  | cons entry rest ih =>
      rcases entry with ⟨k, v⟩
      have hne : k ≠ key := fun hkey => h (List.mem_cons.mpr (.inl hkey.symm))
      have hrest : key ∉ keys rest :=
        fun hmem => h (List.mem_cons_of_mem k hmem)
      rw [insert, if_neg hne, ih hrest]
      rfl

theorem keys_insert_of_mem {fields : Fields α} {key : String}
    (h : key ∈ fields.keys) (value : α) :
    (fields.insert key value).keys = fields.keys := by
  induction fields with
  | nil => cases h
  | cons entry rest ih =>
      rcases entry with ⟨k, v⟩
      rw [insert]
      split
      · rename_i hkey
        rw [hkey]
        rfl
      · rename_i hne
        exact congrArg (k :: ·)
          (ih ((List.mem_cons.mp h).resolve_left (Ne.symm hne)))

theorem keys_append (fields more : Fields α) :
    keys (fields ++ more) = fields.keys ++ more.keys :=
  List.map_append

theorem ofPairs_of_distinct {pairs : Fields α} (h : Distinct pairs) :
    ofPairs pairs = pairs := by
  have hall : forall (more fields : Fields α), Distinct (fields ++ more) ->
      more.foldl (fun fields pair => fields.insert pair.1 pair.2) fields =
        fields ++ more := by
    intro more
    induction more with
    | nil =>
        intro fields _
        exact (List.append_nil fields).symm
    | cons pair rest ih =>
        intro fields hdistinct
        have hnew : pair.1 ∉ fields.keys := by
          intro hmem
          unfold Distinct keys at hdistinct
          rw [List.map_append, List.nodup_append] at hdistinct
          exact hdistinct.right.right pair.1 hmem pair.1 List.mem_cons_self rfl
        rw [List.foldl_cons, insert_of_not_mem hnew]
        have hmove : fields ++ pair :: rest = fields ++ [pair] ++ rest := by
          rw [List.append_assoc]
          rfl
        rw [hmove] at hdistinct ⊢
        exact ih (fields ++ [pair]) hdistinct
  exact hall pairs [] h

theorem distinct_insert {fields : Fields α} (h : Distinct fields) (key : String)
    (value : α) : Distinct (fields.insert key value) := by
  induction fields with
  | nil => exact List.nodup_cons.mpr ⟨List.not_mem_nil, List.nodup_nil⟩
  | cons entry rest ih =>
      rcases entry with ⟨k, v⟩
      rcases List.nodup_cons.mp h with ⟨hnew, hrest⟩
      rw [insert]
      split
      · rename_i hkey
        rw [← hkey]
        exact h
      · rename_i hne
        exact List.nodup_cons.mpr ⟨not_mem_keys_insert hne hnew value, ih hrest⟩

def writeAll (fields : Fields α) (writes : List (String × α)) : Fields α :=
  writes.foldl (fun fields write => fields.insert write.1 write.2) fields

theorem writeAll_append (fields : Fields α) (before after : List (String × α)) :
    fields.writeAll (before ++ after) =
      (fields.writeAll before).writeAll after :=
  List.foldl_append

theorem distinct_writeAll {fields : Fields α} (h : Distinct fields)
    (writes : List (String × α)) : Distinct (fields.writeAll writes) := by
  induction writes generalizing fields with
  | nil => exact h
  | cons write rest ih => exact ih (distinct_insert h write.1 write.2)

theorem distinct_ofPairs (pairs : List (String × α)) :
    Distinct (ofPairs pairs) := by
  have hnil : Distinct ([] : Fields α) := List.nodup_nil
  exact distinct_writeAll hnil pairs

/-- The keys that are written and not there yet, in the order in which they are
first written. -/
def newKeys (fields : Fields α) (writes : List (String × α)) : List String :=
  ((keys writes).filter fun key => decide (key ∉ fields.keys)).eraseDups

theorem newKeys_cons_of_mem {fields : Fields α} {key : String}
    (h : key ∈ fields.keys) (value : α) (rest : List (String × α)) :
    fields.newKeys ((key, value) :: rest) =
      (fields.insert key value).newKeys rest := by
  unfold newKeys
  rw [keys_insert_of_mem h]
  refine congrArg List.eraseDups (List.filter_cons_of_neg ?_)
  simpa using h

theorem newKeys_cons_of_not_mem {fields : Fields α} {key : String}
    (h : key ∉ fields.keys) (value : α) (rest : List (String × α)) :
    fields.newKeys ((key, value) :: rest) =
      key :: (fields.insert key value).newKeys rest := by
  unfold newKeys
  rw [insert_of_not_mem h, keys_append]
  show (List.filter _ (key :: keys rest)).eraseDups = _
  rw [List.filter_cons_of_pos (by simpa using h), List.eraseDups_cons,
    List.filter_filter]
  refine congrArg (key :: List.eraseDups ·) (List.filter_congr ?_)
  intro other _
  have hmem : other ∉ fields.keys ++ keys [(key, value)] <->
      other ≠ key ∧ other ∉ fields.keys := by
    rw [List.mem_append, not_or]
    exact and_comm.trans (and_congr_left' (not_congr List.mem_singleton))
  rw [decide_eq_decide.mpr hmem, Bool.decide_and, decide_not, decide_not]
  rfl

theorem keys_writeAll (fields : Fields α) (writes : List (String × α)) :
    (fields.writeAll writes).keys = fields.keys ++ fields.newKeys writes := by
  induction writes generalizing fields with
  | nil => exact (List.append_nil fields.keys).symm
  | cons write rest ih =>
      rcases write with ⟨key, value⟩
      show keys (writeAll (fields.insert key value) rest) = _
      rw [ih]
      by_cases hkey : key ∈ fields.keys
      · rw [newKeys_cons_of_mem hkey, keys_insert_of_mem hkey]
      · rw [newKeys_cons_of_not_mem hkey, insert_of_not_mem hkey, keys_append,
          List.append_assoc]
        rfl

theorem get?_writeAll_of_not_mem {writes : List (String × α)} {key : String}
    (h : key ∉ keys writes) (fields : Fields α) :
    (fields.writeAll writes).get? key = fields.get? key := by
  induction writes generalizing fields with
  | nil => rfl
  | cons write rest ih =>
      rcases List.ne_and_not_mem_of_not_mem_cons h with ⟨hne, hrest⟩
      exact (ih hrest (fields.insert write.1 write.2)).trans
        (get?_insert_of_ne fields hne write.2)

/-- The last of the writes under a key stays. -/
theorem get?_writeAll_around {after : List (String × α)} {key : String}
    (h : key ∉ keys after) (fields : Fields α) (before : List (String × α))
    (value : α) :
    (fields.writeAll (before ++ (key, value) :: after)).get? key =
      some value := by
  rw [writeAll_append]
  exact (get?_writeAll_of_not_mem h _).trans (get?_insert_self _ key value)

/-!
## Erasing

A key that is erased is gone, since it was there once only, and all else stays
in its place.
-/

theorem get?_erase_of_ne (fields : Fields α) {key other : String}
    (h : other ≠ key) : (fields.erase key).get? other = fields.get? other := by
  induction fields with
  | nil => rfl
  | cons entry rest ih =>
      rcases entry with ⟨k, v⟩
      rw [erase]
      split
      · rename_i hkey
        have hne : k ≠ other := by
          rw [hkey]
          exact Ne.symm h
        rw [get?, if_neg hne]
      · rw [get?, get?, ih]

theorem get?_erase_self {fields : Fields α} (h : Distinct fields)
    (key : String) : (fields.erase key).get? key = none := by
  induction fields with
  | nil => rfl
  | cons entry rest ih =>
      rcases entry with ⟨k, v⟩
      rcases List.nodup_cons.mp h with ⟨hnew, hrest⟩
      rw [erase]
      split
      · rename_i hkey
        subst hkey
        exact get?_eq_none_of_not_mem hnew
      · rename_i hne
        rw [get?, if_neg hne]
        exact ih hrest

theorem get?_erase_congr {fields others : Fields α} (h : Distinct fields)
    (hothers : Distinct others) {key other : String}
    (hsame : fields.get? other = others.get? other) :
    (fields.erase key).get? other = (others.erase key).get? other := by
  by_cases hkey : other = key
  · rw [hkey, get?_erase_self h, get?_erase_self hothers]
  · rw [get?_erase_of_ne fields hkey, get?_erase_of_ne others hkey, hsame]

theorem erase_sublist (fields : Fields α) (key : String) :
    (fields.erase key).Sublist fields := by
  induction fields with
  | nil => exact .slnil
  | cons entry rest ih =>
      rcases entry with ⟨k, v⟩
      rw [erase]
      split
      · exact List.sublist_cons_self (k, v) rest
      · exact ih.cons_cons (k, v)

theorem distinct_of_sublist {fields part : Fields α} (h : Distinct fields)
    (hpart : part.Sublist fields) : Distinct part :=
  h.sublist (hpart.map Prod.fst)

theorem nodup_of_distinct {fields : Fields α} (h : Distinct fields) :
    fields.Nodup :=
  List.Pairwise.of_map Prod.fst
    (fun _ _ hne heq => hne (congrArg Prod.fst heq)) h

theorem distinct_erase {fields : Fields α} (h : Distinct fields)
    (key : String) : Distinct (fields.erase key) :=
  distinct_of_sublist h (erase_sublist fields key)

theorem mem_erase_iff {fields : Fields α} (h : Distinct fields) {key : String}
    {field : String × α} :
    field ∈ fields.erase key <-> field ∈ fields ∧ field.1 ≠ key := by
  rcases field with ⟨k, v⟩
  rw [← get?_eq_some_iff (distinct_erase h key), ← get?_eq_some_iff h]
  by_cases hk : k = key
  · subst hk
    rw [get?_erase_self h]
    simp
  · rw [get?_erase_of_ne fields hk]
    simp [hk]

/-!
## Other orders
-/

theorem get?_of_perm {fields others : Fields α} (h : Distinct fields)
    (hperm : fields.Perm others) (key : String) :
    fields.get? key = others.get? key := by
  have hothers : Distinct others := (hperm.map Prod.fst).nodup_iff.mp h
  apply Option.ext
  intro value
  rw [get?_eq_some_iff h, get?_eq_some_iff hothers, hperm.mem_iff]

end Fields

namespace Record

/-- What an expression finds at a key: a missing key reads as null. -/
def valueAt (record : Record) (key : String) : Value :=
  (record.get? key).getD .null

theorem valueAt_insert_self (record : Record) (key : String) (value : Value) :
    valueAt (record.insert key value) key = value := by
  unfold valueAt
  rw [Fields.get?_insert_self]
  rfl

theorem valueAt_insert_of_ne (record : Record) {key other : String}
    (h : other ≠ key) (value : Value) :
    valueAt (record.insert key value) other = valueAt record other := by
  unfold valueAt
  rw [Fields.get?_insert_of_ne record h]

end Record
end Reshape
