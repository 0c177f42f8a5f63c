import Reshape.EncodingSpec
import Reshape.Key.Policy
import Reshape.Proofs.Fields

/-!
# Records without some keys

Some keys can be left out of a record before or after anything else is done to
it.  Writing under another key makes no difference to that, and neither does
reducing the keys of the record, as long as only null stands under the keys that
are left out: a path that goes on after null addresses nothing, just as one that
goes on after a missing key.
-/

namespace Reshape

namespace Fields

variable {α : Type}

def without (keys : List String) (fields : Fields α) : Fields α :=
  fields.filter fun field => decide (field.1 ∉ keys)

/-!
## One field
-/

section Lists

variable {keys : List String} {key : String}

theorem without_cons_of_mem (h : key ∈ keys) (value : α) (rest : Fields α) :
    without keys ((key, value) :: rest) = without keys rest := by
  unfold without
  rw [List.filter_cons_of_neg]
  simpa using h

theorem without_cons_of_not_mem (h : key ∉ keys) (value : α) (rest : Fields α) :
    without keys ((key, value) :: rest) =
      (key, value) :: without keys rest := by
  unfold without
  rw [List.filter_cons_of_pos]
  simpa using h

theorem without_eq_self {fields : Fields α}
    (h : forall key, key ∈ keys -> key ∉ fields.keys) :
    fields.without keys = fields := by
  unfold without
  rw [List.filter_eq_self]
  intro field hfield
  apply decide_eq_true
  intro hmem
  exact h field.1 hmem (List.mem_map_of_mem hfield)

theorem without_insert_of_mem (h : key ∈ keys) (fields : Fields α) (value : α) :
    (fields.insert key value).without keys = fields.without keys := by
  induction fields with
  | nil => exact without_cons_of_mem h value []
  | cons entry rest ih =>
      rcases entry with ⟨k, v⟩
      rw [insert]
      split
      · rename_i hkey
        rw [without_cons_of_mem h, hkey, without_cons_of_mem h]
      · by_cases hk : k ∈ keys
        · rw [without_cons_of_mem hk, without_cons_of_mem hk, ih]
        · rw [without_cons_of_not_mem hk, without_cons_of_not_mem hk, ih]

theorem without_insert_of_not_mem (h : key ∉ keys) (fields : Fields α)
    (value : α) :
    (fields.insert key value).without keys =
      (fields.without keys).insert key value := by
  induction fields with
  | nil => exact without_cons_of_not_mem h value []
  | cons entry rest ih =>
      rcases entry with ⟨k, v⟩
      rw [insert]
      split
      · rename_i hkey
        rw [hkey, without_cons_of_not_mem h, without_cons_of_not_mem h, insert,
          if_pos rfl]
      · rename_i hne
        by_cases hk : k ∈ keys
        · rw [without_cons_of_mem hk, without_cons_of_mem hk, ih]
        · rw [without_cons_of_not_mem hk, without_cons_of_not_mem hk, ih,
            insert, if_neg hne]

theorem get?_without_of_mem (h : key ∈ keys) (fields : Fields α) :
    (fields.without keys).get? key = none := by
  induction fields with
  | nil => rfl
  | cons entry rest ih =>
      rcases entry with ⟨k, v⟩
      by_cases hk : k ∈ keys
      · rw [without_cons_of_mem hk]
        exact ih
      · rw [without_cons_of_not_mem hk, get?, if_neg]
        · exact ih
        · intro hkey
          rw [hkey] at hk
          exact hk h

theorem get?_without_of_not_mem (h : key ∉ keys) (fields : Fields α) :
    (fields.without keys).get? key = fields.get? key := by
  induction fields with
  | nil => rfl
  | cons entry rest ih =>
      rcases entry with ⟨k, v⟩
      by_cases hk : k ∈ keys
      · have hne : k ≠ key := by
          intro hkey
          rw [hkey] at hk
          exact h hk
        rw [without_cons_of_mem hk, get?, if_neg hne]
        exact ih
      · rw [without_cons_of_not_mem hk, get?, get?, ih]

theorem without_erase_of_mem (h : key ∈ keys) (fields : Fields α) :
    (fields.erase key).without keys = fields.without keys := by
  induction fields with
  | nil => rfl
  | cons entry rest ih =>
      rcases entry with ⟨k, v⟩
      rw [erase]
      split
      · rename_i hkey
        rw [hkey, without_cons_of_mem h]
      · by_cases hk : k ∈ keys
        · rw [without_cons_of_mem hk, without_cons_of_mem hk, ih]
        · rw [without_cons_of_not_mem hk, without_cons_of_not_mem hk, ih]

theorem without_erase_of_not_mem (h : key ∉ keys) (fields : Fields α) :
    (fields.erase key).without keys = (fields.without keys).erase key := by
  induction fields with
  | nil => rfl
  | cons entry rest ih =>
      rcases entry with ⟨k, v⟩
      rw [erase]
      split
      · rename_i hkey
        rw [hkey, without_cons_of_not_mem h, erase, if_pos rfl]
      · rename_i hne
        by_cases hk : k ∈ keys
        · rw [without_cons_of_mem hk, without_cons_of_mem hk, ih]
        · rw [without_cons_of_not_mem hk, without_cons_of_not_mem hk, ih, erase,
            if_neg hne]

end Lists

end Fields

/-!
## Paths
-/

namespace Record

/-- Nothing but null stands under the listed keys. -/
def Hollow (keys : List String) (record : Record) : Prop :=
  forall field, field ∈ record -> field.1 ∈ keys -> field.2 = Value.null

theorem hollow_insert_of_not_mem {keys : List String} {record : Record}
    (h : Hollow keys record) {key : String} (hkey : key ∉ keys)
    (value : Value) : Hollow keys (record.insert key value) := by
  intro field hfield hmem
  rcases Fields.mem_of_mem_insert hfield with rfl | hold
  · exact absurd hmem hkey
  · exact h field hold hmem

theorem hollow_insert_null {keys : List String} {record : Record}
    (h : Hollow keys record) (key : String) :
    Hollow keys (record.insert key .null) := by
  intro field hfield hmem
  rcases Fields.mem_of_mem_insert hfield with rfl | hold
  · rfl
  · exact h field hold hmem

theorem hollow_erase {keys : List String} {record : Record}
    (h : Hollow keys record) (key : String) :
    Hollow keys (record.erase key) := by
  intro field hfield hmem
  exact h field (Fields.mem_of_mem_erase hfield) hmem

end Record

namespace Value

theorem take?_null (path : List Accessor) : take? path .null = none := by
  cases path with
  | nil => rfl
  | cons a rest =>
      cases rest with
      | nil => rfl
      | cons b rest => rfl

theorem take?_key (record : Record) (name : String) :
    take? [.key name] (.map record) =
      (record.get? name).map fun child => (child, .map (record.erase name)) :=
  rfl

theorem take?_key_cons (record : Record) (name : String) (next : Accessor)
    (rest : List Accessor) :
    take? (.key name :: next :: rest) (.map record) =
      ((record.get? name).bind (take? (next :: rest))).map fun taken =>
        (taken.1, .map (record.insert name taken.2)) := by
  show Option.bind (record.get? name) _ = _
  cases record.get? name with
  | none => rfl
  | some child =>
      show Option.bind (take? (next :: rest) child) _ = _
      rw [Option.bind_some]
      cases take? (next :: rest) child <;> rfl

end Value

namespace KeyPath

def removeBelow (key : String) (path : List Accessor) (record : Record) :
    Record :=
  match (record.get? key).bind (Value.take? path) with
  | none => record
  | some (_, child) => record.insert key child

theorem removeFrom_cases (path : KeyPath) :
    (forall record, (path.removeFrom record).2 = record) ∨
    (exists key, forall record, (path.removeFrom record).2 = record.erase key) ∨
    (exists key next rest, forall record,
      (path.removeFrom record).2 = removeBelow key (next :: rest) record) := by
  rcases path with ⟨raw, accessors⟩
  cases accessors with
  | nil =>
      left
      intro record
      rfl
  | cons first path =>
      cases first with
      | position n =>
          left
          intro record
          cases path <;> rfl
      | key name =>
          right
          cases path with
          | nil =>
              left
              exists name
              intro record
              unfold removeFrom
              rw [Value.take?_key]
              cases hget : record.get? name with
              | none =>
                  rw [Fields.erase_of_get?_eq_none hget]
                  rfl
              | some child => rfl
          | cons next rest =>
              right
              refine ⟨name, next, rest, ?_⟩
              intro record
              unfold removeFrom removeBelow
              rw [Value.take?_key_cons]
              cases (record.get? name).bind (Value.take? (next :: rest)) <;> rfl

section Hollow

variable {keys : List String} {record : Record} (h : Record.Hollow keys record)

include h

theorem removeBelow_of_mem {key : String} (hkey : key ∈ keys)
    (path : List Accessor) : removeBelow key path record = record := by
  unfold removeBelow
  cases hget : record.get? key with
  | none => rfl
  | some value =>
      have hnull : value = .null :=
        h (key, value) (Fields.mem_of_get?_eq_some hget) hkey
      rw [Option.bind_some, hnull, Value.take?_null]

theorem removeBelow_without (key : String) (path : List Accessor) :
    removeBelow key path (record.without keys) =
      (removeBelow key path record).without keys ∧
      Record.Hollow keys (removeBelow key path record) := by
  by_cases hkey : key ∈ keys
  · rw [removeBelow_of_mem h hkey path]
    constructor
    · unfold removeBelow
      rw [Fields.get?_without_of_mem hkey]
      rfl
    · exact h
  · unfold removeBelow
    rw [Fields.get?_without_of_not_mem hkey]
    cases (record.get? key).bind (Value.take? path) with
    | none => exact ⟨rfl, h⟩
    | some taken =>
        constructor
        · exact (Fields.without_insert_of_not_mem hkey record taken.2).symm
        · exact Record.hollow_insert_of_not_mem h hkey taken.2

theorem removeFrom_without (path : KeyPath) :
    (path.removeFrom (record.without keys)).2 =
      (path.removeFrom record).2.without keys ∧
      Record.Hollow keys (path.removeFrom record).2 := by
  rcases removeFrom_cases path with
    hsame | ⟨key, herase⟩ | ⟨key, next, rest, hbelow⟩
  · rw [hsame, hsame]
    exact ⟨rfl, h⟩
  · rw [herase, herase]
    constructor
    · by_cases hkey : key ∈ keys
      · rw [Fields.without_erase_of_mem hkey]
        exact Fields.erase_of_get?_eq_none
          (Fields.get?_without_of_mem hkey record)
      · exact (Fields.without_erase_of_not_mem hkey record).symm
    · exact Record.hollow_erase h key
  · rw [hbelow, hbelow]
    exact removeBelow_without h key (next :: rest)

end Hollow

end KeyPath

/-!
## Policies
-/

namespace KeyPolicy

theorem removeAll_without {keys : List String} (paths : List KeyPath)
    {record : Record} (h : Record.Hollow keys record) :
    paths.foldl (fun record path => (path.removeFrom record).2)
      (record.without keys) =
      (paths.foldl (fun record path => (path.removeFrom record).2)
          record).without
        keys := by
  induction paths generalizing record with
  | nil => rfl
  | cons path rest ih =>
      rcases path.removeFrom_without h with ⟨hpath, hhollow⟩
      rw [List.foldl_cons, List.foldl_cons, hpath]
      exact ih hhollow

theorem pick_without (keys listed : List String) (record : Record) :
    pick listed (record.without keys) = (pick listed record).without keys := by
  induction listed generalizing record with
  | nil => rfl
  | cons key rest ih =>
      rw [pick, pick]
      by_cases hkey : key ∈ keys
      · -- The key is picked from the whole record only, and then left out.
        have hrest : pick rest (record.without keys) =
            (pick rest (record.erase key)).without keys := by
          rw [← Fields.without_erase_of_mem hkey record]
          exact ih (record.erase key)
        rw [Fields.get?_without_of_mem hkey]
        cases record.get? key with
        | none => exact ih record
        | some value =>
            rw [hrest]
            exact (Fields.without_cons_of_mem hkey value _).symm
      · rw [Fields.get?_without_of_not_mem hkey]
        cases record.get? key with
        | none => exact ih record
        | some value =>
            have hrest := ih (record.erase key)
            rw [Fields.without_erase_of_not_mem hkey] at hrest
            simp only [hrest]
            exact (Fields.without_cons_of_not_mem hkey value _).symm

/-- Reducing the keys of a record and leaving out keys of null commute. -/
theorem reduce_without (policy : KeyPolicy) {keys : List String}
    {record : Record} (h : Record.Hollow keys record) :
    policy.reduce (record.without keys) =
      (policy.reduce record).without keys := by
  cases policy with
  | keepAll => rfl
  | remove paths => exact removeAll_without paths h
  | whitelist listed order =>
      cases order with
      | declaration => exact pick_without keys listed record
      | input =>
          show List.filter _ (List.filter _ record) =
              List.filter _ (List.filter _ record)
          rw [List.filter_filter, List.filter_filter]
          apply congrArg (List.filter · record)
          funext field
          exact Bool.and_comm _ _

end KeyPolicy

namespace EncodingSpec

theorem normalizeFields_without (spec : EncodingSpec) (keys : List String)
    (record : Record) :
    spec.normalizeFields (Fields.without keys record) =
      Fields.without keys (spec.normalizeFields record) := by
  induction record with
  | nil => rfl
  | cons entry rest ih =>
      rcases entry with ⟨k, v⟩
      rw [normalizeFields]
      by_cases hk : k ∈ keys
      · rw [Fields.without_cons_of_mem hk, Fields.without_cons_of_mem hk, ih]
      · rw [Fields.without_cons_of_not_mem hk,
          Fields.without_cons_of_not_mem hk, normalizeFields, ih]

end EncodingSpec
end Reshape
