import Reshape.Config
import Reshape.Proofs.Json.RoundTrip

/-!
# Reading back configurations

A configuration is written as an object with all of its options, and each option
reads its own value back.  The keys of the fields are distinct in every
configuration that is read or built; a configuration comes back as it was
exactly if they are.
-/

namespace Reshape
namespace Config

/-!
## Values of options
-/

theorem fields?_fieldsJson {fields : Fields String} (h : fields.Distinct) :
    fields? (fieldsJson fields) = some fields := by
  have hpairs : (fields.map fun field => (field.1, Json.string field.2)).mapM
      (fun member => do return (member.1, ← text? member.2)) = some fields := by
    rw [List.mapM_map]
    exact List.mapM_pure.trans (congrArg some (List.map_id fields))
  unfold fields? fieldsJson
  simp only [hpairs]
  exact congrArg some (Fields.ofPairs_of_distinct h)

theorem optional?_textJson (text : Option String) :
    optional? text? (textJson text) = some text := by
  cases text <;> rfl

theorem optional?_listJson (list : Option KeyList) :
    optional? keyList? (listJson list) = some list := by
  cases list with
  | none => rfl
  | some list =>
      cases list with
      | csv list => rfl
      | items entries =>
          have hread : (entries.map Json.string).mapM text? = some entries := by
            rw [List.mapM_map]
            exact List.mapM_pure.trans (congrArg some (List.map_id entries))
          unfold optional? listJson keyList?
          simp only [hread]
          rfl

theorem order?_orderName (order : WhitelistOrder) :
    order? (.string (orderName order)) = some order := by
  cases order <;> rfl

theorem policy?_policyName (policy : ErrorPolicy) :
    policy? (.string (policyName policy)) = some policy := by
  cases policy <;> rfl

/-!
## The object of a configuration
-/

theorem nodup_keys_members (config : Config) :
    (config.members.map Prod.fst).Nodup := by
  show optionNames.Nodup
  decide

theorem ofMembers?_members {config : Config} (h : config.record.Distinct) :
    ofMembers? config.members = some config := by
  unfold ofMembers? members
  simp only [List.foldlM_cons, List.foldlM_nil, set?, fields?_fieldsJson h,
    optional?_textJson, optional?_listJson, order?_orderName,
    policy?_policyName, flag?]
  rfl

theorem ofJson?_toJson {config : Config} (h : config.record.Distinct) :
    ofJson? config.toJson = some config := by
  rw [toJson, ofJson?, if_pos config.nodup_keys_members]
  exact ofMembers?_members h

theorem plain_fieldsJson {fields : Fields String} (h : fields.Distinct)
    (n : Nat) : Json.Plain (n + 1) (fieldsJson fields) := by
  have hkeys :
      Fields.keys (fields.map fun field => (field.1, Json.string field.2)) =
        fields.keys := by
    unfold Fields.keys
    rw [List.map_map]
    rfl
  have hdistinct : Fields.Distinct
      (fields.map fun field => (field.1, Json.string field.2)) := by
    unfold Fields.Distinct
    rw [hkeys]
    exact h
  refine .object hdistinct ?_
  intro member hmember
  rcases List.mem_map.mp hmember with ⟨field, _, rfl⟩
  exact .string field.2

theorem plain_textJson (text : Option String) (n : Nat) :
    Json.Plain n (textJson text) := by
  cases text with
  | none => exact .null
  | some s => exact .string s

theorem plain_listJson (list : Option KeyList) (n : Nat) :
    Json.Plain (n + 1) (listJson list) := by
  cases list with
  | none => exact .null
  | some list =>
      cases list with
      | csv list => exact .string list
      | items entries =>
          apply Json.Plain.array
          intro item hitem
          rcases List.mem_map.mp hitem with ⟨entry, _, rfl⟩
          exact .string entry

theorem plain_toJson {config : Config} (h : config.record.Distinct) (n : Nat) :
    Json.Plain (n + 2) config.toJson := by
  refine .object config.nodup_keys_members ?_
  intro member hmember
  simp only [members, List.mem_cons, List.not_mem_nil, or_false] at hmember
  rcases hmember with
    rfl | rfl | rfl | rfl | rfl | rfl | rfl | rfl | rfl | rfl | rfl
  · exact plain_fieldsJson h n
  · exact plain_listJson config.removeKeys n
  · exact plain_listJson config.whitelistKeys n
  · exact .string _
  · exact plain_textJson config.charEncoding _
  · exact .string _
  · exact plain_textJson config.tagKey _
  · exact plain_textJson config.timeKey _
  · exact plain_textJson config.timeFormat _
  · exact .bool _
  · exact .bool _

theorem parse?_render {config : Config} (h : config.record.Distinct) :
    parse? config.toJson.render = some config := by
  have hplain : Json.Plain Json.maxDepth config.toJson := plain_toJson h 125
  unfold parse? Json.render
  rw [String.toList_ofList,
    Json.readChars?_renderChars (Json.nested_of_plain hplain),
    Json.reread_of_plain hplain]
  exact ofJson?_toJson h

/-!
## Distinct keys
-/

theorem distinct_default : default.record.Distinct :=
  List.nodup_nil

theorem distinct_withField {config : Config} (h : config.record.Distinct)
    (key template : String) : (config.withField key template).record.Distinct :=
  Fields.distinct_insert h key template

theorem distinct_of_fields? {json : Json} {fields : Fields String}
    (h : fields? json = some fields) : fields.Distinct := by
  cases json with
  | object members =>
      rcases Option.bind_eq_some_iff.mp h with ⟨pairs, _, hfields⟩
      cases hfields
      exact Fields.distinct_ofPairs pairs
  | null => cases h
  | bool b => cases h
  | number n => cases h
  | string s => cases h
  | array items => cases h

theorem distinct_of_set? {config config' : Config} {option : String}
    {json : Json} (hconfig : config.record.Distinct)
    (h : config.set? option json = some config') : config'.record.Distinct := by
  unfold set? at h
  split at h
  case h_1 =>
    rcases Option.bind_eq_some_iff.mp h with ⟨fields, hfields, hset⟩
    cases hset
    exact distinct_of_fields? hfields
  case h_12 => cases h
  all_goals
    rcases Option.bind_eq_some_iff.mp h with ⟨value, _, hset⟩
    cases hset
    exact hconfig

theorem distinct_of_ofMembers? {members : List (String × Json)}
    {config : Config} (h : ofMembers? members = some config) :
    config.record.Distinct := by
  have hall :
      forall (members : List (String × Json))
        (start : Config), start.record.Distinct ->
          members.foldlM (fun config member => config.set? member.1 member.2)
              start =
            some config ->
          config.record.Distinct := by
    intro members
    induction members with
    | nil =>
        intro start hstart hread
        cases hread
        exact hstart
    | cons member rest ih =>
        intro start hstart hread
        rcases Option.bind_eq_some_iff.mp hread with ⟨next, hset, hrest⟩
        exact ih next (distinct_of_set? hstart hset) hrest
  exact hall members default distinct_default h

theorem distinct_of_parse? {source : String} {config : Config}
    (h : parse? source = some config) : config.record.Distinct := by
  rcases Option.bind_eq_some_iff.mp h with ⟨json, _, hread⟩
  unfold ofJson? at hread
  split at hread
  · split at hread
    · exact distinct_of_ofMembers? hread
    · cases hread
  · split at hread
    · exact distinct_of_ofMembers? hread
    · cases hread
  · cases hread

/-- A configuration comes back from its text as it was, its fields in their
order, exactly if the keys of its fields are distinct. -/
theorem parse?_render_iff (config : Config) :
    parse? config.toJson.render = some config <-> config.record.Distinct :=
  ⟨distinct_of_parse?, parse?_render⟩

end Config
end Reshape
