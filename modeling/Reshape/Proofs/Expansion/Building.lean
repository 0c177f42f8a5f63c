import Reshape.Proofs.Except
import Reshape.Transformer

/-!
# What is built

A transformer is built from the parts of its configuration one after another,
and holds the policy, the keys and the fields that the configuration names.
-/

namespace Reshape

def Config.withErrorPolicy (config : Config) (policy : ErrorPolicy) : Config :=
  { config with errorPolicy := policy }

namespace Transformer

def withErrorPolicy (t : Transformer) (policy : ErrorPolicy) : Transformer :=
  { t with errorPolicy := policy }

theorem build_eq_ok {config : Config} {t : Transformer}
    (h : build config = .ok t) :
    exists fields keyPolicy encoding timeField,
      config.record.mapM buildField = .ok fields ∧
        buildPolicy config = .ok keyPolicy ∧
      buildEncoding config.charEncoding = .ok encoding ∧
      buildTimeField config = .ok timeField ∧
      t =
        ⟨fields, keyPolicy, encoding, config.errorPolicy, config.tagKey,
          timeField⟩ := by
  unfold build at h
  rcases except_bind_eq_ok h with ⟨fields, hfields, hpolicy⟩
  rcases except_bind_eq_ok hpolicy with ⟨keyPolicy, hkeyPolicy, hencoding⟩
  rcases except_bind_eq_ok hencoding with ⟨encoding, hspec, htime⟩
  rcases except_bind_eq_ok htime with ⟨timeField, htimeField, hbuilt⟩
  cases hbuilt
  exact ⟨fields, keyPolicy, encoding, timeField, hfields, hkeyPolicy, hspec,
    htimeField, rfl⟩

/-!
## Another policy
-/

theorem build_withErrorPolicy (config : Config) (policy : ErrorPolicy) :
    build (config.withErrorPolicy policy) =
      (build config).map (·.withErrorPolicy policy) := by
  have hpolicy :
      buildPolicy (config.withErrorPolicy policy) = buildPolicy config := rfl
  have htime : buildTimeField (config.withErrorPolicy policy) =
      buildTimeField config := rfl
  unfold build
  rw [hpolicy, htime]
  show Except.bind (config.record.mapM buildField) _ =
    Except.map _ (Except.bind (config.record.mapM buildField) _)
  cases config.record.mapM buildField with
  | error cause => rfl
  | ok fields =>
      show Except.bind (buildPolicy config) _ =
          Except.map _ (Except.bind (buildPolicy config) _)
      cases buildPolicy config with
      | error cause => rfl
      | ok keyPolicy =>
          show Except.bind (buildEncoding config.charEncoding) _ =
            Except.map _ (Except.bind (buildEncoding config.charEncoding) _)
          cases buildEncoding config.charEncoding with
          | error cause => rfl
          | ok encoding =>
              show Except.bind (buildTimeField config) _ =
                Except.map _ (Except.bind (buildTimeField config) _)
              cases buildTimeField config <;> rfl

theorem build_of_withErrorPolicy {config : Config} {t : Transformer}
    (h : build config = .ok t) (policy : ErrorPolicy) :
    build (config.withErrorPolicy policy) = .ok (t.withErrorPolicy policy) := by
  rw [build_withErrorPolicy, h]
  rfl

/-!
## Keys
-/

theorem buildField_eq_ok {entry : String × String} {field : Field}
    (h : buildField entry = .ok field) :
    field.key = entry.1 ∧ Template.Plan.compile entry.2 = .ok field.plan := by
  unfold buildField at h
  split at h
  · rename_i plan hplan
    cases h
    exact ⟨rfl, hplan⟩
  · cases h

theorem keys_of_mapM_buildField {entries : Fields String} {fields : List Field}
    (h : entries.mapM buildField = .ok fields) :
    fields.map Field.key = entries.keys := by
  induction entries generalizing fields with
  | nil =>
      cases h
      rfl
  | cons entry rest ih =>
      rcases mapM_cons_eq_ok h with ⟨field, more, hfield, hmore, rfl⟩
      rw [List.map_cons, (buildField_eq_ok hfield).left, ih hmore]
      rfl

theorem keys_of_build {config : Config} {t : Transformer}
    (h : build config = .ok t) :
    t.fields.map Field.key = config.record.keys := by
  rcases build_eq_ok h with ⟨fields, _, _, _, hfields, _, _, _, rfl⟩
  exact keys_of_mapM_buildField hfields

theorem tagKey_of_build {config : Config} {t : Transformer}
    (h : build config = .ok t) : t.tagKey = config.tagKey := by
  rcases build_eq_ok h with ⟨_, _, _, _, _, _, _, _, rfl⟩
  rfl

theorem errorPolicy_of_build {config : Config} {t : Transformer}
    (h : build config = .ok t) : t.errorPolicy = config.errorPolicy := by
  rcases build_eq_ok h with ⟨_, _, _, _, _, _, _, _, rfl⟩
  rfl

theorem buildTimeField_eq_ok {config : Config}
    {timeField : Option (String × TimeFormatter)}
    (h : buildTimeField config = .ok timeField) :
    timeField.map Prod.fst = config.timeKey := by
  unfold buildTimeField at h
  cases hkey : config.timeKey with
  | none =>
      rw [hkey] at h
      cases h
      rfl
  | some key =>
      rw [hkey] at h
      rcases except_bind_eq_ok h with ⟨formatter, _, hsome⟩
      cases hsome
      rfl

theorem timeKey_of_build {config : Config} {t : Transformer}
    (h : build config = .ok t) {key : String} {f : TimeFormatter}
    (hfield : t.timeField = some (key, f)) : config.timeKey = some key := by
  rcases build_eq_ok h with ⟨_, _, _, timeField, _, _, _, htime, rfl⟩
  rw [← buildTimeField_eq_ok htime]
  exact congrArg (Option.map Prod.fst) hfield

end Transformer
end Reshape
