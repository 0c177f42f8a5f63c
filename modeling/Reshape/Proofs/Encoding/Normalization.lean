import Reshape.EncodingSpec
import Reshape.Proofs.Except
import Reshape.Proofs.Value.Shape

/-!
# What normalizing leaves alone

However deep a text lies, normalizing declares it in the charset of the
specification.  Its bytes stay when nothing is converted, and when it is in the
target already.  All the rest of a value stays as it is, and a value that was
normalized once does not change again.
-/

namespace Reshape
namespace EncodingSpec

def settledCharset (spec : EncodingSpec) : Charset :=
  match spec.target with
  | none => spec.source
  | some target => .encoded target

/-!
## Texts
-/

theorem charset_normalizeText (spec : EncodingSpec) (text : Text) :
    (spec.normalizeText text).charset = spec.settledCharset := by
  unfold normalizeText change settledCharset
  cases spec.target with
  | none => rfl
  | some target =>
      simp only
      split
      · assumption
      · split <;> rfl

theorem bytes_normalizeText {spec : EncodingSpec} {text : Text}
    (h : spec.target = none ∨ text.charset = spec.settledCharset) :
    (spec.normalizeText text).bytes = text.bytes := by
  unfold normalizeText change
  cases htarget : spec.target with
  | none => rfl
  | some target =>
      have hsettled : text.charset = .encoded target := by
        rcases h with hnone | hsettled
        · rw [htarget] at hnone
          cases hnone
        · unfold settledCharset at hsettled
          rw [htarget] at hsettled
          exact hsettled
      simp only [if_pos hsettled]
      rfl

theorem normalizeText_of_settled {spec : EncodingSpec} {text : Text}
    (h : text.charset = spec.settledCharset) :
    spec.normalizeText text = text := by
  have hcharset := charset_normalizeText spec text
  have hbytes : (spec.normalizeText text).bytes = text.bytes :=
    bytes_normalizeText (.inr h)
  rw [← h] at hcharset
  rcases text with ⟨bytes, charset⟩
  cases hafter : spec.normalizeText ⟨bytes, charset⟩ with
  | mk bytes' charset' =>
      rw [hafter] at hcharset hbytes
      exact congr (congrArg Text.mk hbytes) hcharset

/-!
## Values
-/

theorem normalizeItems_eq (spec : EncodingSpec) (items : List Value) :
    spec.normalizeItems items = items.map spec.normalize := by
  induction items with
  | nil => rfl
  | cons item rest ih => rw [normalizeItems, ih, List.map_cons]

theorem normalizeFields_eq (spec : EncodingSpec) (entries : Record) :
    spec.normalizeFields entries =
      entries.map fun entry => (entry.1, spec.normalize entry.2) := by
  induction entries with
  | nil => rfl
  | cons entry rest ih =>
      rcases entry with ⟨key, value⟩
      rw [normalizeFields, ih, List.map_cons]

/-- What holds between each text and what it becomes holds throughout a
value. -/
theorem alike_normalize (spec : EncodingSpec) {Related : Text -> Text -> Prop}
    (h : forall text, Related text (spec.normalizeText text)) (value : Value) :
    Value.Alike Related value (spec.normalize value) := by
  induction value using Value.induction_on_parts with
  | null => exact .null
  | bool b => exact .bool b
  | int n => exact .int n
  | uint n => exact .uint n
  | float x => exact .float x
  | text t => exact .text (h t)
  | array items ih =>
      rw [normalize, normalizeItems_eq]
      refine .array (List.length_map _).symm ?_
      intro i hi _
      rw [List.getElem_map]
      exact ih items[i] (List.getElem_mem hi)
  | map entries ih =>
      rw [normalize, normalizeFields_eq]
      refine .map ?_ ?_
      · unfold Fields.keys
        rw [List.map_map]
        rfl
      · intro i hi _
        rw [List.getElem_map]
        exact ih entries[i] (List.getElem_mem hi)

theorem normalize_normalize (spec : EncodingSpec) (value : Value) :
    spec.normalize (spec.normalize value) = spec.normalize value := by
  induction value using Value.induction_on_parts with
  | null => rfl
  | bool b => rfl
  | int n => rfl
  | uint n => rfl
  | float x => rfl
  | text t =>
      show Value.text _ = Value.text _
      rw [normalizeText_of_settled (charset_normalizeText spec t)]
  | array items ih =>
      rw [normalize, normalize, normalizeItems_eq, normalizeItems_eq,
        List.map_map]
      exact congrArg Value.array (List.map_congr_left ih)
  | map entries ih =>
      rw [normalize, normalize, normalizeFields_eq, normalizeFields_eq,
        List.map_map]
      apply congrArg Value.map
      apply List.map_congr_left
      intro entry hentry
      exact congrArg (Prod.mk entry.1) (ih entry hentry)

/-!
## How a specification comes about
-/

theorem convert_eq_ok {source target : Charset} {spec : EncodingSpec}
    (h : convert source target = .ok spec) :
    spec.source = source ∧
      exists encoding, spec.target = some encoding ∧
        target = .encoded encoding := by
  unfold convert at h
  split at h
  · cases h
  · rename_i encoding
    split at h
    · cases h
      exact ⟨rfl, encoding, rfl, rfl⟩
    · cases h

theorem parse_eq_ok {words : String} {spec : EncodingSpec}
    (h : parse words = .ok spec) :
    (exists source, lookup words = .ok source ∧ spec = setOnly source) ∨
      (exists before after source target,
        Unicode.splitOnce ':' words.toList = some (before, after) ∧
        lookup (String.ofList before) = .ok source ∧
          lookup (String.ofList after) = .ok target ∧
        convert source target = .ok spec) := by
  unfold parse at h
  split at h
  · left
    rcases except_bind_eq_ok h with ⟨source, hsource, hspec⟩
    cases hspec
    exact ⟨source, hsource, rfl⟩
  · right
    rename_i before after hsplit
    rcases except_bind_eq_ok h with ⟨source, hsource, h⟩
    rcases except_bind_eq_ok h with ⟨target, htarget, hspec⟩
    exact ⟨before, after, source, target, hsplit, hsource, htarget, hspec⟩

theorem normalize_settles (value : Value) :
    (forall source,
      Value.Alike (fun before after => after = ⟨before.bytes, source⟩) value
        ((setOnly source).normalize value) ∧
      (setOnly source).normalize ((setOnly source).normalize value) =
        (setOnly source).normalize value) ∧
    (forall source target spec, convert source target = .ok spec ->
      Value.Alike
        (fun before after => after.charset = target ∧
          (before.charset = target -> after.bytes = before.bytes)) value
            (spec.normalize value) ∧
      spec.normalize (spec.normalize value) = spec.normalize value) ∧
    (forall words spec, parse words = .ok spec ->
      (exists source, lookup words = .ok source ∧ spec = setOnly source) ∨
        (exists before after source target,
          Unicode.splitOnce ':' words.toList = some (before, after) ∧
          lookup (String.ofList before) = .ok source ∧
          lookup (String.ofList after) = .ok target ∧
            convert source target = .ok spec)) := by
  refine ⟨?_, ?_, ?_⟩
  · intro source
    refine ⟨alike_normalize (setOnly source) ?_ value,
      normalize_normalize (setOnly source) value⟩
    intro text
    rfl
  · intro source target spec hspec
    rcases convert_eq_ok hspec with ⟨_, encoding, htarget, rfl⟩
    have hsettled : spec.settledCharset = .encoded encoding := by
      unfold settledCharset
      rw [htarget]
    refine ⟨alike_normalize spec ?_ value, normalize_normalize spec value⟩
    intro text
    rw [← hsettled]
    refine ⟨charset_normalizeText spec text, ?_⟩
    intro hsame
    exact bytes_normalizeText (.inr hsame)
  · intro words spec h
    exact parse_eq_ok h

def mixed : Value :=
  .map [("raw", .array [.text ⟨[0x61, 0xFF], .binary⟩, .null]),
    ("done", .text ⟨[0x83, 0x72], .encoded .shiftJis⟩)]

theorem normalize_settles_mixed :
    exists spec, convert .utf8 (.encoded .shiftJis) = .ok spec ∧
      Value.Alike
        (fun before after => after.charset = .encoded .shiftJis ∧
          (before.charset = .encoded .shiftJis -> after.bytes = before.bytes))
            mixed
        (spec.normalize mixed) ∧
      spec.normalize (spec.normalize mixed) = spec.normalize mixed := by
  have hspec : convert .utf8 (.encoded .shiftJis) =
      .ok ⟨.utf8, some .shiftJis, by simp; rfl⟩ := rfl
  exact ⟨_, hspec, (normalize_settles mixed).right.left _ _ _ hspec⟩

end EncodingSpec
end Reshape
