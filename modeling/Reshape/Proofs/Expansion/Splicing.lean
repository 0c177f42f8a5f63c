import Reshape.Proofs.Encoding.Splicing
import Reshape.Proofs.Expansion.Noninterference
import Reshape.Proofs.Expansion.Policies
import Reshape.Proofs.Template.Compile
import Reshape.Proofs.Template.Rendering

/-!
# Legacy text in templates

A field that puts the text of another between ASCII literals hands it on with
its bytes and, unless they all look like ASCII, with its charset.  The
conversion comes last and meets the text there as it meets the text itself, if
it is one that may stand between literals.
-/

namespace Reshape
namespace Template

open Charset Unicode

/-!
## The template
-/

/-- The template of the field `m` between two literals. -/
def aroundText (before after : String) : String :=
  before ++ "$\x7brecord[\"m\"]\x7d" ++ after

def textPiece (after : String) : Piece :=
  ⟨"record[\"m\"]", ⟨.record, [.key "m"]⟩, after⟩

def planAround (before after : String) : Plan :=
  .template
    (literalSegment before ++ .expr ⟨.record, [.key "m"]⟩ ::
      literalSegment after)

theorem proper_textPiece {after : String} (h : Plain after.toList) :
    (textPiece after).Proper := by
  have hparse : Expr.parse "record[\"m\"]" = .ok ⟨.record, [.key "m"]⟩ := by
    with_unfolding_all rfl
  exact ⟨hparse, h⟩

theorem compile_aroundText {before after : String}
    (hbefore : Plain before.toList) (hafter : Plain after.toList)
    (hliterals : Not (before = "" ∧ after = "")) :
    Plan.compile (aroundText before after) = .ok (planAround before after) := by
  have hpieces : forall piece, piece ∈ [textPiece after] -> piece.Proper := by
    intro piece hpiece
    rw [List.mem_singleton.mp hpiece]
    exact proper_textPiece hafter
  have hwritten :
      written before [textPiece after] = aroundText before after := by
    rw [← String.toList_inj]
    simp [written, textPiece, aroundText]
  have hplan : planOf before [textPiece after] = planAround before after :=
    if_neg hliterals
  have hcompile := compile_written hbefore hpieces
  rw [hwritten, hplan] at hcompile
  exact hcompile

/-!
## Its value
-/

def literalTexts (s : String) : List Text :=
  if s = "" then [] else [Text.ofString s]

theorem evaluate_literalSegment (ctx : Context) (s : String) :
    (literalSegment s).mapM (Segment.evaluate ctx) = .ok (literalTexts s) := by
  unfold literalSegment literalTexts
  split <;> rfl

theorem bytes_literalTexts (s : String) :
    (literalTexts s).flatMap Text.bytes = Utf8.encode s.toList := by
  unfold literalTexts
  split
  · rename_i hempty
    rw [hempty]
    rfl
  · exact List.append_nil _

theorem isAscii_literalTexts {s : String}
    (h : AsciiBytes (Utf8.encode s.toList)) :
    (literalTexts s).filter (fun part => !part.isAscii) = [] := by
  unfold literalTexts
  split
  · rfl
  · have hascii : (Text.ofString s).isAscii = true := List.all_eq_true.mpr h
    rw [List.filter_cons, hascii]
    rfl

theorem join_around {before after : String}
    (hbefore : AsciiBytes (Utf8.encode before.toList))
    (hafter : AsciiBytes (Utf8.encode after.toList)) (text : Text) :
    Text.join (literalTexts before ++ text :: literalTexts after) =
      ⟨Utf8.encode before.toList ++ text.bytes ++ Utf8.encode after.toList,
        if text.isAscii then .utf8 else text.charset⟩ := by
  have hspoken : Text.spoken
      (literalTexts before ++ text :: literalTexts after) =
      if text.isAscii then [] else [text.charset] := by
    unfold Text.spoken
    rw [List.filter_append, List.filter_cons, isAscii_literalTexts hbefore,
      isAscii_literalTexts hafter]
    cases text.isAscii <;> rfl
  unfold Text.join
  rw [List.flatMap_append, List.flatMap_cons, bytes_literalTexts,
    bytes_literalTexts, List.append_assoc]
  cases hascii : text.isAscii with
  | true =>
      rw [hascii] at hspoken
      rw [Text.jointCharset_of_spoken_nil hspoken]
      rfl
  | false =>
      rw [hascii] at hspoken
      rw [Text.jointCharset_of_spoken_cons hspoken]
      rfl

theorem evaluate_planAround {before after : String} {ctx : Context}
    {text : Text} (hbefore : AsciiBytes (Utf8.encode before.toList))
    (hafter : AsciiBytes (Utf8.encode after.toList))
    (htext : ctx.record.get? "m" = some (.text text)) :
    (planAround before after).evaluate ctx =
      .ok (.text
        ⟨Utf8.encode before.toList ++ text.bytes ++ Utf8.encode after.toList,
          if text.isAscii then .utf8 else text.charset⟩) := by
  have hexpr :
      Segment.evaluate ctx (.expr ⟨.record, [.key "m"]⟩) = .ok text := by
    have hvalue : Record.valueAt ctx.record "m" = .text text := by
      unfold Record.valueAt
      rw [htext]
      rfl
    have hlookup :
        Expr.evaluate ⟨.record, [.key "m"]⟩ ctx = .ok (.text text) := by
      show lookup ctx.record [.key "m"] = _
      rw [lookup_key, hvalue]
      rfl
    rw [Segment.evaluate, hlookup]
    rfl
  rw [← join_around hbefore hafter, planAround, Plan.evaluate, List.mapM_append,
    evaluate_literalSegment, mapM_cons_of_ok hexpr, evaluate_literalSegment]
  rfl

end Template

def KeyPolicy.Keeps (policy : KeyPolicy) (key : String) : Prop :=
  forall record, (policy.reduce record).get? key = record.get? key

theorem EncodingSpec.get?_normalizeFields (spec : EncodingSpec)
    (record : Record) (key : String) :
    Fields.get? (spec.normalizeFields record) key =
      (record.get? key).map spec.normalize := by
  induction record with
  | nil => rfl
  | cons entry rest ih =>
      rcases entry with ⟨k, v⟩
      rw [EncodingSpec.normalizeFields, Fields.get?, Fields.get?]
      split
      · rfl
      · exact ih

namespace Transformer

open Charset Template Unicode

/-!
## Fields that are written before and after
-/

theorem get?_writeFields {policy : ErrorPolicy} {ctx : Context}
    {fields : List Field} {out : Record}
    (h : (writeFields policy ctx fields).result = .ok out) {key : String}
    (hkey : key ∉ fields.map Field.key) :
    out.get? key = ctx.record.get? key := by
  induction fields generalizing ctx with
  | nil =>
      cases h
      rfl
  | cons field rest ih =>
      rw [List.map_cons, List.mem_cons, not_or] at hkey
      rcases hkey with ⟨hne, hrest⟩
      rw [writeFields] at h
      cases hvalue : field.plan.evaluate ctx with
      | ok value =>
          rw [hvalue] at h
          rw [ih h hrest]
          exact Fields.get?_insert_of_ne ctx.record hne value
      | error source =>
          rw [hvalue] at h
          cases policy
          · exact ih h hrest
          · rw [ih h hrest]
            exact Fields.get?_insert_of_ne ctx.record hne .null
          · cases h

theorem failure_of_writeFields {policy : ErrorPolicy} {ctx : Context}
    {fields : List Field} {failure : FieldFailure}
    (h : (writeFields policy ctx fields).result = .error failure) :
    policy = .fail ∧ failure.field ∈ fields.map Field.key := by
  induction fields generalizing ctx with
  | nil => cases h
  | cons field rest ih =>
      have hlater : forall ctx',
          (writeFields policy ctx' rest).result = .error failure ->
          policy = .fail ∧ failure.field ∈ (field :: rest).map Field.key := by
        intro ctx' h'
        rcases ih h' with ⟨hpolicy, hmem⟩
        exact ⟨hpolicy, List.mem_cons_of_mem field.key hmem⟩
      rw [writeFields] at h
      cases hvalue : field.plan.evaluate ctx with
      | ok value =>
          rw [hvalue] at h
          exact hlater _ h
      | error source =>
          rw [hvalue] at h
          cases policy
          · exact hlater _ h
          · exact hlater _ h
          · cases h
            exact ⟨rfl, List.mem_cons_self⟩

theorem get?_writeFields_around {policy : ErrorPolicy} {ctx : Context}
    {earlier later : List Field} {key before after : String} {text : Text}
    {out : Record}
    (h : (writeFields policy ctx
        (earlier ++ ⟨key, planAround before after⟩ :: later)).result =
      .ok out)
    (htext : ctx.record.get? "m" = some (.text text))
    (hearlier : "m" ∉ earlier.map Field.key)
    (hlater : key ∉ later.map Field.key)
    (hbefore : AsciiBytes (Utf8.encode before.toList))
    (hafter : AsciiBytes (Utf8.encode after.toList)) :
    out.get? key =
      some (.text
        ⟨Utf8.encode before.toList ++ text.bytes ++ Utf8.encode after.toList,
          if text.isAscii then .utf8 else text.charset⟩) := by
  rw [result_writeFields_append] at h
  rcases except_bind_eq_ok h with ⟨record, hrecord, hrest⟩
  have hmiddle : record.get? "m" = some (.text text) := by
    rw [get?_writeFields hrecord hearlier, htext]
  rw [writeFields, evaluate_planAround hbefore hafter hmiddle] at hrest
  rw [get?_writeFields hrest hlater]
  exact Fields.get?_insert_self record key _

theorem failure_of_writeFields_around {policy : ErrorPolicy} {ctx : Context}
    {earlier later : List Field} {key before after : String} {text : Text}
    {failure : FieldFailure}
    (h : (writeFields policy ctx
        (earlier ++ ⟨key, planAround before after⟩ :: later)).result =
      .error failure)
    (htext : ctx.record.get? "m" = some (.text text))
    (hearlier : "m" ∉ earlier.map Field.key)
    (hbefore : AsciiBytes (Utf8.encode before.toList))
    (hafter : AsciiBytes (Utf8.encode after.toList)) :
    policy = .fail ∧
      failure.field ∈ earlier.map Field.key ++ later.map Field.key := by
  rw [result_writeFields_append] at h
  cases hfirst : (writeFields policy ctx earlier).result with
  | error failure' =>
      rw [hfirst] at h
      cases h
      rcases failure_of_writeFields hfirst with ⟨hpolicy, hmem⟩
      exact ⟨hpolicy, List.mem_append_left _ hmem⟩
  | ok record =>
      rw [hfirst] at h
      have hmiddle : record.get? "m" = some (.text text) := by
        rw [get?_writeFields hfirst hearlier, htext]
      have hrest : (writeFields policy { ctx with record := record }
          (⟨key, planAround before after⟩ :: later)).result =
            .error failure :=
        h
      rw [writeFields, evaluate_planAround hbefore hafter hmiddle] at hrest
      rcases failure_of_writeFields hrest with ⟨hpolicy, hmem⟩
      exact ⟨hpolicy, List.mem_append_right _ hmem⟩

theorem get?_writeTag {t : Transformer} {key : String} (h : t.tagKey ≠ some key)
    (tag : String) (record : Record) :
    (t.writeTag tag record).get? key = record.get? key := by
  unfold writeTag
  cases htag : t.tagKey with
  | none => rfl
  | some other =>
      have hne : key ≠ other := fun heq => h (by rw [htag, heq])
      exact Fields.get?_insert_of_ne record hne _

theorem get?_stamp {t : Transformer} {host : Host} {time : Int64}
    {record stamped : Record} {key : String}
    (h : t.stamp host time record = .ok stamped)
    (hkey : forall f, t.timeField ≠ some (key, f)) :
    stamped.get? key = record.get? key := by
  unfold stamp at h
  cases htime : t.timeField with
  | none =>
      rw [htime] at h
      cases h
      rfl
  | some field =>
      rcases field with ⟨other, f⟩
      rw [htime] at h
      rcases except_map_eq_ok h with ⟨value, _, rfl⟩
      have hne : key ≠ other := fun heq => hkey f (by rw [htime, heq])
      exact Fields.get?_insert_of_ne record hne value

theorem get?_finish {t : Transformer} {spec : EncodingSpec}
    (hencoding : t.encoding = some spec) {key : String}
    (hkeeps : t.keyPolicy.Keeps key) (record : Record) :
    (t.finish record).get? key = (record.get? key).map spec.normalize := by
  unfold finish
  rw [hencoding]
  show Fields.get? (spec.normalizeFields (t.keyPolicy.reduce record)) key = _
  rw [EncodingSpec.get?_normalizeFields, hkeeps]

/-!
## Building the field
-/

theorem encoding_of_build {config : Config} {t : Transformer}
    (h : build config = .ok t) {words : String} {spec : EncodingSpec}
    (hwords : config.charEncoding = some words)
    (hspec : EncodingSpec.parse words = .ok spec) : t.encoding = some spec := by
  rcases build_eq_ok h with ⟨_, _, encoding, _, _, _, hencoding, _, rfl⟩
  rw [hwords, buildEncoding, hspec] at hencoding
  cases hencoding
  rfl

theorem fields_of_build {config : Config} {t : Transformer}
    (h : build config = .ok t) {earlier later : Fields String}
    {key raw : String} {plan : Plan}
    (hrecord : config.record = earlier ++ (key, raw) :: later)
    (hplan : Plan.compile raw = .ok plan) :
    exists before after, t.fields = before ++ ⟨key, plan⟩ :: after ∧
      before.map Field.key = earlier.keys ∧
        after.map Field.key = later.keys := by
  rcases build_eq_ok h with ⟨fields, _, _, _, hfields, _, _, _, rfl⟩
  rw [hrecord, List.mapM_append] at hfields
  rcases except_bind_eq_ok hfields with ⟨before, hbefore, hrest⟩
  rcases except_bind_eq_ok hrest with ⟨rest, hrest, hwhole⟩
  rcases mapM_cons_eq_ok hrest with ⟨field, after, hfield, hafter, rfl⟩
  rw [buildField, hplan] at hfield
  cases hfield
  cases hwhole
  exact ⟨before, after, rfl, keys_of_mapM_buildField hbefore,
    keys_of_mapM_buildField hafter⟩

/-!
## The call
-/

/-- The configuration converts into UTF-8 and puts the text at `m`, which
nothing overwrites before, between ASCII literals. -/
structure Splices (config : Config) (spec : EncodingSpec)
    (earlier : Fields String) (key before after : String)
    (later : Fields String) : Prop where
  converts : exists words, config.charEncoding = some words ∧
    EncodingSpec.parse words = .ok spec
  into_utf8 : spec.target = some .utf8
  fields : config.record = earlier ++ (key, aroundText before after) :: later
  written_last : key ∉ later.keys
  fields_spare : "m" ∉ earlier.keys
  tag_spares : config.tagKey ≠ some "m"
  time_spares : config.timeKey ≠ some "m"
  before_ascii : AsciiChars before.toList
  after_ascii : AsciiChars after.toList
  before_plain : Plain before.toList
  after_plain : Plain after.toList
  literals : Not (before = "" ∧ after = "")

theorem normalize_around_iff {config : Config} {spec : EncodingSpec}
    {earlier later : Fields String} {key before after : String}
    (hconfig : Splices config spec earlier key before after later) {text : Text}
    {decoded : String}
    (hcharset : text.charset = spec.source ∨ text.charset = .binary)
    (hread : spec.source.decode text.bytes = decoded.toList.map some) :
    some (spec.normalize (.text
          ⟨Utf8.encode before.toList ++ text.bytes ++ Utf8.encode after.toList,
            if text.isAscii then .utf8 else text.charset⟩)) =
        some (.text (Text.ofString (before ++ decoded ++ after))) <->
      spec.source.Spliceable text.bytes := by
  have hbefore := asciiBytes_encode hconfig.before_ascii
  have hafter := asciiBytes_encode hconfig.after_ascii
  have haround :
      Utf8.encode before.toList ++ Utf8.encode after.toList ≠ [] := by
    intro hnone
    rw [← Utf8.encode_append] at hnone
    have hempty : before.toList ++ after.toList = [] :=
      EncodingSpec.encode_inj.mp hnone
    rw [List.append_eq_nil_iff, String.toList_eq_nil_iff,
      String.toList_eq_nil_iff] at hempty
    exact hconfig.literals hempty
  have hwhole : Text.ofString (before ++ decoded ++ after) =
      ⟨Utf8.encode
          ((Utf8.encode before.toList).map byteChar ++ decoded.toList ++
            (Utf8.encode after.toList).map byteChar),
        .utf8⟩ := by
    rw [← eq_byteChars_of_encode_eq hbefore rfl,
      ← eq_byteChars_of_encode_eq hafter rfl, ← String.toList_append,
      ← String.toList_append]
    rfl
  rw [EncodingSpec.normalize, Option.some.injEq, Value.text.injEq, hwhole]
  exact EncodingSpec.normalizeText_around_iff hconfig.into_utf8 hcharset hread
    hbefore hafter haround

theorem get?_stamped {config : Config} {t : Transformer}
    (hbuild : build config = .ok t) {spec : EncodingSpec}
    {earlier later : Fields String} {key before after : String}
    (hconfig : Splices config spec earlier key before after later) {host : Host}
    {tag : String} {time : Int64} {record stamped : Record}
    (hstamp : t.stamp host time (t.writeTag tag record) = .ok stamped) :
    stamped.get? "m" = record.get? "m" := by
  rw [get?_stamp hstamp, get?_writeTag]
  · rw [tagKey_of_build hbuild]
    exact hconfig.tag_spares
  · intro f hfield
    exact hconfig.time_spares (timeKey_of_build hbuild hfield)

section Finishing

variable {config : Config} {t : Transformer} {spec : EncodingSpec}
  {earlier later : Fields String} {key before after : String}
  (hconfig : Splices config spec earlier key before after later)
  (hencoding : t.encoding = some spec) {text : Text} {decoded : String}
  (hcharset : text.charset = spec.source ∨ text.charset = .binary)
  (hread : spec.source.decode text.bytes = decoded.toList.map some)

include hconfig hencoding hcharset hread

theorem get?_finish_around_iff (hkeeps : t.keyPolicy.Keeps key)
    {written : Record}
    (hwritten : written.get? key =
      some (.text
        ⟨Utf8.encode before.toList ++ text.bytes ++ Utf8.encode after.toList,
          if text.isAscii then .utf8 else text.charset⟩)) :
    (t.finish written).get? key =
        some (.text (Text.ofString (before ++ decoded ++ after))) <->
      spec.source.Spliceable text.bytes := by
  rw [get?_finish hencoding hkeeps, hwritten]
  exact normalize_around_iff hconfig hcharset hread

theorem get?_finish_itself {other : String} (hkeeps : t.keyPolicy.Keeps other)
    {written : Record} (hwritten : written.get? other = some (.text text)) :
    (t.finish written).get? other = some (.text (Text.ofString decoded)) := by
  rw [get?_finish hencoding hkeeps, hwritten]
  show some (Value.text (spec.normalizeText text)) = _
  rw [EncodingSpec.normalizeText_of_read hconfig.into_utf8 hcharset hread]
  rfl

end Finishing

theorem transform_splices_iff {config : Config} {t : Transformer}
    (hbuild : build config = .ok t) {spec : EncodingSpec}
    {earlier later : Fields String} {key before after : String}
    (hconfig : Splices config spec earlier key before after later)
    (hkeeps : t.keyPolicy.Keeps key) (host : Host) (options : ReportOptions)
    (tag : String) (time : Int64) {record : Record} {text : Text}
    {decoded : String} (htext : record.get? "m" = some (.text text))
    (hcharset : text.charset = spec.source ∨ text.charset = .binary)
    (hread : spec.source.decode text.bytes = decoded.toList.map some) :
    (exists timeKey f overflow, t.timeField = some (timeKey, f) ∧
        f.render host time = .error overflow ∧
        t.transform host options tag (time, record) = .error overflow) ∨
      (exists run, t.transform host options tag (time, record) = .ok run ∧
        ((exists field source, run.result = .error (.evaluation field source) ∧
            config.errorPolicy = .fail ∧ field ∈ earlier.keys ++ later.keys) ∨
          (exists out, run.result = .ok out ∧
            (out.get? key =
              some (.text (Text.ofString (before ++ decoded ++ after))) <->
              spec.source.Spliceable text.bytes) ∧
            ("m" ∉ config.record.keys -> t.keyPolicy.Keeps "m" ->
              out.get? "m" = some (.text (Text.ofString decoded)))))) := by
  rcases hconfig.converts with ⟨words, hwords, hspec⟩
  have hencoding := encoding_of_build hbuild hwords hspec
  have hbefore := asciiBytes_encode hconfig.before_ascii
  have hafter := asciiBytes_encode hconfig.after_ascii
  rcases fields_of_build hbuild hconfig.fields
      (compile_aroundText hconfig.before_plain hconfig.after_plain
        hconfig.literals) with
    ⟨befores, afters, hfields, hbefores, hafters⟩
  have hspares : "m" ∉ befores.map Field.key := by
    rw [hbefores]
    exact hconfig.fields_spare
  have hlater : key ∉ afters.map Field.key := by
    rw [hafters]
    exact hconfig.written_last
  rw [transform_eq_alone, alone]
  cases hstamp : t.stamp host time (t.writeTag tag record) with
  | error overflow =>
      left
      rcases timeField_of_stamp_eq_error hstamp with
        ⟨timeKey, f, hfield, hrender⟩
      exact ⟨timeKey, f, overflow, hfield, hrender, rfl⟩
  | ok stamped =>
      right
      refine ⟨_, rfl, ?_⟩
      have hstamped : stamped.get? "m" = some (.text text) := by
        rw [get?_stamped hbuild hconfig hstamp, htext]
      show
        (exists field source,
          ((writeFields t.errorPolicy (t.context host tag time stamped)
            t.fields).result.map t.finish).mapError FieldFailure.error = _ ∧
          _) ∨
        exists out,
          ((writeFields t.errorPolicy (t.context host tag time stamped)
            t.fields).result.map t.finish).mapError FieldFailure.error = _ ∧ _
      cases hwritten :
          (writeFields t.errorPolicy (t.context host tag time stamped)
            t.fields).result with
      | error failure =>
          left
          rw [hfields] at hwritten
          rcases failure_of_writeFields_around hwritten hstamped hspares hbefore
            hafter with
            ⟨hpolicy, hmem⟩
          rw [hbefores, hafters] at hmem
          refine ⟨failure.field, failure.source, rfl, ?_, hmem⟩
          rw [← hpolicy, errorPolicy_of_build hbuild]
      | ok written =>
          right
          refine ⟨t.finish written, rfl, ?_, ?_⟩
          · rw [hfields] at hwritten
            exact get?_finish_around_iff hconfig hencoding hcharset hread hkeeps
              (get?_writeFields_around hwritten hstamped hspares hlater
                hbefore hafter)
          · intro hunwritten hkeeps
            rw [← keys_of_build hbuild] at hunwritten
            exact get?_finish_itself hconfig hencoding hcharset hread hkeeps
              ((get?_writeFields hwritten hunwritten).trans hstamped)

def bracketing (words : String) : Config :=
  { Config.default with
    record := [("x", aroundText "<" ">")]
    charEncoding := some words }

def bracketer (spec : EncodingSpec) : Transformer :=
  ⟨[⟨"x", planAround "<" ">"⟩], .keepAll, some spec, .omit, none, none⟩

theorem splices_bracketing {words : String} {spec : EncodingSpec}
    (hspec : EncodingSpec.parse words = .ok spec)
    (htarget : spec.target = some .utf8) :
    Splices (bracketing words) spec [] "x" "<" ">" [] where
  converts := ⟨words, rfl, hspec⟩
  into_utf8 := htarget
  fields := rfl
  written_last := List.not_mem_nil
  fields_spare := List.not_mem_nil
  tag_spares := by simp [bracketing, Config.default]
  time_spares := by simp [bracketing, Config.default]
  before_ascii := by simp [AsciiChars]
  after_ascii := by simp [AsciiChars]
  before_plain := breakAtOpening_eq_none_iff.mp rfl
  after_plain := breakAtOpening_eq_none_iff.mp rfl
  literals := by decide

def fromShiftJis : EncodingSpec :=
  ⟨.encoded .shiftJis, some .utf8, by simp; rfl⟩

def katakana : Text :=
  .binary [0xB1]

theorem read_katakana :
    fromShiftJis.source.decode katakana.bytes = "ｱ".toList.map some := by
  have hpiece : Encoding.shiftJis.piece 0xB1 [] = ⟨[some 'ｱ'], 0⟩ := by
    decide +kernel
  show readPieces Encoding.shiftJis.piece [0xB1] = _
  rw [readPieces, hpiece, List.drop_nil, readPieces_nil]
  rfl

theorem transform_splices_iff_katakana :
    exists run out,
      (bracketer fromShiftJis).transform ⟨[], [], 0⟩ .default "a"
        (0, [("m", .text katakana)]) =
        .ok run ∧
      run.result = .ok out ∧ out.get? "x" = some (.text (Text.ofString "<ｱ>")) ∧
      out.get? "m" = some (.text (Text.ofString "ｱ")) := by
  have hbuild :
      build (bracketing "shift_jis:utf-8") = .ok (bracketer fromShiftJis) := by
    with_unfolding_all rfl
  have hspec : EncodingSpec.parse "shift_jis:utf-8" = .ok fromShiftJis := by
    with_unfolding_all rfl
  have hkeeps : forall key, (bracketer fromShiftJis).keyPolicy.Keeps key :=
    fun _ _ => rfl
  have htext : Fields.get? [("m", Value.text katakana)] "m" =
      some (.text katakana) := rfl
  rcases transform_splices_iff hbuild (splices_bracketing hspec rfl)
    (hkeeps "x") ⟨[], [], 0⟩ .default
      "a" 0 htext (.inr rfl) read_katakana with
    ⟨_, _, _, hfield, _⟩ | ⟨run, hrun, hfails | ⟨out, hout, hspliced, hitself⟩⟩
  · cases hfield
  · rcases hfails with ⟨_, _, _, hpolicy, _⟩
    cases hpolicy
  · exact ⟨run, out, hrun, hout, hspliced.mpr trivial,
      hitself (by decide) (hkeeps "m")⟩

def fromIso2022Jp : EncodingSpec :=
  ⟨.encoded .iso2022Jp, some .utf8, by simp; rfl⟩

/-- The yen sign in the Roman set, and back to ASCII. -/
def yen : Text :=
  ⟨[0x1B, 0x28, 0x4A, 0x5C, 0x1B, 0x28, 0x42], .encoded .iso2022Jp⟩

theorem read_yen :
    fromIso2022Jp.source.decode yen.bytes = "¥".toList.map some := by
  show Iso2022Jp.read .ascii false [0x1B, 0x28, 0x4A, 0x5C, 0x1B, 0x28, 0x42] =
      _
  simp [Iso2022Jp.read, Iso2022Jp.escape?, Iso2022Jp.byteChar?, isAscii]

/-- The text is read without a fault and converted by itself, and yet between
the brackets its escape sequences stay. -/
theorem transform_keeps_escapes :
    build (bracketing "iso-2022-jp:utf-8") = .ok (bracketer fromIso2022Jp) ∧
      fromIso2022Jp.source.decode yen.bytes = "¥".toList.map some ∧
      exists run out,
        (bracketer fromIso2022Jp).transform ⟨[], [], 0⟩ .default "a"
          (0, [("m", .text yen)]) =
          .ok run ∧
        run.result = .ok out ∧ out.get? "m" = some (.text (Text.ofString "¥")) ∧
        out.get? "x" = some (.text ⟨0x3C :: yen.bytes ++ [0x3E], .utf8⟩) ∧
        out.get? "x" ≠ some (.text (Text.ofString "<¥>")) := by
  have hitself : fromIso2022Jp.normalizeText yen = Text.ofString "¥" :=
    EncodingSpec.normalizeText_of_read rfl (.inl rfl) read_yen
  have hspliced :
      fromIso2022Jp.normalizeText ⟨0x3C :: yen.bytes ++ [0x3E], .utf8⟩ = _ :=
    EncodingSpec.normalizeText_of_utf8 rfl rfl
  have hdiffers : 0x3C :: yen.bytes ++ [0x3E] ≠ Utf8.ofString "<¥>" := by decide
  refine ⟨by with_unfolding_all rfl, read_yen, _, _, rfl, rfl, ?_, ?_, ?_⟩
  · exact congrArg (fun text => some (Value.text text)) hitself
  · exact congrArg (fun text => some (Value.text text)) hspliced
  · intro heq
    have htexts :=
      (congrArg (fun text => some (Value.text text)) hspliced).symm.trans heq
    injection htexts with hvalues
    injection hvalues with htexts
    exact hdiffers (congrArg Text.bytes htexts)

end Transformer
end Reshape
