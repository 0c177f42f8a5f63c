import Reshape.Proofs.Encoding.Normalization
import Reshape.Proofs.Engine.Agreement
import Reshape.Proofs.Event.Keyed
import Reshape.Proofs.Key.Pruning

/-!
# Events without the listed fields

A transformer removes the listed fields of a record last of all, and normalizing
the texts brings none back.  So no event that it gives out has a field that its
list of fields to remove addresses.
-/

namespace Reshape

open Template Value

/-!
## Distinct keys throughout

Whatever is written into a record comes from the record itself, or is a text, a
number or an array of texts.
-/

namespace Value

theorem keyed_of_child? {v child : Value} (h : Keyed v) {a : Accessor}
    (hchild : v.child? a = some child) : Keyed child := by
  rcases Frame.exists_frame hchild with ⟨frame, _, rfl⟩
  exact keyed_of_fill h

end Value

namespace Template

theorem keyed_of_follow {path : List Accessor} {v found : Value} (h : Keyed v)
    (hfollow : follow v path = .ok found) : Keyed found := by
  induction path generalizing v with
  | nil =>
      cases hfollow
      exact h
  | cons a path ih =>
      rw [follow, step] at hfollow
      cases haccepts : v.accepts a with
      | false =>
          rw [haccepts] at hfollow
          cases hfollow
      | true =>
          rw [haccepts] at hfollow
          refine ih ?_ hfollow
          cases hchild : v.child? a with
          | none => exact .null
          | some child => exact keyed_of_child? h hchild

theorem keyed_of_lookup {record : Record} {path : List Accessor} {v : Value}
    (h : Keyed (.map record)) (hlookup : lookup record path = .ok v) :
    Keyed v := by
  cases path with
  | nil =>
      cases hlookup
      exact h
  | cons a path =>
      cases a with
      | key name =>
          rw [lookup_of_key] at hlookup
          exact keyed_of_follow h hlookup
      | position n => cases hlookup

theorem keyed_of_lookupPart {parts : List String} {path : List Accessor}
    {v : Value} (hlookup : lookupPart parts path = .ok v) : Keyed v := by
  unfold lookupPart at hlookup
  split at hlookup
  · cases hlookup
    refine .array ?_
    intro item hitem
    rcases List.mem_map.mp hitem with ⟨part, _, rfl⟩
    exact .text _
  · split at hlookup
    · cases hlookup
      exact .text _
    · cases hlookup
  · cases hlookup

theorem keyed_of_evaluate {e : Expr} {ctx : Context} {v : Value}
    (h : Keyed (.map ctx.record)) (hevaluate : e.evaluate ctx = .ok v) :
    Keyed v := by
  rcases e with ⟨root, path⟩
  cases root with
  | tag =>
      cases hevaluate
      exact .text _
  | time =>
      cases hevaluate
      exact .int _
  | hostname =>
      cases hevaluate
      exact .text _
  | environment name =>
      cases hevaluate
      cases ctx.host.environmentValue? name with
      | none => exact .null
      | some value => exact .text _
  | string s =>
      cases hevaluate
      exact .text _
  | integer n =>
      cases hevaluate
      exact .int n
  | tagParts =>
      rw [Expr.evaluate] at hevaluate
      cases hparts : ctx.tagParts with
      | none =>
          rw [hparts] at hevaluate
          cases hevaluate
      | some parts =>
          rw [hparts] at hevaluate
          exact keyed_of_lookupPart hevaluate
  | record => exact keyed_of_lookup h hevaluate

theorem keyed_of_evaluate_plan {plan : Plan} {ctx : Context} {v : Value}
    (h : Keyed (.map ctx.record)) (hevaluate : plan.evaluate ctx = .ok v) :
    Keyed v := by
  cases plan with
  | literal s =>
      cases hevaluate
      exact .text _
  | raw e => exact keyed_of_evaluate h hevaluate
  | template segments =>
      rcases except_bind_eq_ok hevaluate with ⟨texts, _, htext⟩
      cases htext
      exact .text _

end Template

namespace Transformer

theorem keyed_of_writeFields {policy : ErrorPolicy} {ctx : Context}
    {fields : List Field} {out : Record} (h : Keyed (.map ctx.record))
    (hout : (writeFields policy ctx fields).result = .ok out) :
    Keyed (.map out) := by
  induction fields generalizing ctx with
  | nil =>
      cases hout
      exact h
  | cons field rest ih =>
      rw [writeFields] at hout
      cases hvalue : field.plan.evaluate ctx with
      | ok value =>
          rw [hvalue] at hout
          exact ih (keyed_insert h field.key (keyed_of_evaluate_plan h hvalue))
            hout
      | error source =>
          rw [hvalue] at hout
          cases policy
          · exact ih h hout
          · exact ih (keyed_insert h field.key .null) hout
          · cases hout

theorem keyed_writeTag (t : Transformer) (tag : String) {record : Record}
    (h : Keyed (.map record)) : Keyed (.map (t.writeTag tag record)) := by
  unfold writeTag
  cases t.tagKey with
  | none => exact h
  | some key => exact keyed_insert h key (.text _)

theorem keyed_of_render {f : TimeFormatter} {host : Host} {time : Int64}
    {v : Value} (h : f.render host time = .ok v) : Keyed v := by
  unfold TimeFormatter.render at h
  split at h
  · cases h
    exact .int time
  · rcases except_map_eq_ok h with ⟨cs, _, rfl⟩
    exact .text _

theorem keyed_of_stamp {t : Transformer} {host : Host} {time : Int64}
    {record stamped : Record} (h : Keyed (.map record))
    (hstamp : t.stamp host time record = .ok stamped) :
    Keyed (.map stamped) := by
  unfold stamp at hstamp
  cases htime : t.timeField with
  | none =>
      rw [htime] at hstamp
      cases hstamp
      exact h
  | some field =>
      rw [htime] at hstamp
      rcases except_map_eq_ok hstamp with ⟨value, hvalue, rfl⟩
      exact keyed_insert h field.1 (keyed_of_render hvalue)

theorem exists_finish_of_alone {t : Transformer} {host : Host} {tag : String}
    {event : Event} {outcome : Outcome Record} {out : Record}
    (h : Keyed (.map event.2)) (halone : t.alone host tag event = .ok outcome)
    (hout : outcome.result = .ok out) :
    exists record, Keyed (.map record) ∧ t.finish record = out := by
  rcases except_map_eq_ok halone with ⟨stamped, hstamp, rfl⟩
  rcases except_map_eq_ok hout with ⟨record, hrecord, hfinish⟩
  have hstamped := keyed_of_stamp (keyed_writeTag t tag h) hstamp
  exact ⟨record, keyed_of_writeFields hstamped hrecord, hfinish⟩

/-!
## What is given out
-/

/-- The ways in which records are given out for events: by a call with a single
event, by a stream, and by an engine on some schedule. -/
inductive Emits (t : Transformer) (host : Host) (options : ReportOptions)
    (tag : String) : List Event -> Record -> Prop
  | single {event : Event} {run : Run Record} {record : Record}
      (call : t.transform host options tag event = .ok run)
      (result : run.result = .ok record) :
      Emits t host options tag [event] record
  | stream {events out : List Event} {run : Run (List Event)} {event : Event}
      (call : t.transformStream host options tag events = .ok run)
      (result : run.result = .ok out) (mem : event ∈ out) :
      Emits t host options tag events event.2
  | engine {engine : Engine} {schedule : Engine.Schedule}
      {events out : List Event} {execution : Engine.Execution} {event : Event}
      (call : engine.run t host options schedule tag events = .ok execution)
      (result : execution.result = .ok out) (mem : event ∈ out) :
      Emits t host options tag events event.2

theorem exists_alone_of_oneByOne {t : Transformer} {host : Host} {tag : String}
    {first : Nat} {events out : List Event} {batch : BatchOutcome}
    (h : t.oneByOne host tag first events = .ok batch)
    (hout : batch.result = .ok out) {event : Event} (hmem : event ∈ out) :
    exists source outcome, source ∈ events ∧
      t.alone host tag source = .ok outcome ∧
      outcome.result = .ok event.2 := by
  induction events generalizing first batch out with
  | nil =>
      cases h
      cases hout
      cases hmem
  | cons source rest ih =>
      rcases except_bind_eq_ok h with ⟨outcome, houtcome, hbatch⟩
      cases hresult : outcome.result with
      | error failure =>
          rw [BatchOutcome.andThen_of_error
              (single_of_failure hresult first source)]
            at hbatch
          cases hbatch
          rw [single_of_failure hresult] at hout
          cases hout
      | ok record =>
          have hsingle := single_of_success hresult first source
          rw [BatchOutcome.andThen_of_ok hsingle] at hbatch
          rcases except_map_eq_ok hbatch with ⟨next, hnext, rfl⟩
          rw [BatchOutcome.result_followedBy hsingle] at hout
          rcases except_map_eq_ok hout with ⟨more, hmore, rfl⟩
          rcases List.mem_cons.mp hmem with rfl | hlater
          · exact ⟨source, outcome, List.mem_cons_self, houtcome, hresult⟩
          · rcases ih hnext hmore hlater with ⟨later, outcome', hsource, hrest⟩
            exact ⟨later, outcome', List.mem_cons_of_mem source hsource, hrest⟩

/-- However a record is given out, it is what comes of one of the events by
itself. -/
theorem exists_alone_of_emits {t : Transformer} {host : Host}
    {options : ReportOptions} {tag : String} {events : List Event}
    {record : Record} (h : t.Emits host options tag events record) :
    exists source outcome, source ∈ events ∧
      t.alone host tag source = .ok outcome ∧
      outcome.result = .ok record := by
  cases h with
  | @single event run _ call result =>
      rw [transform_eq_alone] at call
      rcases except_map_eq_ok call with ⟨outcome, houtcome, rfl⟩
      exact ⟨event, outcome, List.mem_singleton.mpr rfl, houtcome,
        except_mapError_eq_ok result⟩
  | @stream _ out run event call result mem =>
      rw [transformStream_eq_oneByOne] at call
      rcases except_map_eq_ok call with ⟨batch, hbatch, rfl⟩
      rw [streamRun_result] at result
      exact exists_alone_of_oneByOne hbatch (except_mapError_eq_ok result) mem
  | @engine engine schedule _ out execution event call result mem =>
      rcases except_map_eq_ok call with ⟨outcomes, houtcomes, rfl⟩
      rcases Engine.batch_of_outcomes houtcomes with ⟨batch, hbatch, hcollect⟩
      refine exists_alone_of_oneByOne hbatch ?_ mem
      have hanswer := congrArg Prod.fst
        (Engine.answer_execute engine t options schedule tag events.length
          hcollect)
      unfold Engine.Execution.answer Engine.batchAnswer at hanswer
      rw [result] at hanswer
      cases hresult : batch.result with
      | error failure =>
          rw [hresult] at hanswer
          cases hanswer
      | ok out' =>
          rw [hresult] at hanswer
          cases hanswer
          rfl

end Transformer

/-!
## What is left of a record
-/

theorem Value.prune_normalize (paths : List (List Accessor))
    (spec : EncodingSpec) (v : Value) :
    prune paths (spec.normalize v) = spec.normalize (prune paths v) := by
  induction v using induction_on_parts generalizing paths with
  | array items ih =>
      rw [EncodingSpec.normalize, prune, prune, EncodingSpec.normalize,
        EncodingSpec.normalizeItems_eq, EncodingSpec.normalizeItems_eq,
        List.length_map]
      refine congrArg Value.array (List.ext_getElem? fun i => ?_)
      rw [getElem?_pruneItems, List.getElem?_map, List.getElem?_map,
        getElem?_pruneItems]
      cases hitem : items[i]? with
      | none => rfl
      | some item =>
          exact congrArg some (ih item (List.mem_of_getElem? hitem) _)
  | map entries ih =>
      rw [EncodingSpec.normalize, prune, prune, EncodingSpec.normalize,
        EncodingSpec.normalizeFields_eq, EncodingSpec.normalizeFields_eq,
        pruneEntries_eq, pruneEntries_eq, List.filter_map, List.map_map,
        List.map_map]
      refine congrArg Value.map (List.map_congr_left ?_)
      intro entry hentry
      exact congrArg (Prod.mk entry.1)
        (ih entry (List.mem_filter.mp hentry).left _)
  | _ => rfl

namespace Transformer

theorem finish_eq_prune {t : Transformer} {paths : List KeyPath}
    (hpolicy : t.keyPolicy = .remove paths)
    (ends : forall path, path ∈ paths -> Accessor.EndsInKey path.accessors)
    {record : Record} (h : Keyed (.map record)) :
    exists whole,
      .map (t.finish record) = prune (paths.map KeyPath.accessors) whole := by
  have hreduce := KeyPolicy.reduce_eq_prune ends h
  unfold finish
  rw [hpolicy]
  cases t.encoding with
  | none => exact ⟨_, hreduce⟩
  | some spec =>
      refine ⟨spec.normalize (.map record), ?_⟩
      rw [prune_normalize, ← hreduce]
      rfl

theorem clear_of_emits {t : Transformer} {paths : List KeyPath}
    (hpolicy : t.keyPolicy = .remove paths)
    (ends : forall path, path ∈ paths -> Accessor.EndsInKey path.accessors)
    {host : Host} {options : ReportOptions} {tag : String} {events : List Event}
    {record : Record}
    (hkeyed : forall event, event ∈ events -> Keyed (.map event.2))
    (h : t.Emits host options tag events record) :
    KeyPath.Clear paths record := by
  rcases exists_alone_of_emits h with
    ⟨source, outcome, hsource, halone, hresult⟩
  rcases exists_finish_of_alone (hkeyed source hsource) halone hresult with
    ⟨written, hwritten, rfl⟩
  rcases finish_eq_prune hpolicy ends hwritten with ⟨whole, hwhole⟩
  exact KeyPolicy.clear_of_eq_prune ends hwhole

theorem clear_of_emits_read {t : Transformer} {paths : List KeyPath}
    (hpolicy : t.keyPolicy = .remove paths)
    (ends : forall path, path ∈ paths -> Accessor.EndsInKey path.accessors)
    {host : Host} {options : ReportOptions} {tag source : String}
    {defaultTime : Int64} {events : List Event} {record : Record}
    (hread : Event.parse source defaultTime = .ok events)
    (h : t.Emits host options tag events record) : KeyPath.Clear paths record :=
  clear_of_emits hpolicy ends (fun _ => Event.keyed_of_parse hread) h

end Transformer

/-- What removing the paths makes of a record. -/
structure Removed (paths : List KeyPath) (record left : Record) : Prop where
  /-- Every entry that a path leads to is left out of the record, all in one
  pass. -/
  pass : .map left = prune (paths.map KeyPath.accessors) (.map record)
  /-- What else there is stays in its order. -/
  thinned : Thinned (.map record) (.map left)
  /-- The paths may come in any order, more than once and in any spelling. -/
  unordered : forall others : List KeyPath,
    (forall address, address ∈ others.map KeyPath.accessors <->
      address ∈ paths.map KeyPath.accessors) ->
    (KeyPolicy.remove others).reduce record = left
  /-- Removing once more changes nothing. -/
  settled : (KeyPolicy.remove paths).reduce left = left
  clear : KeyPath.Clear paths left

namespace Transformer

/-- Fields that end in a key are removed as a set, and no record that is given
out has one of them. -/
theorem removes_listed_fields {paths : List KeyPath}
    (ends : forall path, path ∈ paths -> Accessor.EndsInKey path.accessors) :
    (forall record, Keyed (.map record) ->
      Removed paths record ((KeyPolicy.remove paths).reduce record)) ∧
    forall (t : Transformer) (host : Host) (options : ReportOptions)
      (tag : String)
      (events : List Event) (record : Record), t.keyPolicy = .remove paths ->
      (forall event, event ∈ events -> Keyed (.map event.2)) ->
      t.Emits host options tag events record -> KeyPath.Clear paths record := by
  constructor
  · intro record h
    have hpass := KeyPolicy.reduce_eq_prune ends h
    exact {
      pass := hpass
      thinned := hpass ▸ thinned_prune _ _
      unordered := fun others hsame => KeyPolicy.reduce_congr ends hsame h
      settled := KeyPolicy.reduce_reduce ends h
      clear := KeyPolicy.clear_of_eq_prune ends hpass }
  · intro t host options tag events record hpolicy hkeyed hemits
    exact clear_of_emits hpolicy ends hkeyed hemits

def listed : List KeyPath :=
  [⟨"$.a.b", [.key "a", .key "b"]⟩, ⟨"a", [.key "a"]⟩,
    ⟨"$.items[0].x", [.key "items", .position 0, .key "x"]⟩,
    ⟨"$.items[-2].x", [.key "items", .position (-2), .key "x"]⟩,
    ⟨"a", [.key "a"]⟩]

def listing : Record :=
  [("id", .int 7), ("a", .map [("b", .int 1)]),
    ("items",
      .array [.map [("x", .int 2), ("y", .int 3)], .map [("x", .int 4)]])]

def copying : Transformer :=
  ⟨[⟨"c", .raw ⟨.record, [.key "a", .key "b"]⟩⟩], .remove listed, none, .omit,
    none, none⟩

theorem removes_listed_fields_copied :
    ["$.a.b", "a", "$.items[0].x", "$.items[-2].x", "a"].mapM KeyPath.parse =
      .ok listed ∧
      Removed listed listing
        [("id", .int 7),
          ("items", .array [.map [("y", .int 3)], .map [("x", .int 4)]])] ∧
      copying.Emits ⟨[], [], 0⟩ .default "a" [(0, listing)]
        [("id", .int 7),
          ("items", .array [.map [("y", .int 3)], .map [("x", .int 4)]]),
          ("c", .int 1)] ∧
      KeyPath.Clear listed
        [("id", .int 7),
          ("items", .array [.map [("y", .int 3)], .map [("x", .int 4)]]),
          ("c", .int 1)] := by
  have hends :
      forall path, path ∈ listed -> Accessor.EndsInKey path.accessors := by
    intro path hpath
    simp only [listed, List.mem_cons, List.not_mem_nil, or_false] at hpath
    rcases hpath with rfl | rfl | rfl | rfl | rfl <;> exact ⟨_, rfl⟩
  have hkeyed : Keyed (.map listing) := by
    simp [listing, Fields.Distinct, Fields.keys]
  have hemits : copying.Emits ⟨[], [], 0⟩ .default "a" [(0, listing)]
      [("id", .int 7),
        ("items", .array [.map [("y", .int 3)], .map [("x", .int 4)]]),
        ("c", .int 1)] :=
    .single rfl rfl
  refine ⟨?_, (removes_listed_fields hends).left listing hkeyed, hemits, ?_⟩
  · with_unfolding_all rfl
  · refine (removes_listed_fields hends).right copying ⟨[], [], 0⟩ .default "a"
      _ _ rfl ?_ hemits
    intro event hevent
    rw [List.mem_singleton.mp hevent]
    exact hkeyed

end Transformer
end Reshape
