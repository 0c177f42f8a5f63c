import Reshape.Proofs.Expansion.Evaluations
import Reshape.Proofs.Fields
import Reshape.Proofs.Template.Paths

/-!
# What fields can depend on

The expressions of a transformer name the keys of a record that they begin with.
Records that read alike at these keys stay so while tag, time and fields are
written, since the same is written to both; so every field evaluates to the same
in both, whatever else the records hold and in whatever order.
-/

namespace Reshape
namespace Template

/-!
## The keys that are read
-/

def Expr.readKey? (e : Expr) : Option String :=
  match e.root, e.path with
  | .record, .key name :: _ => some name
  | _, _ => none

/-- The expression does not take the record as a whole. -/
def Expr.Indexed (e : Expr) : Prop :=
  e.root = .record -> e.path ≠ []

def Segment.expr? : Segment -> Option Expr
  | .literal _ => none
  | .expr e => some e

def Plan.exprs : Plan -> List Expr
  | .literal _ => []
  | .raw e => [e]
  | .template segments => segments.filterMap Segment.expr?

/-- The expression reads a record at the given keys only. -/
def Expr.Confined (names : List String) (e : Expr) : Prop :=
  e.Indexed ∧ forall name, e.readKey? = some name -> name ∈ names

def Plan.Confined (names : List String) (plan : Plan) : Prop :=
  forall e, e ∈ plan.exprs -> e.Confined names

end Template

open Template

def Record.Agree (names : List String) (r r' : Record) : Prop :=
  forall name, name ∈ names -> Record.valueAt r name = Record.valueAt r' name

theorem agree_insert {names : List String} {r r' : Record}
    (h : Record.Agree names r r') (key : String) (value : Value) :
    Record.Agree names (r.insert key value) (r'.insert key value) := by
  intro name hname
  by_cases hkey : name = key
  · rw [hkey, Record.valueAt_insert_self, Record.valueAt_insert_self]
  · rw [Record.valueAt_insert_of_ne r hkey, Record.valueAt_insert_of_ne r' hkey]
    exact h name hname

namespace Template

/-!
## Expressions and plans
-/

theorem lookup_key (record : Record) (name : String) (path : List Accessor) :
    lookup record (.key name :: path) =
      follow (Record.valueAt record name) path :=
  lookup_of_key record name path

theorem evaluate_plan_congr {plan : Plan} {ctx ctx' : Context}
    (h : forall e, e ∈ plan.exprs -> e.evaluate ctx = e.evaluate ctx') :
    plan.evaluate ctx = plan.evaluate ctx' := by
  cases plan with
  | literal s => rfl
  | raw e => exact h e List.mem_cons_self
  | template segments =>
      have hsegments : segments.mapM (Segment.evaluate ctx) =
          segments.mapM (Segment.evaluate ctx') := by
        apply mapM_congr
        intro segment hsegment
        cases segment with
        | literal s => rfl
        | expr e =>
            rw [Segment.evaluate, Segment.evaluate,
              h e (List.mem_filterMap.mpr ⟨.expr e, hsegment, rfl⟩)]
      rw [Plan.evaluate, Plan.evaluate, hsegments]

section Agreement

variable {names : List String} {r r' : Record}
  (hagree : Record.Agree names r r') (ctx : Context)

include hagree

theorem evaluate_of_agree {e : Expr} (he : e.Confined names) :
    e.evaluate { ctx with record := r } =
      e.evaluate { ctx with record := r' } := by
  rcases e with ⟨root, path⟩
  rcases he with ⟨hindexed, hnames⟩
  cases root with
  | record =>
      show lookup r path = lookup r' path
      cases path with
      | nil => exact absurd rfl (hindexed rfl)
      | cons accessor path =>
          cases accessor with
          | position n => rfl
          | key name =>
              rw [lookup_key, lookup_key, hagree name (hnames name rfl)]
  | _ => rfl

theorem evaluate_plan_of_agree {plan : Plan} (h : plan.Confined names) :
    plan.evaluate { ctx with record := r } =
      plan.evaluate { ctx with record := r' } :=
  evaluate_plan_congr fun e he => evaluate_of_agree hagree ctx (h e he)

end Agreement

end Template

namespace Transformer

/-!
## The steps of an event
-/

theorem commit_of_agree {names : List String} {r r' : Record}
    (h : Record.Agree names r r') (policy : ErrorPolicy) (key : String)
    (result : Except EvalError Value) :
    (commit policy r key result = none ∧ commit policy r' key result = none) ∨
      (exists s s', commit policy r key result = some s ∧
        commit policy r' key result = some s' ∧
        Record.Agree names s s') := by
  cases result with
  | ok value => exact .inr ⟨_, _, rfl, rfl, agree_insert h key value⟩
  | error source =>
      cases policy
      · exact .inr ⟨_, _, rfl, rfl, h⟩
      · exact .inr ⟨_, _, rfl, rfl, agree_insert h key .null⟩
      · exact .inl ⟨rfl, rfl⟩

/-- The fields evaluate to the same, one after another, as long as the records
agree. -/
theorem evaluations_of_agree (policy : ErrorPolicy) {names : List String}
    {fields : List Field}
    (hfields : forall field, field ∈ fields -> field.plan.Confined names)
    {r r' : Record} (hagree : Record.Agree names r r') (ctx : Context) :
    evaluations policy { ctx with record := r } fields =
      evaluations policy { ctx with record := r' } fields := by
  induction fields generalizing r r' with
  | nil => rfl
  | cons field rest ih =>
      have hsame :=
        evaluate_plan_of_agree hagree ctx (hfields field List.mem_cons_self)
      have hrest : forall later, later ∈ rest -> later.plan.Confined names := by
        intro later hlater
        exact hfields later (List.mem_cons_of_mem field hlater)
      rw [evaluations, evaluations, hsame]
      rcases commit_of_agree hagree policy field.key
          (field.plan.evaluate { ctx with record := r' }) with
        ⟨hnone, hnone'⟩ | ⟨s, s', hsome, hsome', hagree'⟩
      · simp only [hnone, hnone']
      · simp only [hsome, hsome']
        rw [ih hrest hagree']

theorem writeTag_of_agree (t : Transformer) (tag : String) {names : List String}
    {r r' : Record} (h : Record.Agree names r r') :
    Record.Agree names (t.writeTag tag r) (t.writeTag tag r') := by
  unfold writeTag
  cases t.tagKey with
  | none => exact h
  | some key => exact agree_insert h key (.ofString tag)

theorem stamp_of_agree (t : Transformer) (host : Host) (time : Int64)
    {names : List String} {r r' : Record} (h : Record.Agree names r r') :
    (exists overflow, t.stamp host time r = .error overflow ∧
      t.stamp host time r' = .error overflow) ∨
    (exists s s', t.stamp host time r = .ok s ∧ t.stamp host time r' = .ok s' ∧
      Record.Agree names s s') := by
  unfold stamp
  cases t.timeField with
  | none => exact .inr ⟨r, r', rfl, rfl, h⟩
  | some field =>
      rcases field with ⟨key, f⟩
      dsimp only
      cases f.render host time with
      | error overflow => exact .inl ⟨overflow, rfl, rfl⟩
      | ok value => exact .inr ⟨_, _, rfl, rfl, agree_insert h key value⟩

/-!
## Two runs
-/

section Reads

variable (t : Transformer)

def exprs : List Expr :=
  t.fields.flatMap fun field => field.plan.exprs

def Indexed : Prop :=
  forall e, e ∈ t.exprs -> e.Indexed

def readKeys : List String :=
  t.exprs.filterMap Expr.readKey?

end Reads

theorem confined_of_indexed {t : Transformer} (h : t.Indexed) {field : Field}
    (hfield : field ∈ t.fields) : field.plan.Confined t.readKeys := by
  intro e he
  have hmem : e ∈ t.exprs := List.mem_flatMap.mpr ⟨field, hfield, he⟩
  constructor
  · exact h e hmem
  · intro name hname
    exact List.mem_filterMap.mpr ⟨e, hmem, hname⟩

theorem transform_noninterference (t : Transformer) (host : Host)
    (options : ReportOptions) (tag : String) (time : Int64) {r r' : Record}
    (hindexed : t.Indexed) (hagree : Record.Agree t.readKeys r r') :
    t.fieldResults host tag (time, r) = t.fieldResults host tag (time, r') ∧
      (t.transform host options tag (time, r)).map Run.verdict =
        (t.transform host options tag (time, r')).map Run.verdict := by
  have hfields :
      forall field, field ∈ t.fields -> field.plan.Confined t.readKeys := by
    intro field hfield
    exact confined_of_indexed hindexed hfield
  rw [transform_eq_replay, transform_eq_replay]
  unfold fieldResults
  rcases stamp_of_agree t host time (writeTag_of_agree t tag hagree) with
    ⟨overflow, herror, herror'⟩ | ⟨s, s', hok, hok', hagree'⟩
  · rw [herror, herror']
    exact ⟨rfl, rfl⟩
  · have hresults :=
      evaluations_of_agree t.errorPolicy hfields hagree'
        (t.context host tag time s)
    rw [hok, hok']
    constructor
    · exact congrArg Except.ok hresults
    · apply congrArg Except.ok
      apply verdict_runOfOutcome
      have hresults' : evaluations t.errorPolicy (t.context host tag time s)
          t.fields =
          evaluations t.errorPolicy (t.context host tag time s')
            t.fields := hresults
      rw [hresults']
      exact verdict_replay t.errorPolicy _ s s'

def nesting (policy : ErrorPolicy) : Transformer :=
  ⟨[⟨"inner", .raw ⟨.record, [.key "id", .key "x"]⟩⟩,
      ⟨"shown", .template [.literal "v", .expr ⟨.record, [.key "inner"]⟩]⟩],
    .keepAll, none, policy, none, none⟩

theorem transform_noninterference_missing_key :
    (nesting .null).fieldResults ⟨[], [], 0⟩ "a"
      (1, [("noise", .int 1), ("id", .null)]) =
        (nesting .null).fieldResults ⟨[], [], 0⟩ "a"
          (1, [("other", .bool true)]) ∧
      ((nesting .null).transform ⟨[], [], 0⟩ .default "a"
          (1, [("noise", .int 1), ("id", .null)])).map Run.verdict =
        ((nesting .null).transform ⟨[], [], 0⟩ .default "a"
          (1, [("other", .bool true)])).map Run.verdict := by
  apply transform_noninterference (nesting .null)
  · intro e he
    have hmem : e ∈
        [Expr.mk .record [.key "id", .key "x"],
          Expr.mk .record [.key "inner"]] := he
    simp only [List.mem_cons, List.not_mem_nil, or_false] at hmem
    rcases hmem with rfl | rfl <;>
      · intro _ h
        cases h
  · intro name hname
    have hmem : name ∈ ["id", "inner"] := hname
    simp only [List.mem_cons, List.not_mem_nil, or_false] at hmem
    rcases hmem with rfl | rfl <;> rfl

end Transformer
end Reshape
