import Reshape.Proofs.Except
import Reshape.Proofs.Time.Cache
import Reshape.Transformer

/-!
# Events by themselves

A batch hands its cache on from event to event, while a single call starts with
an empty one.  The cache of a batch stays faithful to the formatter of the
transformer, so each event comes to what it comes to by itself, with its time
rendered by the formatter and no cache at all.
-/

namespace Reshape
namespace Transformer

/-!
## The invariant of a batch
-/

def Steady (t : Transformer) (host : Host) (cache : TimeCache) : Prop :=
  forall key f, t.timeField = some (key, f) -> cache.Faithful f host

theorem steady_empty (t : Transformer) (host : Host) :
    t.Steady host .empty := by
  intro key f _
  exact TimeCache.faithful_empty f host

def stamp (t : Transformer) (host : Host) (time : Int64) (record : Record) :
    Except Time.Overflow Record :=
  match t.timeField with
  | none => .ok record
  | some (key, f) =>
      (f.render host time).map fun value => record.insert key value

theorem writeTime_of_steady {t : Transformer} {host : Host} {cache : TimeCache}
    (hcache : t.Steady host cache) (time : Int64) (record : Record) :
    (t.writeTime host cache time record).map Prod.fst =
      t.stamp host time record := by
  unfold writeTime stamp
  cases hfield : t.timeField with
  | none => rfl
  | some field =>
      rcases field with ⟨key, f⟩
      dsimp only
      rw [except_map_map,
        ← TimeCache.render_of_faithful (hcache key f hfield) time,
        except_map_map]
      rfl

theorem steady_of_writeTime {t : Transformer} {host : Host} {cache : TimeCache}
    {time : Int64} {record : Record} {timed : Record × TimeCache}
    (hcache : t.Steady host cache)
    (h : t.writeTime host cache time record = .ok timed) :
    t.Steady host timed.2 := by
  intro key f hfield
  unfold writeTime at h
  rw [hfield] at h
  simp only at h
  cases hrender : cache.render f host time with
  | error overflow =>
      rw [hrender] at h
      cases h
  | ok rendered =>
      rw [hrender] at h
      cases h
      exact TimeCache.faithful_of_render (hcache key f hfield) hrender

/-!
## One event
-/

/-- What comes of an event that no other shares a cache with. -/
def alone (t : Transformer) (host : Host) (tag : String) (event : Event) :
    Except Time.Overflow (Outcome Record) :=
  (t.stamp host event.1 (t.writeTag tag event.2)).map
    (t.applyFields host tag event.1)

theorem applyEvent_of_steady {t : Transformer} {host : Host} {cache : TimeCache}
    (hcache : t.Steady host cache) (tag : String) (event : Event) :
    (t.applyEvent host tag cache event).map Prod.fst =
      t.alone host tag event := by
  unfold applyEvent alone
  rw [except_map_map,
    ← writeTime_of_steady hcache event.1 (t.writeTag tag event.2),
    except_map_map]
  rfl

theorem steady_of_applyEvent {t : Transformer} {host : Host} {cache : TimeCache}
    {tag : String} {event : Event} {applied : Outcome Record × TimeCache}
    (hcache : t.Steady host cache)
    (h : t.applyEvent host tag cache event = .ok applied) :
    t.Steady host applied.2 := by
  unfold applyEvent at h
  cases htime : t.writeTime host cache event.1 (t.writeTag tag event.2) with
  | error overflow =>
      rw [htime] at h
      cases h
  | ok timed =>
      rw [htime] at h
      cases h
      exact steady_of_writeTime hcache htime

theorem transform_eq_alone (t : Transformer) (host : Host)
    (options : ReportOptions) (tag : String) (event : Event) :
    t.transform host options tag event =
      (t.alone host tag event).map fun outcome =>
        ⟨outcome.failures.flatMap (t.failureTrace options ⟨tag, none⟩),
          outcome.result.mapError FieldFailure.error⟩ := by
  unfold transform
  rw [← applyEvent_of_steady (steady_empty t host) tag event, except_map_map]
  rfl

end Transformer
end Reshape
