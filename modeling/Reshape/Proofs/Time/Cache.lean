import Reshape.Time.Formatter

/-!
# Faithful caches

A cache is faithful to a formatter when each filled slot holds a time with its
own rendering.  A faithful cache gives the rendering of the formatter, and is
faithful again afterwards, so no sequence of times can make it answer for
another time.
-/

namespace Reshape
namespace TimeCache

/-!
## The invariant
-/

def Faithful (f : TimeFormatter) (host : Host) (cache : TimeCache) : Prop :=
  forall slot, slot ∈ cache.slots -> f.render host slot.1 = .ok slot.2

theorem faithful_empty (f : TimeFormatter) (host : Host) :
    Faithful f host empty := by
  intro slot hslot
  simp [empty, slots] at hslot

theorem mem_slots_store {cache : TimeCache} {slot other : Int64 × Value}
    (h : other ∈ (cache.store slot).slots) :
    other = slot ∨ other ∈ cache.slots := by
  rcases cache with ⟨first, second⟩
  cases first with
  | none =>
      cases second <;>
        simpa [store, slots] using h
  | some a =>
      cases second with
      | none =>
          simp [store, slots] at h ⊢
          rcases h with h | h
          · exact Or.inr h
          · exact Or.inl h
      | some b =>
          by_cases hle : b.1 ≤ a.1
          · simp [store, slots, hle] at h ⊢
            rcases h with h | h
            · exact Or.inr (Or.inl h)
            · exact Or.inl h
          · simp [store, slots, hle] at h ⊢
            rcases h with h | h
            · exact Or.inl h
            · exact Or.inr (Or.inr h)

theorem faithful_store {f : TimeFormatter} {host : Host} {cache : TimeCache}
    {time : Int64} {value : Value} (hcache : Faithful f host cache)
    (hvalue : f.render host time = .ok value) :
    Faithful f host (cache.store (time, value)) := by
  intro slot hslot
  rcases mem_slots_store hslot with rfl | hold
  · exact hvalue
  · exact hcache slot hold

/-!
## Looking up
-/

theorem render_eq_of_find? {f : TimeFormatter} {host : Host} {cache : TimeCache}
    {time : Int64} {value : Value} (hcache : Faithful f host cache)
    (h : cache.find? time = some value) : f.render host time = .ok value := by
  unfold find? at h
  rcases Option.map_eq_some_iff.mp h with ⟨slot, hfound, hvalue⟩
  have htime : slot.1 = time := by
    simpa using List.find?_some hfound
  have hslot := hcache slot (List.mem_of_find?_eq_some hfound)
  rw [htime, hvalue] at hslot
  exact hslot

/-!
## Rendering
-/

/-- A faithful cache answers as the formatter does, overflow included. -/
theorem render_of_faithful {f : TimeFormatter} {host : Host} {cache : TimeCache}
    (hcache : Faithful f host cache) (time : Int64) :
    (cache.render f host time).map Prod.fst = f.render host time := by
  unfold render
  cases hformat : f.format with
  | epoch =>
      simp [TimeFormatter.render, hformat, Except.map]
  | _ =>
      simp only
      cases hfind : cache.find? time with
      | some value =>
          rw [render_eq_of_find? hcache hfind]
          rfl
      | none =>
          cases f.render host time <;> rfl

theorem faithful_of_render {f : TimeFormatter} {host : Host}
    {cache cache' : TimeCache} {time : Int64} {value : Value}
    (hcache : Faithful f host cache)
    (h : cache.render f host time = .ok (value, cache')) :
    Faithful f host cache' := by
  unfold render at h
  cases hformat : f.format with
  | epoch =>
      rw [hformat] at h
      cases h
      exact hcache
  | _ =>
      rw [hformat] at h
      simp only at h
      cases hfind : cache.find? time with
      | some found =>
          rw [hfind] at h
          cases h
          exact hcache
      | none =>
          rw [hfind] at h
          cases hrender : f.render host time with
          | error overflow =>
              rw [hrender] at h
              cases h
          | ok rendered =>
              rw [hrender] at h
              cases h
              exact faithful_store hcache hrender

end TimeCache
end Reshape
