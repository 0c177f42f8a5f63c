import Reshape.Proofs.Except
import Reshape.Proofs.Time.Cache

/-!
# What a cache retains

Of the times that were rendered one after another, a cache holds the last, since
a miss is stored, and the greatest, since the older of two times gives way.  It
never holds a time twice.  All three are kept by a single rendering, and so by
any sequence of them.
-/

namespace Reshape
namespace TimeCache

def renderAll (f : TimeFormatter) (host : Host) :
    TimeCache -> List Int64 -> Except Time.Overflow (List Value × TimeCache)
  | cache, [] => .ok ([], cache)
  | cache, time :: rest =>
      (cache.render f host time).bind fun rendered =>
        (renderAll f host rendered.2 rest).map
          fun more => (rendered.1 :: more.1, more.2)

def Holds (cache : TimeCache) (time : Int64) : Prop :=
  exists value, (time, value) ∈ cache.slots

def times (cache : TimeCache) : List Int64 :=
  cache.slots.map Prod.fst

/-- What holds of a cache after some times were rendered, the last of them at
the end. -/
structure Retains (f : TimeFormatter) (host : Host) (rendered : List Int64)
    (cache : TimeCache) : Prop where
  faithful : cache.Faithful f host
  apart : cache.times.Nodup
  known : forall time, cache.Holds time -> time ∈ rendered
  latest : forall time, rendered.getLast? = some time -> cache.Holds time
  greatest : forall time, time ∈ rendered ->
    (forall other, other ∈ rendered -> other ≤ time) ->
    cache.Holds time

/-!
## Looking up
-/

theorem mem_times_iff {cache : TimeCache} {time : Int64} :
    time ∈ cache.times <-> cache.Holds time := by
  unfold times Holds
  rw [List.mem_map]
  constructor
  · intro h
    rcases h with ⟨⟨held, value⟩, hslot, rfl⟩
    exact ⟨value, hslot⟩
  · intro h
    rcases h with ⟨value, hslot⟩
    exact ⟨(time, value), hslot, rfl⟩

theorem holds_of_find? {cache : TimeCache} {time : Int64} {value : Value}
    (h : cache.find? time = some value) : cache.Holds time := by
  unfold find? at h
  rcases Option.map_eq_some_iff.mp h with ⟨⟨held, found⟩, hfound, _⟩
  have htime : held = time := by
    simpa using List.find?_some hfound
  subst htime
  exact ⟨found, List.mem_of_find?_eq_some hfound⟩

theorem not_holds_of_find? {cache : TimeCache} {time : Int64}
    (h : cache.find? time = none) : Not (cache.Holds time) := by
  intro hholds
  rcases hholds with ⟨value, hslot⟩
  unfold find? at h
  have hmissed :=
    List.find?_eq_none.mp (Option.map_eq_none_iff.mp h) (time, value) hslot
  simp at hmissed

/-!
## Storing
-/

theorem holds_store_self (cache : TimeCache) (time : Int64) (value : Value) :
    (cache.store (time, value)).Holds time := by
  rcases cache with ⟨first, second⟩
  refine ⟨value, ?_⟩
  cases first with
  | none => simp [store, slots]
  | some a =>
      cases second with
      | none => simp [store, slots]
      | some b =>
          by_cases hle : b.1 ≤ a.1 <;>
            simp [store, slots, hle]

/-- Of two times the older gives way, so the one that no other exceeds stays. -/
theorem holds_store_of_greatest {cache : TimeCache} (hapart : cache.times.Nodup)
    {time : Int64} (h : cache.Holds time)
    (hgreatest : forall other, cache.Holds other -> other ≤ time)
    (slot : Int64 × Value) : (cache.store slot).Holds time := by
  rcases h with ⟨value, hslot⟩
  refine ⟨value, ?_⟩
  rcases cache with ⟨first, second⟩
  cases first with
  | none =>
      cases second <;>
        simp_all [store, slots]
  | some a =>
      cases second with
      | none => simp_all [store, slots]
      | some b =>
          rcases a with ⟨a, u⟩
          rcases b with ⟨b, v⟩
          have ha : a ≤ time := hgreatest a ⟨u, List.mem_cons_self⟩
          have hb : b ≤ time :=
            hgreatest b ⟨v, List.mem_cons_of_mem _ List.mem_cons_self⟩
          have hne : a ≠ b := by
            simpa [times, slots] using hapart
          have hcases : (time, value) = (a, u) ∨ (time, value) = (b, v) := by
            simpa [slots] using hslot
          by_cases hle : b ≤ a
          · rcases hcases with hfirst | hsecond
            · simp [store, slots, hle, hfirst]
            · cases hsecond
              exact absurd (Int64.le_antisymm ha hle) hne
          · rcases hcases with hfirst | hsecond
            · cases hfirst
              exact absurd hb hle
            · simp [store, slots, hle, hsecond]

theorem nodup_times_store {cache : TimeCache} (hapart : cache.times.Nodup)
    {time : Int64} (hnew : Not (cache.Holds time)) (value : Value) :
    (cache.store (time, value)).times.Nodup := by
  have hfresh : time ∉ cache.times := fun hmem => hnew (mem_times_iff.mp hmem)
  rcases cache with ⟨first, second⟩
  unfold times at hapart hfresh ⊢
  cases first with
  | none =>
      cases second <;>
        simp_all [store, slots]
  | some a =>
      cases second with
      | none => simp_all [store, slots, eq_comm]
      | some b =>
          have hfirst : a.1 ≠ time := by
            intro heq
            simp [slots, heq] at hfresh
          have hsecond : time ≠ b.1 := by
            intro heq
            simp [slots, heq] at hfresh
          by_cases hle : b.1 ≤ a.1
          · simp [store, slots, hle, hfirst]
          · simp [store, slots, hle, hsecond]

/-!
## One rendering
-/

theorem retains_empty (f : TimeFormatter) (host : Host) :
    Retains f host [] empty where
  faithful := faithful_empty f host
  apart := List.nodup_nil
  known := by
    intro time h
    rcases h with ⟨value, hslot⟩
    cases hslot
  latest := nofun
  greatest := nofun

theorem retains_of_found {f : TimeFormatter} {host : Host}
    {rendered : List Int64} {cache : TimeCache}
    (h : Retains f host rendered cache) {time : Int64}
    (hfound : cache.Holds time) :
    Retains f host (rendered ++ [time]) cache where
  faithful := h.faithful
  apart := h.apart
  known := fun other hother =>
    List.mem_append_left [time] (h.known other hother)
  latest := by
    intro last hlast
    rw [List.getLast?_concat] at hlast
    cases hlast
    exact hfound
  greatest := by
    intro other hother hall
    rcases List.mem_append.mp hother with hold | hnew
    · exact h.greatest other hold fun earlier hearlier =>
        hall earlier (List.mem_append_left [time] hearlier)
    · rw [List.mem_singleton.mp hnew]
      exact hfound

theorem retains_store {f : TimeFormatter} {host : Host} {rendered : List Int64}
    {cache : TimeCache} (h : Retains f host rendered cache) {time : Int64}
    {value : Value} (hnew : Not (cache.Holds time))
    (hvalue : f.render host time = .ok value) :
    Retains f host (rendered ++ [time]) (cache.store (time, value)) where
  faithful := faithful_store h.faithful hvalue
  apart := nodup_times_store h.apart hnew value
  known := by
    intro other hother
    rcases hother with ⟨held, hslot⟩
    rcases mem_slots_store hslot with hsame | hold
    · cases hsame
      exact List.mem_append_right rendered (List.mem_singleton.mpr rfl)
    · exact List.mem_append_left [time] (h.known other ⟨held, hold⟩)
  latest := by
    intro last hlast
    rw [List.getLast?_concat] at hlast
    cases hlast
    exact holds_store_self cache time value
  greatest := by
    intro other hother hall
    rcases List.mem_append.mp hother with hold | hlast
    · -- The greatest so far was in a slot, and nothing in the slots exceeds it.
      have hheld : cache.Holds other :=
        h.greatest other hold fun earlier hearlier =>
        hall earlier (List.mem_append_left [time] hearlier)
      refine holds_store_of_greatest h.apart hheld ?_ (time, value)
      intro earlier hearlier
      exact hall earlier
        (List.mem_append_left [time] (h.known earlier hearlier))
    · rw [List.mem_singleton.mp hlast]
      exact holds_store_self cache time value

theorem retains_of_render {f : TimeFormatter} {host : Host}
    (hformat : f.format ≠ .epoch) {rendered : List Int64} {cache : TimeCache}
    (h : Retains f host rendered cache) {time : Int64}
    {result : Value × TimeCache}
    (hrender : cache.render f host time = .ok result) :
    Retains f host (rendered ++ [time]) result.2 := by
  unfold render at hrender
  split at hrender
  · rename_i hepoch
    exact absurd hepoch hformat
  · cases hfind : cache.find? time with
    | some value =>
        rw [hfind] at hrender
        cases hrender
        exact retains_of_found h (holds_of_find? hfind)
    | none =>
        rw [hfind] at hrender
        rcases except_map_eq_ok hrender with ⟨value, hvalue, rfl⟩
        exact retains_store h (not_holds_of_find? hfind) hvalue

/-!
## Any number of renderings
-/

theorem renderAll_of_faithful {f : TimeFormatter} {host : Host}
    {cache : TimeCache} (h : cache.Faithful f host) (times : List Int64) :
    (renderAll f host cache times).map Prod.fst =
      times.mapM (f.render host) := by
  induction times generalizing cache with
  | nil => rfl
  | cons time rest ih =>
      have hplain := render_of_faithful h time
      rw [renderAll]
      cases hrender : cache.render f host time with
      | error overflow =>
          rw [hrender] at hplain
          rw [mapM_cons_of_error hplain.symm]
          rfl
      | ok result =>
          rw [hrender] at hplain
          rw [mapM_cons_of_ok hplain.symm, ← ih (faithful_of_render h hrender),
            except_map_map]
          exact except_map_map _ _ _

theorem retains_of_renderAll {f : TimeFormatter} {host : Host}
    (hformat : f.format ≠ .epoch) {rendered : List Int64} {cache : TimeCache}
    (h : Retains f host rendered cache) {times : List Int64}
    {result : List Value × TimeCache}
    (hall : renderAll f host cache times = .ok result) :
    Retains f host (rendered ++ times) result.2 := by
  induction times generalizing rendered cache result with
  | nil =>
      cases hall
      rw [List.append_nil]
      exact h
  | cons time rest ih =>
      rcases except_bind_eq_ok hall with ⟨first, hfirst, hrest⟩
      rcases except_map_eq_ok hrest with ⟨more, hmore, rfl⟩
      have hnext := ih (retains_of_render hformat h hfirst) hmore
      rw [List.append_assoc] at hnext
      exact hnext

/-- Through a cache that begins empty, any times come to what they come to
without it, and as long as none of them overflows the cache retains the last and
the greatest. -/
theorem renderAll_empty (f : TimeFormatter) (host : Host) :
    (forall times,
      (renderAll f host empty times).map Prod.fst =
        times.mapM (f.render host)) ∧
      (f.format ≠ .epoch ->
        forall times result, renderAll f host empty times = .ok result ->
        Retains f host times result.2) := by
  constructor
  · exact renderAll_of_faithful (faithful_empty f host)
  · intro hformat times result hall
    exact retains_of_renderAll hformat (retains_empty f host) hall

theorem renderAll_empty_returning :
    (⟨.iso8601, true⟩ : TimeFormatter).format ≠ .epoch ∧
      exists result,
        renderAll ⟨.iso8601, true⟩ ⟨[], [], 5400⟩ empty [0, 60, 30, 0] =
          .ok result ∧
          result.1 =
            [.ofString "1970-01-01T01:30:00+01:30",
              .ofString "1970-01-01T01:31:00+01:30",
            .ofString "1970-01-01T01:30:30+01:30",
              .ofString "1970-01-01T01:30:00+01:30"] ∧
          Retains ⟨.iso8601, true⟩ ⟨[], [], 5400⟩ [0, 60, 30, 0] result.2 := by
  have hformat : (⟨.iso8601, true⟩ : TimeFormatter).format ≠ .epoch := nofun
  exact ⟨hformat, _, rfl, rfl,
    (renderAll_empty ⟨.iso8601, true⟩ ⟨[], [], 5400⟩).right hformat
      [0, 60, 30, 0] _ rfl⟩

end TimeCache
end Reshape
