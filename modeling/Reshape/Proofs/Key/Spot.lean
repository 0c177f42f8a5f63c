import Reshape.Key.Path
import Reshape.Proofs.Fields

/-!
# Spots

A spot is a place in a value: a container with one entry or item left open,
perhaps inside another such container.  A value put into the spot gives a whole
value again, and the spot can be left out.  What a path removes, and what is
left, is told by the spot that it leads to.
-/

namespace Reshape

/-!
## Containers with one place left open
-/

inductive Frame where
  | entry (before : Record) (name : String) (after : Record)
  | item (before after : List Value)

namespace Frame

def fill : Frame -> Value -> Value
  | .entry before name after, v => .map (before ++ (name, v) :: after)
  | .item before after, v => .array (before ++ v :: after)

def emptied : Frame -> Value
  | .entry before _ after => .map (before ++ after)
  | .item before after => .array (before ++ after)

/-- The accessor names the place.  A position tells how many items are before
it, or, below zero, how many there are from it to the end. -/
inductive At : Frame -> Accessor -> Prop
  | entry {before : Record} {name : String} (first : name ∉ Fields.keys before)
      (after : Record) : At (.entry before name after) (.key name)
  | item {n : Int64} {before after : List Value}
      (place : n.toInt = before.length ∨
        n.toInt = -((after.length : Int) + 1)) :
      At (.item before after) (.position n)

theorem offset?_eq_some_iff {n : Int64} {length i : Nat} :
    Accessor.offset? n length = some i <->
      i < length ∧ (n.toInt = i ∨ n.toInt = (i : Int) - length) := by
  unfold Accessor.offset?
  by_cases hsign : n.toInt < 0
  · simp only [if_pos hsign, Option.ite_none_right_eq_some, Option.some.injEq]
    lia
  · simp only [if_neg hsign, Option.ite_none_right_eq_some, Option.some.injEq]
    lia

theorem offset?_around_iff {n : Int64} {before after : List Value} (v : Value) :
    Accessor.offset? n (before ++ v :: after).length = some before.length <->
      n.toInt = before.length ∨ n.toInt = -((after.length : Int) + 1) := by
  rw [offset?_eq_some_iff, List.length_append, List.length_cons]
  lia

/-!
## Reading and writing the place
-/

section Place

variable {frame : Frame} {a : Accessor} (h : frame.At a)

include h

theorem accepts_fill (v : Value) : (frame.fill v).accepts a = true := by
  cases h <;> rfl

theorem child?_fill (v : Value) : (frame.fill v).child? a = some v := by
  cases h with
  | entry first after => exact Fields.get?_around first v after
  | item place =>
      rw [fill, Value.child?, (offset?_around_iff v).mpr place]
      simp

theorem takeChild?_fill (v : Value) :
    (frame.fill v).takeChild? a = some (v, frame.emptied) := by
  cases h with
  | entry first after =>
      rw [fill, Value.takeChild?, Fields.get?_around first,
        Fields.erase_around first]
      rfl
  | item place =>
      rw [fill, Value.takeChild?, (offset?_around_iff v).mpr place]
      simp [emptied, List.eraseIdx_append_of_length_le]

theorem setChild_fill (v other : Value) :
    (frame.fill v).setChild a other = frame.fill other := by
  cases h with
  | entry first after =>
      rw [fill, Value.setChild, Fields.insert_around first]
      rfl
  | item place =>
      simp only [fill, Value.setChild, (offset?_around_iff v).mpr place]
      simp

end Place

theorem exists_frame {v child : Value} {a : Accessor}
    (h : v.child? a = some child) :
    exists frame : Frame, frame.At a ∧ v = frame.fill child := by
  cases v with
  | map entries =>
      cases a with
      | key name =>
          rcases Fields.exists_around h with ⟨before, after, rfl, hfirst⟩
          exact ⟨.entry before name after, .entry hfirst after, rfl⟩
      | position n => cases h
  | array items =>
      cases a with
      | key name => cases h
      | position n =>
          rcases Option.bind_eq_some_iff.mp h with ⟨i, hoffset, hitem⟩
          rcases List.getElem?_eq_some_iff.mp hitem with ⟨hlt, rfl⟩
          have hitems :
              items = items.take i ++ items[i] :: items.drop (i + 1) := by
            rw [List.getElem_cons_drop, List.take_append_drop]
          refine ⟨.item (items.take i) (items.drop (i + 1)), .item ?_,
            congrArg Value.array hitems⟩
          rw [← offset?_around_iff items[i], ← hitems, hoffset,
            List.length_take_of_le (Nat.le_of_lt hlt)]
  | _ => cases h

theorem child?_of_takeChild? {v taken rest : Value} {a : Accessor}
    (h : v.takeChild? a = some (taken, rest)) : v.child? a = some taken := by
  unfold Value.takeChild? at h
  split at h
  · rcases Option.map_eq_some_iff.mp h with ⟨child, hchild, hresult⟩
    cases hresult
    exact hchild
  · rename_i items n
    rcases Option.bind_eq_some_iff.mp h with ⟨i, hoffset, hitem⟩
    rcases Option.bind_eq_some_iff.mp hitem with ⟨child, hchild, hresult⟩
    cases hresult
    rw [Value.child?, hoffset]
    exact hchild
  · cases h

theorem child?_eq_none_of_takeChild? {v : Value} {a : Accessor}
    (h : v.takeChild? a = none) : v.child? a = none := by
  cases hchild : v.child? a with
  | none => rfl
  | some child =>
      rcases exists_frame hchild with ⟨frame, names, rfl⟩
      rw [takeChild?_fill names] at h
      cases h

end Frame

/-!
## Containers in containers
-/

inductive Spot where
  | here (frame : Frame)
  | inside (frame : Frame) (spot : Spot)

namespace Spot

def fill : Spot -> Value -> Value
  | .here frame, v => frame.fill v
  | .inside frame spot, v => frame.fill (spot.fill v)

def emptied : Spot -> Value
  | .here frame => frame.emptied
  | .inside frame spot => frame.fill spot.emptied

inductive At : Spot -> List Accessor -> Prop
  | here {frame : Frame} {a : Accessor} (names : frame.At a) :
      At (.here frame) [a]
  | inside {frame : Frame} {a : Accessor} {spot : Spot} {path : List Accessor}
      (names : frame.At a) (leads : At spot path) :
      At (.inside frame spot) (a :: path)

theorem ne_nil_of_at {spot : Spot} {path : List Accessor} (h : spot.At path) :
    path ≠ [] := by
  cases h <;> nofun

end Spot

namespace Value

theorem take?_cons (a : Accessor) {path : List Accessor} (h : path ≠ [])
    (v : Value) :
    take? (a :: path) v =
      ((v.child? a).bind (take? path)).map
        fun taken => (taken.1, v.setChild a taken.2) := by
  cases path with
  | nil => exact absurd rfl h
  | cons b path =>
      show Option.bind (v.child? a) _ = _
      cases v.child? a with
      | none => rfl
      | some child =>
          show Option.bind (take? (b :: path) child) _ = _
          rw [Option.bind_some]
          cases take? (b :: path) child <;> rfl

theorem take?_fill {spot : Spot} {path : List Accessor} (h : spot.At path)
    (v : Value) : take? path (spot.fill v) = some (v, spot.emptied) := by
  induction h with
  | here names => exact Frame.takeChild?_fill names v
  | @inside frame a spot path names leads ih =>
      rw [Spot.fill, take?_cons a (Spot.ne_nil_of_at leads),
        Frame.child?_fill names, Option.bind_some, ih, Option.map_some,
        Frame.setChild_fill names]
      rfl

/-- Whatever a path takes stood in a spot that it leads to, and the rest is the
value without that spot. -/
theorem exists_spot {path : List Accessor} {v taken rest : Value}
    (h : take? path v = some (taken, rest)) :
    exists spot : Spot, spot.At path ∧ v = spot.fill taken ∧
      rest = spot.emptied := by
  induction path generalizing v rest with
  | nil => cases h
  | cons a path ih =>
      cases path with
      | nil =>
          have htake : v.takeChild? a = some (taken, rest) := h
          rcases Frame.exists_frame (Frame.child?_of_takeChild? htake) with
            ⟨frame, names, rfl⟩
          rw [Frame.takeChild?_fill names] at htake
          cases htake
          exact ⟨.here frame, .here names, rfl, rfl⟩
      | cons b path =>
          rw [take?_cons a (List.cons_ne_nil b path)] at h
          rcases Option.map_eq_some_iff.mp h with
            ⟨⟨below, left⟩, hbelow, hresult⟩
          cases hresult
          rcases Option.bind_eq_some_iff.mp hbelow with ⟨child, hchild, htake⟩
          rcases Frame.exists_frame hchild with ⟨frame, names, rfl⟩
          rcases ih htake with ⟨spot, leads, rfl, rfl⟩
          exact ⟨.inside frame spot, .inside names leads, rfl,
            Frame.setChild_fill names _ _⟩

end Value
end Reshape
