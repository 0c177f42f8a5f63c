import Mathlib.Data.List.Forall2

/-!
# Steps that may fail

A list of steps goes through when each of its steps does, and ends with the
first error otherwise.
-/

namespace Reshape

variable {ε α β γ : Type}

theorem except_map_map (x : Except ε α) (f : α -> β) (g : β -> γ) :
    (x.map f).map g = x.map (g ∘ f) := by
  cases x <;> rfl

theorem except_map_eq_ok {x : Except ε α} {f : α -> β} {b : β}
    (h : x.map f = .ok b) : exists a, x = .ok a ∧ f a = b := by
  cases x with
  | error e => cases h
  | ok a =>
      cases h
      exact ⟨a, rfl, rfl⟩

theorem except_map_eq_error_iff {x : Except ε α} {f : α -> β} {e : ε} :
    x.map f = .error e <-> x = .error e := by
  cases x with
  | error e' =>
      show Except.error e' = Except.error e <-> _
      rw [Except.error.injEq, Except.error.injEq]
  | ok a => constructor <;> nofun

theorem except_bind_eq_ok {x : Except ε α} {f : α -> Except ε β} {b : β}
    (h : x >>= f = .ok b) : exists a, x = .ok a ∧ f a = .ok b := by
  cases x with
  | error e => cases h
  | ok a => exact ⟨a, rfl, h⟩

theorem except_bind_eq_error {x : Except ε α} {f : α -> Except ε β} {e : ε}
    (h : x >>= f = .error e) :
    x = .error e ∨ exists a, x = .ok a ∧ f a = .error e := by
  cases x with
  | error e' =>
      cases h
      exact .inl rfl
  | ok a => exact .inr ⟨a, rfl, h⟩

theorem except_bind_pure_eq_error {x : Except ε α} {f : α -> β} {e : ε}
    (h : (x >>= fun a => pure (f a)) = .error e) : x = .error e := by
  rcases except_bind_eq_error h with herror | ⟨a, _, hpure⟩
  · exact herror
  · cases hpure

theorem except_mapError_eq_error {δ : Type} {x : Except ε α} {f : ε -> δ}
    {d : δ} (h : x.mapError f = .error d) :
    exists e, x = .error e ∧ f e = d := by
  cases x with
  | error e =>
      cases h
      exact ⟨e, rfl, rfl⟩
  | ok a => cases h

theorem except_mapError_eq_ok {δ : Type} {x : Except ε α} {f : ε -> δ} {a : α}
    (h : x.mapError f = .ok a) : x = .ok a := by
  cases x with
  | error e => cases h
  | ok b =>
      cases h
      rfl

theorem exists_map_eq_ok_iff (x : Except ε α) (f : α -> β) :
    (exists b, x.map f = .ok b) <-> Not (exists e, x = .error e) := by
  cases x with
  | error e =>
      apply iff_of_false
      · intro h
        rcases h with ⟨b, hb⟩
        cases hb
      · intro h
        exact h ⟨e, rfl⟩
  | ok a =>
      apply iff_of_true
      · exact ⟨f a, rfl⟩
      · intro h
        rcases h with ⟨e, he⟩
        cases he

/-!
## Lists of steps
-/

theorem mapM_cons_of_ok {f : α -> Except ε β} {a : α} {b : β} (h : f a = .ok b)
    (rest : List α) : (a :: rest).mapM f = (rest.mapM f).map (b :: ·) := by
  rw [List.mapM_cons, h]
  show Except.bind (Except.ok b) _ = _
  cases rest.mapM f <;> rfl

theorem mapM_cons_of_error {f : α -> Except ε β} {a : α} {e : ε}
    (h : f a = .error e) (rest : List α) : (a :: rest).mapM f = .error e := by
  rw [List.mapM_cons, h]
  rfl

theorem mapM_cons_eq_ok {f : α -> Except ε β} {a : α} {rest : List α}
    {out : List β} (h : (a :: rest).mapM f = .ok out) :
    exists b more, f a = .ok b ∧ rest.mapM f = .ok more ∧ out = b :: more := by
  cases ha : f a with
  | error e =>
      rw [mapM_cons_of_error ha] at h
      cases h
  | ok b =>
      rw [mapM_cons_of_ok ha] at h
      rcases except_map_eq_ok h with ⟨more, hmore, hout⟩
      exact ⟨b, more, rfl, hmore, hout.symm⟩

theorem mapM_eq_ok_iff {f : α -> Except ε β} {items : List α} {out : List β} :
    items.mapM f = .ok out <->
      List.Forall₂ (fun a b => f a = .ok b) items out := by
  constructor
  · intro h
    induction items generalizing out with
    | nil =>
        cases h
        exact .nil
    | cons a rest ih =>
        rcases mapM_cons_eq_ok h with ⟨b, more, hb, hmore, rfl⟩
        exact .cons hb (ih hmore)
  · intro h
    induction h with
    | nil => rfl
    | cons hb _ ih =>
        rw [mapM_cons_of_ok hb, ih]
        rfl

theorem mapM_congr {f g : α -> Except ε β} {items : List α}
    (h : forall a, a ∈ items -> f a = g a) : items.mapM f = items.mapM g := by
  induction items with
  | nil => rfl
  | cons a rest ih =>
      rw [List.mapM_cons, List.mapM_cons, h a List.mem_cons_self,
        ih fun later hlater => h later (List.mem_cons_of_mem a hlater)]

theorem exists_of_mem_mapM {f : α -> Except ε β} {items : List α} {out : List β}
    (h : items.mapM f = .ok out) {b : β} (hb : b ∈ out) :
    exists a, a ∈ items ∧ f a = .ok b := by
  induction items generalizing out with
  | nil =>
      cases h
      cases hb
  | cons a rest ih =>
      rcases mapM_cons_eq_ok h with ⟨first, more, hfirst, hmore, rfl⟩
      rcases List.mem_cons.mp hb with rfl | hlater
      · exact ⟨a, List.mem_cons_self, hfirst⟩
      · rcases ih hmore hlater with ⟨a', hmem, ha'⟩
        exact ⟨a', List.mem_cons_of_mem a hmem, ha'⟩

theorem exists_of_mapM_eq_ok {f : α -> Except ε β} {items : List α}
    {out : List β} (h : items.mapM f = .ok out) {a : α} (ha : a ∈ items) :
    exists b, f a = .ok b := by
  induction items generalizing out with
  | nil => cases ha
  | cons first rest ih =>
      rcases mapM_cons_eq_ok h with ⟨b, more, hb, hmore, rfl⟩
      rcases List.mem_cons.mp ha with rfl | hlater
      · exact ⟨b, hb⟩
      · exact ih hmore hlater

/-- The error of a list of steps is that of the first one to fail. -/
theorem mapM_eq_error_iff {f : α -> Except ε β} {items : List α} {e : ε} :
    items.mapM f = .error e <->
      exists before a after, items = before ++ a :: after ∧
        (forall b, b ∈ before -> exists c, f b = .ok c) ∧ f a = .error e := by
  constructor
  · intro h
    induction items with
    | nil => cases h
    | cons a rest ih =>
        cases ha : f a with
        | error e' =>
            rw [mapM_cons_of_error ha] at h
            cases h
            exact ⟨[], a, rest, rfl, nofun, ha⟩
        | ok c =>
            rw [mapM_cons_of_ok ha] at h
            cases hrest : rest.mapM f with
            | ok more =>
                rw [hrest] at h
                cases h
            | error e' =>
                rw [hrest] at h
                cases h
                rcases ih hrest with ⟨before, stop, after, rfl, hbefore, hstop⟩
                refine ⟨a :: before, stop, after, rfl, ?_, hstop⟩
                intro b hb
                rcases List.mem_cons.mp hb with rfl | hlater
                · exact ⟨c, ha⟩
                · exact hbefore b hlater
  · rintro ⟨before, a, after, rfl, hbefore, ha⟩
    induction before with
    | nil => exact mapM_cons_of_error ha after
    | cons b before ih =>
        rcases hbefore b List.mem_cons_self with ⟨c, hc⟩
        rw [List.cons_append, mapM_cons_of_ok hc,
          ih fun b' hb' => hbefore b' (List.mem_cons_of_mem b hb')]
        rfl

theorem exists_of_mapM_eq_error {f : α -> Except ε β} {items : List α} {e : ε}
    (h : items.mapM f = .error e) : exists a, a ∈ items ∧ f a = .error e := by
  rcases mapM_eq_error_iff.mp h with ⟨before, a, after, rfl, _, ha⟩
  exact ⟨a, List.mem_append_right before List.mem_cons_self, ha⟩

theorem exists_mapM_eq_error_iff {f : α -> Except ε β} {items : List α} :
    (exists e, items.mapM f = .error e) <->
      exists a, a ∈ items ∧ exists e, f a = .error e := by
  constructor
  · intro h
    rcases h with ⟨e, he⟩
    rcases exists_of_mapM_eq_error he with ⟨a, ha, hstop⟩
    exact ⟨a, ha, e, hstop⟩
  · intro h
    rcases h with ⟨a, ha, e, hstop⟩
    cases hall : items.mapM f with
    | error e' => exact ⟨e', rfl⟩
    | ok out =>
        rcases exists_of_mapM_eq_ok hall ha with ⟨b, hb⟩
        rw [hstop] at hb
        cases hb

end Reshape
