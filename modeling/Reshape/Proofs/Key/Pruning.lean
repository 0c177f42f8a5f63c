import Reshape.Key.Policy
import Reshape.Proofs.Key.Removal
import Reshape.Proofs.Value.Keyed

/-!
# Pruning

Removing the fields that some paths address, one path after another, comes to a
single pass over the record that leaves out every entry that a path leads to.
The paths end in a key, so no array loses an item, and a position names the same
item all the way.  The pass looks at the paths as a set: their order and
duplicates do not count, and a second pass finds nothing to leave out.
-/

namespace Reshape

/-!
## The paths below a place
-/

namespace Accessor

def namesEntry (name : String) (a : Accessor) : Bool :=
  a = .key name

def namesItem (length i : Nat) : Accessor -> Bool
  | .key _ => false
  | .position n => offset? n length = some i

def EndsInKey (path : List Accessor) : Prop :=
  exists name, path.getLast? = some (.key name)

theorem endsInKey_of_cons {a : Accessor} {path : List Accessor}
    (hpath : path ≠ []) (h : EndsInKey (a :: path)) : EndsInKey path := by
  rcases h with ⟨name, hlast⟩
  rw [List.getLast?_cons_of_ne_nil hpath] at hlast
  exact ⟨name, hlast⟩

/-- How the paths that lead through a place go on from there. -/
def below (names : Accessor -> Bool) (paths : List (List Accessor)) :
    List (List Accessor) :=
  paths.filterMap fun path =>
    match path with
    | [] => none
    | a :: rest => if names a then some rest else none

theorem mem_below_iff {names : Accessor -> Bool} {paths : List (List Accessor)}
    {rest : List Accessor} :
    rest ∈ below names paths <->
      exists a, names a = true ∧ a :: rest ∈ paths := by
  unfold below
  rw [List.mem_filterMap]
  constructor
  · intro h
    rcases h with ⟨path, hpath, hrest⟩
    cases path with
    | nil => cases hrest
    | cons a path =>
        simp only [Option.ite_none_right_eq_some, Option.some.injEq] at hrest
        rcases hrest with ⟨hnames, rfl⟩
        exact ⟨a, hnames, hpath⟩
  · intro h
    rcases h with ⟨a, hnames, hpath⟩
    exact ⟨a :: rest, hpath, if_pos hnames⟩

theorem below_append (names : Accessor -> Bool) (xs ys : List (List Accessor)) :
    below names (xs ++ ys) = below names xs ++ below names ys :=
  List.filterMap_append

theorem below_singleton_of_names {names : Accessor -> Bool} {a : Accessor}
    (h : names a = true) (path : List Accessor) :
    below names [a :: path] = [path] := by
  simp [below, h]

theorem below_singleton_of_not_names {names : Accessor -> Bool} {a : Accessor}
    (h : names a = false) (path : List Accessor) :
    below names [a :: path] = [] := by
  simp [below, h]

end Accessor

namespace Value

open Accessor

/-!
## One pass
-/

mutual

def prune (paths : List (List Accessor)) : Value -> Value
  | .array items => .array (pruneItems paths items.length 0 items)
  | .map entries => .map (pruneEntries paths entries)
  | v => v

def pruneItems (paths : List (List Accessor)) (length : Nat) :
    Nat -> List Value -> List Value
  | _, [] => []
  | i, item :: rest =>
      prune (below (namesItem length i) paths) item ::
        pruneItems paths length (i + 1) rest

def pruneEntries (paths : List (List Accessor)) :
    List (String × Value) -> List (String × Value)
  | [] => []
  | (name, v) :: rest =>
      if [] ∈ below (namesEntry name) paths then pruneEntries paths rest
      else
        (name, prune (below (namesEntry name) paths) v) ::
          pruneEntries paths rest

end

example :
    prune [[.key "a", .key "b"], [.key "c", .position (-1), .key "d"]]
        (.map
          [("a", .map [("b", .null), ("c", .null)]),
            ("c", .array [.map [("d", .null)]])]) =
      .map [("a", .map [("c", .null)]), ("c", .array [.map []])] := by
  rfl

/-!
## What a pass leaves
-/

theorem getElem?_pruneItems (paths : List (List Accessor)) (length start : Nat)
    (items : List Value) (i : Nat) :
    (pruneItems paths length start items)[i]? =
      items[i]?.map (prune (below (namesItem length (start + i)) paths)) := by
  induction items generalizing start i with
  | nil => rfl
  | cons item rest ih =>
      rw [pruneItems]
      cases i with
      | zero => rfl
      | succ i =>
          rw [List.getElem?_cons_succ, List.getElem?_cons_succ,
            ih (start + 1) i, Nat.add_assoc, Nat.add_comm 1 i]

theorem length_pruneItems (paths : List (List Accessor)) (length start : Nat)
    (items : List Value) :
    (pruneItems paths length start items).length = items.length := by
  induction items generalizing start with
  | nil => rfl
  | cons item rest ih => rw [pruneItems, List.length_cons, List.length_cons, ih]

theorem pruneEntries_eq (paths : List (List Accessor)) (entries : Record) :
    pruneEntries paths entries =
      (entries.filter fun entry => [] ∉ below (namesEntry entry.1) paths).map
        fun entry =>
        (entry.1, prune (below (namesEntry entry.1) paths) entry.2) := by
  induction entries with
  | nil => rfl
  | cons entry rest ih =>
      rcases entry with ⟨name, v⟩
      rw [pruneEntries, ih]
      by_cases hgoes : [] ∈ below (namesEntry name) paths
      · rw [if_pos hgoes, List.filter_cons_of_neg (by simpa using hgoes)]
      · rw [if_neg hgoes, List.filter_cons_of_pos (by simpa using hgoes),
          List.map_cons]

theorem mem_pruneEntries_iff {paths : List (List Accessor)} {entries : Record}
    {name : String} {v : Value} :
    (name, v) ∈ pruneEntries paths entries <->
      [] ∉ below (namesEntry name) paths ∧
        exists whole, (name, whole) ∈ entries ∧
          prune (below (namesEntry name) paths) whole = v := by
  rw [pruneEntries_eq, List.mem_map]
  constructor
  · intro h
    rcases h with ⟨⟨name', whole⟩, hmem, heq⟩
    cases heq
    rcases List.mem_filter.mp hmem with ⟨hentry, hstays⟩
    exact ⟨of_decide_eq_true hstays, whole, hentry, rfl⟩
  · intro h
    rcases h with ⟨hstays, whole, hentry, rfl⟩
    exact ⟨(name, whole), List.mem_filter.mpr ⟨hentry, decide_eq_true hstays⟩,
      rfl⟩

theorem keys_pruneEntries_sublist (paths : List (List Accessor))
    (entries : Record) :
    (Fields.keys (pruneEntries paths entries)).Sublist
      (Fields.keys entries) := by
  have hkeys : Fields.keys (pruneEntries paths entries) =
      Fields.keys
        (entries.filter
          fun entry => [] ∉ below (namesEntry entry.1) paths) := by
    rw [pruneEntries_eq]
    unfold Fields.keys
    rw [List.map_map]
    rfl
  rw [hkeys]
  exact List.filter_sublist.map Prod.fst

theorem keyed_prune {v : Value} (h : Keyed v) (paths : List (List Accessor)) :
    Keyed (prune paths v) := by
  induction h generalizing paths with
  | @array items each ih =>
      rw [prune]
      refine .array ?_
      intro item hitem
      rcases List.getElem?_of_mem hitem with ⟨i, hi⟩
      rw [getElem?_pruneItems] at hi
      rcases Option.map_eq_some_iff.mp hi with ⟨whole, hwhole, rfl⟩
      exact ih whole (List.mem_of_getElem? hwhole) _
  | @map entries distinct each ih =>
      rw [prune]
      refine .map (distinct.sublist (keys_pruneEntries_sublist paths entries))
        ?_
      intro entry hentry
      rcases mem_pruneEntries_iff.mp hentry with ⟨_, whole, hwhole, hpruned⟩
      rw [← hpruned]
      exact ih (entry.1, whole) hwhole _
  | null => exact .null
  | bool b => exact .bool b
  | int n => exact .int n
  | uint n => exact .uint n
  | float x => exact .float x
  | text t => exact .text t

/-- The same but for entries that are left out: of every map some entries stay,
in their order, and nothing else is different. -/
inductive Thinned : Value -> Value -> Prop
  | whole (v : Value) : Thinned v v
  | array {items others : List Value} (length : items.length = others.length)
      (each :
        forall i (h : i < items.length)
          (h' : i < others.length), Thinned items[i] others[i]) :
      Thinned (.array items) (.array others)
  | map {entries staying others : Record} (some : staying.Sublist entries)
      (keys : Fields.keys staying = Fields.keys others)
      (each : forall i (h : i < staying.length) (h' : i < others.length),
        Thinned staying[i].2 others[i].2) :
      Thinned (.map entries) (.map others)

theorem thinned_prune (paths : List (List Accessor)) (v : Value) :
    Thinned v (prune paths v) := by
  induction v using induction_on_parts generalizing paths with
  | array items ih =>
      rw [prune]
      refine .array (length_pruneItems paths items.length 0 items).symm ?_
      intro i hi hi'
      have hitem := getElem?_pruneItems paths items.length 0 items i
      rw [List.getElem?_eq_getElem hi, List.getElem?_eq_getElem hi',
        Option.map_some, Option.some.injEq] at hitem
      rw [hitem]
      exact ih items[i] (List.getElem_mem hi) _
  | map entries ih =>
      rw [prune, pruneEntries_eq]
      have hstaying : (entries.filter
          fun entry => [] ∉ below (namesEntry entry.1) paths).Sublist
          entries := List.filter_sublist
      refine .map hstaying ?_ ?_
      · unfold Fields.keys
        rw [List.map_map]
        rfl
      · intro i hi _
        rw [List.getElem_map]
        exact ih _ (List.mem_filter.mp (List.getElem_mem hi)).left _
  | _ => exact .whole _

/-!
## Passes one after another
-/

theorem pruneItems_eq_self {paths : List (List Accessor)} {length start : Nat}
    {items : List Value}
    (hnone :
      forall i, i < items.length ->
        below (namesItem length (start + i)) paths = [])
    (h : forall item, item ∈ items -> prune [] item = item) :
    pruneItems paths length start items = items := by
  apply List.ext_getElem?
  intro i
  rw [getElem?_pruneItems]
  cases hitem : items[i]? with
  | none => rfl
  | some item =>
      rw [hnone i (List.getElem?_eq_some_iff.mp hitem).1, Option.map_some,
        h item (List.mem_of_getElem? hitem)]

theorem pruneEntries_eq_self {paths : List (List Accessor)} {entries : Record}
    (hnone :
      forall entry, entry ∈ entries -> below (namesEntry entry.1) paths = [])
    (h : forall entry, entry ∈ entries -> prune [] entry.2 = entry.2) :
    pruneEntries paths entries = entries := by
  induction entries with
  | nil => rfl
  | cons entry rest ih =>
      have hstays : [] ∉ below (namesEntry entry.1) paths := by
        rw [hnone entry List.mem_cons_self]
        exact List.not_mem_nil
      rw [pruneEntries, if_neg hstays, hnone entry List.mem_cons_self,
        h entry List.mem_cons_self,
        ih (fun later hlater => hnone later (List.mem_cons_of_mem entry hlater))
          fun later hlater => h later (List.mem_cons_of_mem entry hlater)]

theorem prune_nil (v : Value) : prune [] v = v := by
  induction v using induction_on_parts with
  | array items ih =>
      exact congrArg Value.array (pruneItems_eq_self (fun _ _ => rfl) ih)
  | map entries ih =>
      exact congrArg Value.map (pruneEntries_eq_self (fun _ _ => rfl) ih)
  | _ => rfl

theorem pruneItems_pruneItems {items : List Value}
    (h :
      forall item, item ∈ items ->
        forall xs ys, prune ys (prune xs item) = prune (xs ++ ys) item)
    (xs ys : List (List Accessor)) (length i : Nat) :
    pruneItems ys length i (pruneItems xs length i items) =
      pruneItems (xs ++ ys) length i items := by
  induction items generalizing i with
  | nil => rfl
  | cons item rest ih =>
      rw [pruneItems, pruneItems, pruneItems, below_append,
        h item List.mem_cons_self,
        ih fun later hlater => h later (List.mem_cons_of_mem item hlater)]

theorem pruneEntries_pruneEntries {entries : Record}
    (h :
      forall entry, entry ∈ entries ->
        forall xs ys, prune ys (prune xs entry.2) = prune (xs ++ ys) entry.2)
    (xs ys : List (List Accessor)) :
    pruneEntries ys (pruneEntries xs entries) =
      pruneEntries (xs ++ ys) entries := by
  induction entries with
  | nil => rfl
  | cons entry rest ih =>
      rcases entry with ⟨name, v⟩
      have hrest :=
        ih fun later hlater => h later (List.mem_cons_of_mem _ hlater)
      have hvalue := h (name, v) List.mem_cons_self (below (namesEntry name) xs)
        (below (namesEntry name) ys)
      rw [pruneEntries, pruneEntries, below_append]
      by_cases hx : [] ∈ below (namesEntry name) xs
      · rw [if_pos hx, if_pos (List.mem_append_left _ hx), hrest]
      · rw [if_neg hx, pruneEntries, hrest, hvalue]
        by_cases hy : [] ∈ below (namesEntry name) ys
        · rw [if_pos hy, if_pos (List.mem_append_right _ hy)]
        · have hneither : [] ∉
              below (namesEntry name) xs ++ below (namesEntry name) ys := by
            rw [List.mem_append, not_or]
            exact ⟨hx, hy⟩
          rw [if_neg hy, if_neg hneither]

/-- No pass moves an item to another position, so the second means the places
that it names. -/
theorem prune_prune (xs ys : List (List Accessor)) (v : Value) :
    prune ys (prune xs v) = prune (xs ++ ys) v := by
  induction v using induction_on_parts generalizing xs ys with
  | array items ih =>
      rw [prune, prune, prune, length_pruneItems,
        pruneItems_pruneItems (fun item hitem xs ys => ih item hitem xs ys)]
  | map entries ih =>
      rw [prune, prune, prune,
        pruneEntries_pruneEntries
          (fun entry hentry xs ys => ih entry hentry xs ys)]
  | _ => rfl

theorem prune_congr {xs ys : List (List Accessor)}
    (h : forall path, path ∈ xs <-> path ∈ ys) (v : Value) :
    prune xs v = prune ys v := by
  have hbelow :
      forall {xs ys : List (List Accessor)},
          (forall path, path ∈ xs <-> path ∈ ys) ->
        forall names rest, rest ∈ below names xs <-> rest ∈ below names ys := by
    intro xs ys h names rest
    rw [mem_below_iff, mem_below_iff]
    simp only [h]
  induction v using induction_on_parts generalizing xs ys with
  | array items ih =>
      rw [prune, prune]
      refine congrArg Value.array (List.ext_getElem? fun i => ?_)
      rw [getElem?_pruneItems, getElem?_pruneItems]
      cases hitem : items[i]? with
      | none => rfl
      | some item =>
          exact congrArg
            some (ih item (List.mem_of_getElem? hitem) (hbelow h _))
  | map entries ih =>
      rw [prune, prune, pruneEntries_eq, pruneEntries_eq]
      simp only [hbelow h]
      refine congrArg Value.map (List.map_congr_left ?_)
      intro entry hentry
      exact congrArg (Prod.mk entry.1)
        (ih entry (List.mem_filter.mp hentry).left
          (hbelow h (namesEntry entry.1)))
  | _ => rfl

/-!
## A single path
-/

theorem pruneItems_append (paths : List (List Accessor)) (length start : Nat)
    (xs ys : List Value) :
    pruneItems paths length start (xs ++ ys) =
      pruneItems paths length start xs ++
        pruneItems paths length (start + xs.length) ys := by
  induction xs generalizing start with
  | nil => rfl
  | cons item rest ih =>
      rw [List.cons_append, pruneItems, pruneItems, ih (start + 1),
        List.length_cons, Nat.add_assoc, Nat.add_comm 1 rest.length,
        List.cons_append]

theorem pruneEntries_append (paths : List (List Accessor)) (xs ys : Record) :
    pruneEntries paths (xs ++ ys) =
      pruneEntries paths xs ++ pruneEntries paths ys := by
  rw [pruneEntries_eq, pruneEntries_eq, pruneEntries_eq, List.filter_append,
    List.map_append]

theorem below_entry_of_ne {name other : String} (h : other ≠ name)
    (path : List Accessor) :
    below (namesEntry other) [.key name :: path] = [] := by
  apply below_singleton_of_not_names
  simpa [namesEntry] using Ne.symm h

theorem pruneEntries_of_not_mem {name : String} {entries : Record}
    (h : name ∉ Fields.keys entries) (path : List Accessor) :
    pruneEntries [.key name :: path] entries = entries := by
  refine pruneEntries_eq_self ?_ fun entry _ => prune_nil entry.2
  intro entry hentry
  refine below_entry_of_ne ?_ path
  intro heq
  rw [← heq] at h
  exact h (List.mem_map_of_mem hentry)

theorem pruneEntries_around {before after : Record} {name : String} {v : Value}
    (hdistinct : Fields.Distinct (before ++ (name, v) :: after))
    (path : List Accessor) :
    pruneEntries [.key name :: path] (before ++ (name, v) :: after) =
      before ++ pruneEntries [.key name :: path] [(name, v)] ++ after := by
  unfold Fields.Distinct Fields.keys at hdistinct
  rw [List.map_append, List.map_cons, List.nodup_append,
    List.nodup_cons] at hdistinct
  rcases hdistinct with ⟨_, ⟨hafter, _⟩, hcross⟩
  have hbefore : name ∉ Fields.keys before := by
    intro hmem
    exact hcross name hmem name List.mem_cons_self rfl
  have hsplit : (name, v) :: after = [(name, v)] ++ after := rfl
  rw [hsplit, pruneEntries_append, pruneEntries_append,
    pruneEntries_of_not_mem hbefore, pruneEntries_of_not_mem hafter,
    List.append_assoc]

theorem prune_fill {frame : Frame} {a : Accessor} (names : frame.At a)
    {path : List Accessor} (hpath : path ≠ []) {v : Value}
    (h : Keyed (frame.fill v)) :
    prune [a :: path] (frame.fill v) = frame.fill (prune [path] v) := by
  cases names with
  | @entry before name first after =>
      have hpassed : below (namesEntry name) [.key name :: path] = [path] :=
        below_singleton_of_names (decide_eq_true rfl) path
      have hstays : [] ∉ [path] :=
        fun hmem => hpath (List.mem_singleton.mp hmem).symm
      rw [Frame.fill, prune, pruneEntries_around (keyed_map_iff.mp h).left,
        pruneEntries, hpassed, if_neg hstays, pruneEntries, List.append_assoc]
      rfl
  | @item n before after place =>
      have hoffset := (Frame.offset?_around_iff v).mpr place
      have hother : forall i, i ≠ before.length ->
          below (namesItem (before ++ v :: after).length i)
            [.position n :: path] = [] := by
        intro i hi
        apply below_singleton_of_not_names
        rw [namesItem, hoffset]
        simpa using Ne.symm hi
      have hpassed :
          below (namesItem (before ++ v :: after).length before.length)
              [.position n :: path] =
            [path] :=
        below_singleton_of_names (decide_eq_true hoffset) path
      rw [Frame.fill, prune, pruneItems_append, pruneItems, Nat.zero_add,
        hpassed, pruneItems_eq_self ?_ fun item _ => prune_nil item,
        pruneItems_eq_self ?_ fun item _ => prune_nil item]
      · rfl
      · intro i hi
        exact hother _ (by lia)
      · intro i hi
        exact hother _ (by lia)

theorem prune_fill_key {before after : Record} {name : String} {v : Value}
    (h : Keyed (.map (before ++ (name, v) :: after))) :
    prune [[.key name]] (.map (before ++ (name, v) :: after)) =
      .map (before ++ after) := by
  have hgoes : [] ∈ below (namesEntry name) [[.key name]] := by
    rw [below_singleton_of_names (decide_eq_true rfl)]
    exact List.mem_singleton.mpr rfl
  rw [prune, pruneEntries_around (keyed_map_iff.mp h).left, pruneEntries,
    if_pos hgoes, pruneEntries, List.append_nil]

theorem keyed_of_fill {frame : Frame} {v : Value} (h : Keyed (frame.fill v)) :
    Keyed v := by
  cases frame with
  | entry before name after =>
      exact (keyed_map_iff.mp h).right _
        (List.mem_append_right before List.mem_cons_self)
  | item before after =>
      exact keyed_array_iff.mp h v
        (List.mem_append_right before List.mem_cons_self)

theorem prune_of_at {spot : Spot} {path : List Accessor} (leads : spot.At path)
    (ends : EndsInKey path) {v : Value} (h : Keyed (spot.fill v)) :
    prune [path] (spot.fill v) = spot.emptied := by
  induction leads with
  | @here frame a names =>
      rcases ends with ⟨name, hlast⟩
      cases hlast
      cases names with
      | entry first after => exact prune_fill_key h
  | @inside frame a spot path names leads ih =>
      have hpath := Spot.ne_nil_of_at leads
      rw [Spot.fill, prune_fill names hpath h,
        ih (endsInKey_of_cons hpath ends) (keyed_of_fill h)]
      rfl

theorem prune_of_child?_eq_none {v : Value} {a : Accessor}
    (h : v.child? a = none) (path : List Accessor) :
    prune [a :: path] v = v := by
  cases v with
  | map entries =>
      refine congrArg Value.map ?_
      cases a with
      | key name =>
          refine pruneEntries_of_not_mem ?_ path
          exact Fields.not_mem_of_get?_eq_none h
      | position n =>
          exact pruneEntries_eq_self (fun _ _ => rfl)
            fun entry _ => prune_nil entry.2
  | array items =>
      refine congrArg Value.array
        (pruneItems_eq_self ?_ fun item _ => prune_nil item)
      intro i hi
      apply below_singleton_of_not_names
      cases a with
      | key name => rfl
      | position n =>
          rw [namesItem, Nat.zero_add, decide_eq_false_iff_not]
          intro hoffset
          rw [child?, hoffset, Option.bind_some, List.getElem?_eq_none_iff] at h
          lia
  | _ => rfl

theorem prune_of_take?_eq_none {path : List Accessor} {v : Value}
    (hpath : path ≠ []) (hnone : take? path v = none) (h : Keyed v) :
    prune [path] v = v := by
  induction path generalizing v with
  | nil => exact absurd rfl hpath
  | cons a path ih =>
      cases hchild : v.child? a with
      | none => exact prune_of_child?_eq_none hchild path
      | some child =>
          cases path with
          | nil =>
              rw [Frame.child?_eq_none_of_takeChild? hnone] at hchild
              cases hchild
          | cons b path =>
              rw [take?_cons a (List.cons_ne_nil b path), hchild,
                Option.bind_some, Option.map_eq_none_iff] at hnone
              rcases Frame.exists_frame hchild with ⟨frame, names, rfl⟩
              rw [prune_fill names (List.cons_ne_nil b path) h,
                ih (List.cons_ne_nil b path) hnone (keyed_of_fill h)]

theorem exists_part_of_prune {frame : Frame} {a : Accessor} (names : frame.At a)
    {paths : List (List Accessor)} {whole left : Value}
    (h : prune paths whole = frame.fill left) :
    exists passed part, prune passed part = left ∧
      (forall rest, a :: rest ∈ paths -> rest ∈ passed) ∧
        (forall name, a = .key name -> [] ∉ passed) := by
  cases names with
  | @entry before name first after =>
      cases whole with
      | map entries =>
          injection h with hentries
          have hentry : (name, left) ∈ pruneEntries paths entries := by
            rw [hentries]
            exact List.mem_append_right before List.mem_cons_self
          rcases mem_pruneEntries_iff.mp hentry with ⟨hstays, part, _, hpart⟩
          refine ⟨_, part, hpart, ?_, fun _ _ => hstays⟩
          intro rest hmem
          exact mem_below_iff.mpr ⟨.key name, decide_eq_true rfl, hmem⟩
      | _ => cases h
  | @item n before after place =>
      cases whole with
      | array items =>
          injection h with hitems
          have hlength : items.length = (before ++ left :: after).length := by
            rw [← hitems, length_pruneItems]
          have hoffset := (Frame.offset?_around_iff left).mpr place
          rw [← hlength] at hoffset
          have hitem : (pruneItems paths items.length 0 items)[before.length]? =
              some left := by
            rw [hitems, List.getElem?_append_right (Nat.le_refl _),
              Nat.sub_self]
            rfl
          rw [getElem?_pruneItems, Nat.zero_add] at hitem
          rcases Option.map_eq_some_iff.mp hitem with ⟨part, _, hpart⟩
          refine ⟨_, part, hpart, ?_, nofun⟩
          intro rest hmem
          exact mem_below_iff.mpr ⟨.position n, decide_eq_true hoffset, hmem⟩
      | _ => cases h

/-- Where a path leads, a pass over it leaves nothing. -/
theorem prune_ne_fill {path : List Accessor} {spot : Spot}
    (leads : spot.At path) (ends : EndsInKey path)
    {paths : List (List Accessor)} (hmem : path ∈ paths) (whole left : Value) :
    prune paths whole ≠ spot.fill left := by
  induction leads generalizing paths whole with
  | here names =>
      intro h
      rcases exists_part_of_prune names h with
        ⟨passed, part, _, hpassed, hstays⟩
      rcases ends with ⟨name, hlast⟩
      cases hlast
      exact hstays name rfl (hpassed [] hmem)
  | inside names leads ih =>
      intro h
      rcases exists_part_of_prune names h with ⟨passed, part, hpart, hpassed, _⟩
      exact ih (endsInKey_of_cons (Spot.ne_nil_of_at leads) ends)
        (hpassed _ hmem) part hpart

end Value

/-!
## Records
-/

namespace KeyPath

open Accessor Value

def Clear (paths : List KeyPath) (record : Record) : Prop :=
  forall path, path ∈ paths -> forall spot v, Not (path.Finds record spot v)

theorem removeFrom_eq_prune {path : KeyPath} (ends : EndsInKey path.accessors)
    {record : Record} (h : Keyed (.map record)) :
    .map (path.removeFrom record).2 = prune [path.accessors] (.map record) := by
  rcases path.removeFrom_finds_or_not record with
    ⟨spot, v, hfinds⟩ | ⟨htake, hnone⟩
  · rcases removeFrom_of_finds hfinds with ⟨rest, hremove, hrest⟩
    rcases hfinds with ⟨leads, hrecord⟩
    rw [hremove, hrest, hrecord, prune_of_at leads ends (hrecord ▸ h)]
  · have hpath : path.accessors ≠ [] := by
      intro hnil
      rcases ends with ⟨name, hlast⟩
      rw [hnil] at hlast
      cases hlast
    rw [hnone, prune_of_take?_eq_none hpath htake h]

end KeyPath

namespace KeyPolicy

open Accessor Value

variable {paths : List KeyPath}
  (ends : forall path, path ∈ paths -> EndsInKey path.accessors)

include ends

/-- Removing the paths one by one is one pass over all of them. -/
theorem reduce_eq_prune {record : Record} (h : Keyed (.map record)) :
    .map ((remove paths).reduce record) =
      prune (paths.map KeyPath.accessors) (.map record) := by
  induction paths generalizing record with
  | nil => exact (prune_nil _).symm
  | cons path rest ih =>
      have hpath := KeyPath.removeFrom_eq_prune (ends path List.mem_cons_self) h
      have hkeyed : Keyed (.map (path.removeFrom record).2) :=
        hpath ▸ keyed_prune h _
      have hrest :=
        ih (fun later hlater => ends later (List.mem_cons_of_mem path hlater))
          hkeyed
      rw [hpath, prune_prune] at hrest
      exact hrest

/-- The order of the paths does not count, nor how often and in what spelling
one is listed. -/
theorem reduce_congr {others : List KeyPath}
    (hsame :
      forall address, address ∈ others.map KeyPath.accessors <->
        address ∈ paths.map KeyPath.accessors)
    {record : Record} (h : Keyed (.map record)) :
    (remove others).reduce record = (remove paths).reduce record := by
  have hends : forall path, path ∈ others -> EndsInKey path.accessors := by
    intro path hpath
    rcases List.mem_map.mp ((hsame _).mp (List.mem_map_of_mem hpath)) with
      ⟨listed, hlisted, heq⟩
    exact heq ▸ ends listed hlisted
  have hothers := reduce_eq_prune hends h
  rw [prune_congr hsame, ← reduce_eq_prune ends h] at hothers
  exact Value.map.inj hothers

theorem reduce_reduce {record : Record} (h : Keyed (.map record)) :
    (remove paths).reduce ((remove paths).reduce record) =
      (remove paths).reduce record := by
  have hpaths := reduce_eq_prune ends h
  have hagain := reduce_eq_prune ends (hpaths ▸ keyed_prune h _)
  have htwice :
      forall path,
          path ∈ paths.map KeyPath.accessors ++ paths.map KeyPath.accessors <->
        path ∈ paths.map KeyPath.accessors := by
    simp only [List.mem_append, or_self, implies_true]
  rw [hpaths, prune_prune, prune_congr htwice, ← hpaths] at hagain
  exact Value.map.inj hagain

theorem clear_of_eq_prune {record : Record} {whole : Value}
    (h : .map record = prune (paths.map KeyPath.accessors) whole) :
    KeyPath.Clear paths record := by
  intro path hpath spot v hfinds
  rcases hfinds with ⟨leads, hrecord⟩
  rw [h] at hrecord
  exact prune_ne_fill leads (ends path hpath) (List.mem_map_of_mem hpath) whole
    v hrecord

end KeyPolicy
end Reshape
