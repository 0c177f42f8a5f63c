import Reshape.Shelf

/-!
# Holders and their buffers

Whatever is done to the holders, each buffer counts exactly the holders that it
has, and every holder has a buffer that was made for it or for one that it was
copied from.  So a text changes only when its own holder is worked on, and a
count above one tells that some other holder is there.
-/

namespace Reshape
namespace Shelf

def Operation.subject (shelf : Shelf) : Operation -> Nat
  | create _ => shelf.holders.length
  | clone _ => shelf.holders.length
  | drop i => i
  | setCharset i _ => i
  | replace i _ _ => i
  | normalize i _ => i

def run (operations : List Operation) : Shelf :=
  operations.foldl apply empty

/-!
## The invariant
-/

def holds (buffer : Nat) : Option Holder -> Bool
  | none => false
  | some holder => holder.buffer == buffer

def holderCount (shelf : Shelf) (buffer : Nat) : Nat :=
  shelf.holders.countP (holds buffer)

structure Sound (shelf : Shelf) : Prop where
  /-- Every holder has a buffer. -/
  placed : forall i holder, shelf.holder? i = some holder ->
    holder.buffer < shelf.buffers.length
  counted : forall b buffer, shelf.buffers[b]? = some buffer ->
    buffer.count = shelf.holderCount b

theorem sound_empty : Sound empty := by
  constructor
  · intro i holder h
    cases h
  · intro b buffer h
    cases h

/-!
## Places
-/

theorem holder?_eq_some_iff {shelf : Shelf} {i : Nat} {holder : Holder} :
    shelf.holder? i = some holder <->
      shelf.holders[i]? = some (some holder) := by
  unfold holder?
  exact Option.join_eq_some_iff

theorem holder?_addHolder_of_ne (shelf : Shelf) (holder : Option Holder)
    {j : Nat} (h : j ≠ shelf.holders.length) :
    (shelf.addHolder holder).holder? j = shelf.holder? j := by
  unfold holder? addHolder
  rcases Nat.lt_or_gt_of_ne h with hlt | hgt
  · rw [List.getElem?_append_left hlt]
  · have hlong : (shelf.holders ++ [holder]).length ≤ j := by
      rw [List.length_append, List.length_singleton]
      exact hgt
    rw [List.getElem?_eq_none hlong, List.getElem?_eq_none (Nat.le_of_lt hgt)]

theorem holder?_addHolder_self (shelf : Shelf) (holder : Option Holder) :
    (shelf.addHolder holder).holder? shelf.holders.length = holder := by
  unfold holder? addHolder
  rw [List.getElem?_concat_length]
  rfl

theorem holder?_setHolder_of_ne (shelf : Shelf) {i j : Nat}
    (holder : Option Holder) (h : j ≠ i) :
    (shelf.setHolder i holder).holder? j = shelf.holder? j := by
  unfold holder? setHolder
  rw [List.getElem?_set_ne h.symm]

theorem holder?_setHolder_self {shelf : Shelf} {i : Nat} {old : Holder}
    (h : shelf.holder? i = some old) (holder : Option Holder) :
    (shelf.setHolder i holder).holder? i = holder := by
  rcases List.getElem?_eq_some_iff.mp (holder?_eq_some_iff.mp h) with ⟨hlt, _⟩
  unfold holder? setHolder
  rw [List.getElem?_set_self hlt]
  rfl

/-!
## Counting
-/

theorem holderCount_addHolder (shelf : Shelf) (holder : Option Holder)
    (b : Nat) :
    (shelf.addHolder holder).holderCount b =
      shelf.holderCount b + if holds b holder then 1 else 0 := by
  unfold holderCount addHolder
  rw [List.countP_append, List.countP_singleton]

theorem le_holderCount {shelf : Shelf} {i : Nat} {holder : Holder}
    (h : shelf.holder? i = some holder) (b : Nat) :
    (if holds b (some holder) then 1 else 0) ≤ shelf.holderCount b := by
  unfold holderCount
  split
  · rename_i hholds
    exact List.countP_pos_iff.mpr
      ⟨some holder, List.mem_of_getElem? (holder?_eq_some_iff.mp h), hholds⟩
  · exact Nat.zero_le _

theorem holderCount_setHolder {shelf : Shelf} {i : Nat} {old : Holder}
    (h : shelf.holder? i = some old) (holder : Option Holder) (b : Nat) :
    (shelf.setHolder i holder).holderCount b +
      (if holds b (some old) then 1 else 0) =
      shelf.holderCount b + if holds b holder then 1 else 0 := by
  rcases List.getElem?_eq_some_iff.mp (holder?_eq_some_iff.mp h) with
    ⟨hlt, hold⟩
  have hone := le_holderCount h b
  unfold holderCount setHolder at *
  rw [List.countP_set hlt, hold]
  lia

theorem holderCount_of_length_le {shelf : Shelf} (hsound : shelf.Sound)
    {b : Nat} (h : shelf.buffers.length ≤ b) : shelf.holderCount b = 0 := by
  unfold holderCount
  rw [List.countP_eq_zero]
  intro place hmem hholds
  cases place with
  | none => cases hholds
  | some holder =>
      rcases List.getElem?_of_mem hmem with ⟨i, hi⟩
      have hplaced := hsound.placed i holder (holder?_eq_some_iff.mpr hi)
      have hbuffer : holder.buffer = b := eq_of_beq hholds
      lia

theorem one_lt_holderCount_iff {shelf : Shelf} {i : Nat} {holder : Holder}
    (h : shelf.holder? i = some holder) :
    1 < shelf.holderCount holder.buffer <->
      exists j other, j ≠ i ∧ shelf.holder? j = some other ∧
        other.buffer = holder.buffer := by
  have hself : holds holder.buffer (some holder) = true := beq_self_eq_true _
  have hwithout := holderCount_setHolder h none holder.buffer
  rw [hself] at hwithout
  have hless : 1 < shelf.holderCount holder.buffer <->
      0 < (shelf.setHolder i none).holderCount holder.buffer := by
    simp only [holds, if_true, Bool.false_eq_true, if_false] at hwithout
    lia
  rw [hless]
  unfold holderCount
  rw [List.countP_pos_iff]
  constructor
  · intro hmem
    rcases hmem with ⟨place, hplace, hholds⟩
    cases place with
    | none => cases hholds
    | some other =>
        rcases List.getElem?_of_mem hplace with ⟨j, hj⟩
        have hother := holder?_eq_some_iff.mpr hj
        by_cases hne : j = i
        · rw [hne, holder?_setHolder_self h] at hother
          cases hother
        · rw [holder?_setHolder_of_ne shelf none hne] at hother
          exact ⟨j, other, hne, hother, eq_of_beq hholds⟩
  · intro hother
    rcases hother with ⟨j, other, hne, hother, hbuffer⟩
    rw [← holder?_setHolder_of_ne shelf none hne] at hother
    exact ⟨some other, List.mem_of_getElem? (holder?_eq_some_iff.mp hother),
      beq_iff_eq.mpr hbuffer⟩

/-!
## One operation

Counting a holder in or out of a buffer changes no bytes, and a new buffer goes
behind all others.
-/

theorem getElem?_retain (shelf : Shelf) (buffer b : Nat) :
    (shelf.retain buffer).buffers[b]? =
      shelf.buffers[b]?.map fun found =>
        { found with count := found.count + if buffer = b then 1 else 0 } := by
  unfold retain
  rw [List.getElem?_modify]
  by_cases h : buffer = b <;> simp [h]

theorem getElem?_release (shelf : Shelf) (buffer b : Nat) :
    (shelf.release buffer).buffers[b]? =
      shelf.buffers[b]?.map fun found =>
        { found with count := found.count - if buffer = b then 1 else 0 } := by
  unfold release
  rw [List.getElem?_modify]
  by_cases h : buffer = b <;> simp [h]

theorem length_release (shelf : Shelf) (buffer : Nat) :
    (shelf.release buffer).buffers.length = shelf.buffers.length :=
  List.length_modify _ _ _

theorem sound_create {shelf : Shelf} (hsound : shelf.Sound) (text : Text) :
    (shelf.create text).Sound := by
  have hbuffers :
      (shelf.create text).buffers = shelf.buffers ++ [⟨text.bytes, 1⟩] := rfl
  have hcount : forall b, (shelf.create text).holderCount b =
      shelf.holderCount b + if shelf.buffers.length == b then 1 else 0 :=
    fun b => holderCount_addHolder (shelf.addBuffer text.bytes) _ b
  constructor
  · intro i holder h
    rw [hbuffers, List.length_append, List.length_singleton]
    by_cases hi : i = shelf.holders.length
    · have hnew := holder?_addHolder_self (shelf.addBuffer text.bytes)
        (some ⟨shelf.buffers.length, text.charset⟩)
      rw [hi] at h
      cases hnew.symm.trans h
      exact Nat.lt_succ_self _
    · have hold := holder?_addHolder_of_ne (shelf.addBuffer text.bytes)
        (some ⟨shelf.buffers.length, text.charset⟩) hi
      exact Nat.lt_succ_of_lt (hsound.placed i holder (hold.symm.trans h))
  · intro b buffer h
    rw [hbuffers] at h
    rw [hcount]
    rcases Nat.lt_trichotomy b shelf.buffers.length with hlt | rfl | hgt
    · rw [List.getElem?_append_left hlt] at h
      have hne : (shelf.buffers.length == b) = false :=
        beq_false_of_ne (Nat.ne_of_gt hlt)
      rw [hsound.counted b buffer h, hne]
      rfl
    · rw [List.getElem?_concat_length] at h
      cases h
      rw [holderCount_of_length_le hsound (Nat.le_refl _), beq_self_eq_true]
      rfl
    · have hlong : (shelf.buffers ++ [Buffer.mk text.bytes 1]).length ≤ b := by
        rw [List.length_append, List.length_singleton]
        exact hgt
      rw [List.getElem?_eq_none hlong] at h
      cases h

theorem sound_addHolder_none {shelf : Shelf} (hsound : shelf.Sound) :
    (shelf.addHolder none).Sound := by
  constructor
  · intro i holder h
    by_cases hi : i = shelf.holders.length
    · rw [hi, holder?_addHolder_self] at h
      cases h
    · rw [holder?_addHolder_of_ne shelf none hi] at h
      exact hsound.placed i holder h
  · intro b buffer h
    rw [holderCount_addHolder]
    exact hsound.counted b buffer h

theorem sound_clone {shelf : Shelf} (hsound : shelf.Sound) (i : Nat) :
    (shelf.clone i).Sound := by
  unfold clone
  cases hholder : shelf.holder? i with
  | none => exact sound_addHolder_none hsound
  | some holder =>
      have hlength :
          ((shelf.retain holder.buffer).addHolder
              (some holder)).buffers.length =
            shelf.buffers.length :=
        List.length_modify _ _ _
      constructor
      · intro j other h
        rw [hlength]
        by_cases hj : j = shelf.holders.length
        · have hnew :=
            holder?_addHolder_self (shelf.retain holder.buffer) (some holder)
          rw [hj] at h
          cases hnew.symm.trans h
          exact hsound.placed i holder hholder
        · have hold :=
            holder?_addHolder_of_ne (shelf.retain holder.buffer)
              (some holder) hj
          exact hsound.placed j other (hold.symm.trans h)
      · intro b buffer h
        have hretain := (getElem?_retain shelf holder.buffer b).symm.trans h
        rcases Option.map_eq_some_iff.mp hretain with ⟨old, hold, rfl⟩
        rw [holderCount_addHolder]
        show old.count + _ =
          shelf.holderCount b + if holder.buffer == b then 1 else 0
        rw [hsound.counted b old hold]
        simp only [beq_iff_eq]

/-- A holder gives way to one of a buffer from a longer row, which has counted
the old one out and the new one in. -/
theorem sound_setHolder {shelf other : Shelf} (hsound : shelf.Sound) {i : Nat}
    {old : Holder} (hold : shelf.holder? i = some old) (new : Option Holder)
    (hholders : other.holders = shelf.holders)
    (hlength : shelf.buffers.length ≤ other.buffers.length)
    (hplaced :
      forall holder, new = some holder -> holder.buffer < other.buffers.length)
    (hcounted :
      forall b buffer, other.buffers[b]? = some buffer ->
        buffer.count + (if holds b (some old) then 1 else 0) =
          shelf.holderCount b + if holds b new then 1 else 0) :
    (other.setHolder i new).Sound := by
  have hold' : other.holder? i = some old := by
    unfold holder? at hold ⊢
    rw [hholders]
    exact hold
  constructor
  · intro j holder h
    by_cases hj : j = i
    · rw [hj, holder?_setHolder_self hold'] at h
      exact hplaced holder h
    · rw [holder?_setHolder_of_ne other new hj] at h
      have hbefore : shelf.holder? j = some holder := by
        unfold holder? at h ⊢
        rw [← hholders]
        exact h
      exact Nat.lt_of_lt_of_le (hsound.placed j holder hbefore) hlength
  · intro b buffer h
    have hset := holderCount_setHolder hold' new b
    have hsame : other.holderCount b = shelf.holderCount b := by
      unfold holderCount
      rw [hholders]
    have hbuffer := hcounted b buffer h
    lia

/-- Once a holder is counted out, its buffer counts all the others. -/
theorem count_release {shelf : Shelf} (hsound : shelf.Sound) {i : Nat}
    {holder : Holder} (hholder : shelf.holder? i = some holder) {b : Nat}
    {buffer : Buffer}
    (h : (shelf.release holder.buffer).buffers[b]? = some buffer) :
    buffer.count + (if holds b (some holder) then 1 else 0) =
      shelf.holderCount b := by
  rw [getElem?_release] at h
  rcases Option.map_eq_some_iff.mp h with ⟨old, hold, rfl⟩
  have hone := le_holderCount hholder b
  simp only [holds, beq_iff_eq] at hone ⊢
  rw [hsound.counted b old hold]
  lia

theorem sound_drop {shelf : Shelf} (hsound : shelf.Sound) (i : Nat) :
    (shelf.drop i).Sound := by
  unfold drop
  cases hholder : shelf.holder? i with
  | none => exact hsound
  | some holder =>
      refine sound_setHolder hsound hholder none rfl ?_ ?_ ?_
      · exact Nat.le_of_eq (length_release shelf holder.buffer).symm
      · intro other h
        cases h
      · intro b buffer h
        exact count_release hsound hholder h

theorem sound_setCharset {shelf : Shelf} (hsound : shelf.Sound) (i : Nat)
    (charset : Charset) : (shelf.setCharset i charset).Sound := by
  unfold setCharset
  cases hholder : shelf.holder? i with
  | none => exact hsound
  | some holder =>
      refine sound_setHolder hsound hholder _ rfl (Nat.le_refl _) ?_ ?_
      · intro other h
        cases h
        exact hsound.placed i holder hholder
      · intro b buffer h
        rw [hsound.counted b buffer h]
        rfl

theorem sound_replace {shelf : Shelf} (hsound : shelf.Sound) (i : Nat)
    (bytes : List UInt8) (charset : Charset) :
    (shelf.replace i bytes charset).Sound := by
  unfold replace
  cases hholder : shelf.holder? i with
  | none => exact hsound
  | some holder =>
      have hlength :
          ((shelf.release holder.buffer).addBuffer bytes).buffers.length =
            shelf.buffers.length + 1 := by
        show ((shelf.release holder.buffer).buffers ++ [_]).length = _
        rw [List.length_append, length_release, List.length_singleton]
      refine sound_setHolder hsound hholder _ rfl ?_ ?_ ?_
      · rw [hlength]
        exact Nat.le_succ _
      · intro other h
        cases h
        rw [hlength]
        exact Nat.lt_succ_self _
      · intro b buffer h
        have hshorter := length_release shelf holder.buffer
        have happend :
            ((shelf.release holder.buffer).buffers ++ [⟨bytes, 1⟩])[b]? =
                some buffer :=
              h
        rcases Nat.lt_trichotomy b shelf.buffers.length with hlt | rfl | hgt
        · rw [List.getElem?_append_left (by rw [hshorter]; exact hlt)]
            at happend
          have hne : (shelf.buffers.length == b) = false :=
            beq_false_of_ne (Nat.ne_of_gt hlt)
          rw [count_release hsound hholder happend]
          simp only [holds, hne, Bool.false_eq_true, if_false, Nat.add_zero]
        · rw [← hshorter, List.getElem?_concat_length] at happend
          cases happend
          have hnone : holds shelf.buffers.length (some holder) = false :=
            beq_false_of_ne (Nat.ne_of_lt (hsound.placed i holder hholder))
          rw [holderCount_of_length_le hsound (Nat.le_refl _), hnone]
          simp only [holds, beq_self_eq_true, Bool.false_eq_true,
            if_false, if_true]
        · rw [List.getElem?_eq_none] at happend
          · cases happend
          · rw [List.length_append, hshorter, List.length_singleton]
            exact hgt

theorem sound_normalize {shelf : Shelf} (hsound : shelf.Sound) (i : Nat)
    (spec : EncodingSpec) : (shelf.normalize i spec).Sound := by
  unfold normalize
  cases shelf.text? i with
  | none => exact hsound
  | some text =>
      simp only
      cases spec.change text with
      | keep => exact hsound
      | declare charset => exact sound_setCharset hsound i charset
      | replace bytes charset => exact sound_replace hsound i bytes charset

theorem sound_apply {shelf : Shelf} (hsound : shelf.Sound)
    (operation : Operation) : (shelf.apply operation).Sound := by
  cases operation with
  | create text => exact sound_create hsound text
  | clone i => exact sound_clone hsound i
  | drop i => exact sound_drop hsound i
  | setCharset i charset => exact sound_setCharset hsound i charset
  | replace i bytes charset => exact sound_replace hsound i bytes charset
  | normalize i spec => exact sound_normalize hsound i spec

theorem sound_run (operations : List Operation) : (run operations).Sound := by
  have hall : forall (operations : List Operation)
      (shelf : Shelf), shelf.Sound -> (operations.foldl apply shelf).Sound := by
    intro operations
    induction operations with
    | nil => exact fun shelf hsound => hsound
    | cons operation rest ih =>
        exact fun shelf hsound =>
          ih (shelf.apply operation) (sound_apply hsound operation)
  exact hall operations empty sound_empty

/-!
## The texts of the other holders
-/

def KeepsBytes (shelf other : Shelf) : Prop :=
  forall b, b < shelf.buffers.length ->
    other.buffers[b]?.map Buffer.bytes = shelf.buffers[b]?.map Buffer.bytes

theorem keepsBytes_retain (shelf : Shelf) (buffer : Nat) :
    shelf.KeepsBytes (shelf.retain buffer) := by
  intro b _
  rw [getElem?_retain, Option.map_map]
  rfl

theorem keepsBytes_release (shelf : Shelf) (buffer : Nat) :
    shelf.KeepsBytes (shelf.release buffer) := by
  intro b _
  rw [getElem?_release, Option.map_map]
  rfl

theorem keepsBytes_addBuffer (shelf : Shelf) (bytes : List UInt8) :
    shelf.KeepsBytes (shelf.addBuffer bytes) := by
  intro b hb
  show (shelf.buffers ++ [_])[b]?.map Buffer.bytes = _
  rw [List.getElem?_append_left hb]

theorem text?_eq (shelf : Shelf) (i : Nat) :
    shelf.text? i = (shelf.holder? i).bind fun holder =>
      (shelf.buffers[holder.buffer]?.map Buffer.bytes).map fun bytes =>
        ⟨bytes, holder.charset⟩ := by
  unfold text?
  cases shelf.holder? i with
  | none => rfl
  | some holder =>
      show Option.bind shelf.buffers[holder.buffer]? _ =
          Option.map _ (Option.map _ _)
      cases shelf.buffers[holder.buffer]? <;> rfl

theorem text?_of_keepsBytes {shelf other : Shelf} (hsound : shelf.Sound)
    (hbytes : shelf.KeepsBytes other) {j : Nat}
    (hholder : other.holder? j = shelf.holder? j) :
    other.text? j = shelf.text? j := by
  rw [text?_eq, text?_eq, hholder]
  cases hj : shelf.holder? j with
  | none => rfl
  | some holder =>
      show Option.map _ (Option.map Buffer.bytes _) =
          Option.map _ (Option.map Buffer.bytes _)
      rw [hbytes holder.buffer (hsound.placed j holder hj)]

theorem text?_setCharset_of_ne {shelf : Shelf} (hsound : shelf.Sound)
    {i j : Nat} (h : j ≠ i) (charset : Charset) :
    (shelf.setCharset i charset).text? j = shelf.text? j := by
  unfold setCharset
  cases shelf.holder? i with
  | none => rfl
  | some holder =>
      refine text?_of_keepsBytes hsound ?_ (holder?_setHolder_of_ne shelf _ h)
      exact fun b _ => rfl

theorem text?_replace_of_ne {shelf : Shelf} (hsound : shelf.Sound) {i j : Nat}
    (h : j ≠ i) (bytes : List UInt8) (charset : Charset) :
    (shelf.replace i bytes charset).text? j = shelf.text? j := by
  unfold replace
  cases shelf.holder? i with
  | none => rfl
  | some holder =>
      refine text?_of_keepsBytes hsound ?_
        (holder?_setHolder_of_ne ((shelf.release holder.buffer).addBuffer bytes)
          _ h)
      intro b hb
      have hlonger : b < (shelf.release holder.buffer).buffers.length := by
        rw [length_release]
        exact hb
      exact (keepsBytes_addBuffer (shelf.release holder.buffer) bytes b
        hlonger).trans
        (keepsBytes_release shelf holder.buffer b hb)

/-- An operation leaves every text alone but that of its own holder. -/
theorem text?_apply_of_ne {shelf : Shelf} (hsound : shelf.Sound)
    (operation : Operation) {j : Nat} (h : j ≠ operation.subject shelf) :
    (shelf.apply operation).text? j = shelf.text? j := by
  cases operation with
  | create text =>
      refine text?_of_keepsBytes hsound ?_
        (holder?_addHolder_of_ne (shelf.addBuffer text.bytes) _ h)
      exact keepsBytes_addBuffer shelf text.bytes
  | clone i =>
      show (shelf.clone i).text? j = _
      unfold clone
      cases shelf.holder? i with
      | none =>
          refine text?_of_keepsBytes hsound ?_
            (holder?_addHolder_of_ne shelf _ h)
          exact fun b _ => rfl
      | some holder =>
          refine text?_of_keepsBytes hsound ?_
            (holder?_addHolder_of_ne (shelf.retain holder.buffer) _ h)
          exact keepsBytes_retain shelf holder.buffer
  | drop i =>
      show (shelf.drop i).text? j = _
      unfold drop
      cases shelf.holder? i with
      | none => rfl
      | some holder =>
          refine text?_of_keepsBytes hsound ?_
            (holder?_setHolder_of_ne (shelf.release holder.buffer) _ h)
          exact keepsBytes_release shelf holder.buffer
  | setCharset i charset => exact text?_setCharset_of_ne hsound h charset
  | replace i bytes charset => exact text?_replace_of_ne hsound h bytes charset
  | normalize i spec =>
      show (shelf.normalize i spec).text? j = _
      unfold normalize
      cases shelf.text? i with
      | none => rfl
      | some text =>
          simp only
          cases spec.change text with
          | keep => rfl
          | declare charset => exact text?_setCharset_of_ne hsound h charset
          | replace bytes charset =>
              exact text?_replace_of_ne hsound h bytes charset

/-!
## What sharing means
-/

theorem sharesBuffer_eq_true_iff {shelf : Shelf} {i j : Nat} :
    shelf.sharesBuffer i j = true <->
      exists holder other, shelf.holder? i = some holder ∧
        shelf.holder? j = some other ∧
        holder.buffer = other.buffer := by
  unfold sharesBuffer
  cases shelf.holder? i with
  | none => simp
  | some holder =>
      cases shelf.holder? j with
      | none => simp
      | some other => simp

theorem exists_buffer {shelf : Shelf} (hsound : shelf.Sound) {i : Nat}
    {holder : Holder} (h : shelf.holder? i = some holder) :
    exists buffer, shelf.buffers[holder.buffer]? = some buffer :=
  ⟨_, List.getElem?_eq_getElem (hsound.placed i holder h)⟩

theorem bytes_of_sharesBuffer {shelf : Shelf} (hsound : shelf.Sound) {i j : Nat}
    (h : shelf.sharesBuffer i j = true) :
    exists text other, shelf.text? i = some text ∧ shelf.text? j = some other ∧
      text.bytes = other.bytes := by
  rcases sharesBuffer_eq_true_iff.mp h with ⟨holder, other, hi, hj, hsame⟩
  rcases exists_buffer hsound hi with ⟨buffer, hbuffer⟩
  refine ⟨⟨buffer.bytes, holder.charset⟩, ⟨buffer.bytes, other.charset⟩, ?_,
    ?_, rfl⟩
  · rw [text?_eq, hi]
    show Option.map _ (Option.map _ shelf.buffers[holder.buffer]?) = _
    rw [hbuffer]
    rfl
  · rw [text?_eq, hj]
    show Option.map _ (Option.map _ shelf.buffers[other.buffer]?) = _
    rw [← hsame, hbuffer]
    rfl

theorem isShared_eq_true_iff {shelf : Shelf} (hsound : shelf.Sound) (i : Nat) :
    shelf.isShared i = true <->
      exists j, j ≠ i ∧ shelf.sharesBuffer i j = true := by
  cases hi : shelf.holder? i with
  | none =>
      apply iff_of_false
      · unfold isShared
        rw [hi]
        exact Bool.false_ne_true
      · intro h
        rcases h with ⟨j, _, hshares⟩
        rcases sharesBuffer_eq_true_iff.mp hshares with ⟨holder, _, hsome, _⟩
        rw [hi] at hsome
        cases hsome
  | some holder =>
      rcases exists_buffer hsound hi with ⟨buffer, hbuffer⟩
      have hcount :
          shelf.isShared i = true <-> 1 < shelf.holderCount holder.buffer := by
        unfold isShared
        simp only [hi, hbuffer, decide_eq_true_eq,
          hsound.counted holder.buffer buffer hbuffer]
      rw [hcount, one_lt_holderCount_iff hi]
      constructor
      · intro h
        rcases h with ⟨j, other, hne, hj, hsame⟩
        exact ⟨j, hne,
          sharesBuffer_eq_true_iff.mpr ⟨holder, other, hi, hj, hsame.symm⟩⟩
      · intro h
        rcases h with ⟨j, hne, hshares⟩
        rcases sharesBuffer_eq_true_iff.mp hshares with
          ⟨holder', other, hi', hj, hsame⟩
        rw [hi] at hi'
        cases hi'
        exact ⟨j, other, hne, hj, hsame.symm⟩

theorem holders_apart (operations : List Operation) :
    (forall operation j, j ≠ operation.subject (run operations) ->
      ((run operations).apply operation).text? j = (run operations).text? j) ∧
    (forall i j, (run operations).sharesBuffer i j = true ->
      exists text other, (run operations).text? i = some text ∧
        (run operations).text? j = some other ∧ text.bytes = other.bytes) ∧
    (forall i, (run operations).isShared i = true <->
      exists j, j ≠ i ∧ (run operations).sharesBuffer i j = true) := by
  have hsound := sound_run operations
  refine ⟨?_, ?_, ?_⟩
  · intro operation j h
    exact text?_apply_of_ne hsound operation h
  · intro i j h
    exact bytes_of_sharesBuffer hsound h
  · intro i
    exact isShared_eq_true_iff hsound i

theorem holders_apart_copy :
    (run [.create (Text.ofString "a"), .clone 0]).sharesBuffer 0 1 = true ∧
      (run [.create (Text.ofString "a"), .clone 0]).isShared 0 = true ∧
      ((run [.create (Text.ofString "a"), .clone 0]).apply
          (.replace 0 [0xFF] .binary)).text?
        1 =
        (run [.create (Text.ofString "a"), .clone 0]).text? 1 := by
  have hshares :
      (run [.create (Text.ofString "a"), .clone 0]).sharesBuffer 0 1 = true :=
        rfl
  rcases holders_apart [.create (Text.ofString "a"), .clone 0] with
    ⟨hothers, _, hshared⟩
  refine ⟨hshares, (hshared 0).mpr ⟨1, by decide, hshares⟩, ?_⟩
  exact hothers (.replace 0 [0xFF] .binary) 1 (by decide)

end Shelf
end Reshape
