import ArrayBridge.Proofs.Refresh

/-
  Refreshing and pushing back are scoped to the innermost native call. Outside every call they
  are refused and change nothing. Inside a call whose frame has mark `m`, `refresh o` refuses an
  entry below `m` before any runtime call, and otherwise refreshes the one slot of `o`;
  `refreshAll` and `pushBackAll` sweep the slots from `m` up to the high-water mark in ascending
  order, passing over tombstones, and stop at the first slot that fails.

  That a step "touches only its own slot" is said by commutation (`Op.Commutes`): writing any
  other slot before the step is the same as writing it after. So the step neither reads that slot
  (its runtime calls and its answer are the same whatever the slot holds) nor changes it
  (`Confined.keeps`). A sweep of such steps touches only the slots it sweeps (`Confined.sweep`),
  and `Op.Swept` records the prefix a sweep has run, so a failure is located exactly.

  Main statement: `Bridge.sweeps_current_frame`.
-/

namespace ArrayBridge

namespace Table

variable {ε : Type}

/-- Slot `j` set to `x`, if the table has a slot `j`. -/
def put (t : Table ε) (j : Nat) (x : Option ε) : Table ε :=
  { t with slots := t.slots.setIfInBounds j x }

variable {t : Table ε} {i j : Nat} {x : Option ε}

@[simp] theorem hwm_put : (t.put j x).hwm = t.hwm := by
  simp [put, hwm]

theorem get?_put_of_ne (h : j ≠ i) : (t.put j x).get? i = t.get? i := by
  simp [put, get?, h]

theorem update_put (h : j ≠ i) (f : ε → ε) : (t.put j x).update i f = (t.update i f).put j x := by
  simp only [put, update, mk.injEq, and_true]
  apply Array.ext_getElem?
  intro k
  simp only [Array.getElem?_modify, Array.getElem?_setIfInBounds, Array.size_modify]
  grind

theorem take_put (h : j ≠ i) : (t.put j x).take i = ((t.take i).1, (t.take i).2.put j x) := by
  unfold take
  rw [get?_put_of_ne h]
  split
  · simp [put, Array.setIfInBounds_comm _ _ h]
  · rfl

theorem put_self (h : t.slots[j]? = some x) : t.put j x = t := by
  simp only [put]
  congr
  apply Array.ext_getElem?
  intro k
  rw [Array.getElem?_setIfInBounds]
  grind

/-- A lookup that finds nothing leaves the table as it was, last hit included. -/
theorem snd_find_of_none {hit : ε → Bool} (h : (t.find hit).1 = none) : (t.find hit).2 = t := by
  rw [snd_find, h]
  rfl

theorem getElem?_slots_put_self (hj : j < t.hwm) : (t.put j x).slots[j]? = some x := by
  simp_all [put, hwm]

end Table

namespace Op

variable {σ α β : Type}

/-- A result with `f` applied to the state it leaves. -/
def restate (f : σ → σ) : EStateM.Result Stop σ α → EStateM.Result Stop σ α
  | .ok a s => .ok a (f s)
  | .error e s => .error e (f s)

/-- Running `m` from `f s` is running it from `s` and then applying `f`: `m` neither reads nor
    overwrites what `f` changes. -/
def Commutes (f : σ → σ) (m : Op σ α) : Prop := ∀ s, m (f s) = restate f (m s)

variable {f : σ → σ}

theorem commutes_pure (a : α) : Commutes f (pure a : Op σ α) := fun _ => rfl

theorem Commutes.bind {m : Op σ α} {k : α → Op σ β} (hm : Commutes f m)
    (hk : ∀ a, Commutes f (k a)) : Commutes f (m >>= k) := by
  intro s
  rw [bind_apply, bind_apply, hm s]
  cases m s with
  | ok a s' => exact hk a s'
  | error e s' => rfl

theorem Commutes.after {m : Op σ α} (hm : Commutes f m) (s : σ) : m.after (f s) = f (m.after s) := by
  unfold Op.after
  rw [hm s]
  cases m s <;> rfl

/-- `each index`, `each (index + 1)`, …, `count` of them, stopping at the first failure. -/
def sweep (each : Nat → Op σ Unit) (index : Nat) : Nat → Op σ Unit
  | 0 => pure ()
  | count + 1 => each index >>= fun _ => sweep each (index + 1) count

/-- `each index`, …, `each (index + count - 1)` answer in turn, from `s` to `s'`. -/
inductive Swept (each : Nat → Op σ Unit) : Nat → Nat → σ → σ → Prop
  | nil (index : Nat) (s : σ) : Swept each index 0 s s
  | cons {index count : Nat} {s s₁ s₂ : σ} : each index s = .ok () s₁ →
      Swept each (index + 1) count s₁ s₂ → Swept each index (count + 1) s s₂

variable {each : Nat → Op σ Unit}

/-- After a swept prefix, the sweep goes on from where the prefix ended. -/
theorem sweep_of_swept {index n : Nat} {s s₁ : σ} (h : Swept each index n s s₁) (c : Nat) :
    sweep each index (n + c) s = sweep each (index + n) c s₁ := by
  induction h with
  | nil => rw [Nat.zero_add, Nat.add_zero]
  | @cons index count s s₁ s₂ hstep _ ih =>
    rw [Nat.add_right_comm, sweep, bind_apply, hstep]
    dsimp only
    rw [ih, Nat.add_right_comm, Nat.add_assoc]

theorem sweep_eq_ok_iff {index count : Nat} {s s' : σ} :
    sweep each index count s = .ok () s' ↔ Swept each index count s s' := by
  constructor
  · intro h
    induction count generalizing index s with
    | zero =>
      cases h
      exact .nil _ _
    | succ count ih =>
      rw [sweep, bind_apply] at h
      cases hstep : each index s with
      | ok u s₁ =>
        rw [hstep] at h
        exact .cons hstep (ih h)
      | error e s₁ =>
        rw [hstep] at h
        cases h
  · intro h
    rw [← Nat.add_zero count, sweep_of_swept h 0]
    rfl

/-- A sweep that stops has swept a prefix and stopped at the next slot's failure. -/
theorem sweep_eq_error {index count : Nat} {s s' : σ} {e : Stop}
    (h : sweep each index count s = .error e s') :
    ∃ k s₁, index ≤ k ∧ k < index + count ∧ Swept each index (k - index) s s₁ ∧
      each k s₁ = .error e s' := by
  induction count generalizing index s with
  | zero => cases h
  | succ count ih =>
    rw [sweep, bind_apply] at h
    cases hstep : each index s with
    | ok u s₁ =>
      rw [hstep] at h
      obtain ⟨k, s₂, hk, hk', hswept, hfail⟩ := ih h
      refine ⟨k, s₂, by omega, by omega, ?_, hfail⟩
      have hcount : k - index = k - (index + 1) + 1 := by omega
      rw [hcount]
      exact .cons hstep hswept
    | error e' s₁ =>
      rw [hstep] at h
      cases h
      exact ⟨index, s, Nat.le_refl index, by omega, by rw [Nat.sub_self]; exact .nil index s, hstep⟩

end Op

namespace Bridge

variable {σ Obj Arr Pin : Type}

/-- `b` with slot `j` of its table set to `x`. -/
def putSlot (j : Nat) (x : Option (Entry Obj Arr Pin)) (b : Bridge σ Obj Arr Pin) :
    Bridge σ Obj Arr Pin :=
  { b with table := b.table.put j x }

variable [Host σ Obj Arr Pin] {b : Bridge σ Obj Arr Pin} {i j : Nat} {x : Option (Entry Obj Arr Pin)}

open Op

omit [Host σ Obj Arr Pin] in
/-- A runtime call does not look at the table. -/
theorem commutes_onHost {α : Type} (m : Op σ α) : Commutes (putSlot j x) (onHost m) := by
  intro b
  have hhost : (putSlot j x b).host = b.host := rfl
  simp only [onHost, Op.focus, hhost]
  cases m b.host <;> rfl

/-- `m` touches only the slots that `inside` accepts: it keeps the high-water mark, and a write
    to any other slot commutes with it, so `m` neither reads nor changes such a slot. -/
structure Confined {α : Type} (m : Op (Bridge σ Obj Arr Pin) α) (inside : Nat → Prop) : Prop where
  hwm : ∀ b, (m.after b).hwm = b.hwm
  commutes : ∀ j x, ¬ inside j → Commutes (putSlot j x) m

omit [Host σ Obj Arr Pin] in
/-- A slot outside what `m` touches is, after `m`, as it was before. -/
theorem Confined.keeps {α : Type} {m : Op (Bridge σ Obj Arr Pin) α} {inside : Nat → Prop}
    (hm : Confined m inside) (b : Bridge σ Obj Arr Pin) {j : Nat} (hj : ¬ inside j) :
    (m.after b).table.slots[j]? = b.table.slots[j]? := by
  cases hslot : b.table.slots[j]? with
  | none =>
    have hle : b.hwm ≤ j := Array.getElem?_eq_none_iff.mp hslot
    exact Array.getElem?_eq_none_iff.mpr (by rw [← hm.hwm b] at hle; exact hle)
  | some y =>
    have hself : putSlot j y b = b := by
      simp only [putSlot, Table.put_self hslot]
    have hlt : j < (m.after b).hwm := by
      rw [hm.hwm b]
      exact (Array.getElem?_eq_some_iff.mp hslot).1
    rw [← hself, (hm.commutes j y hj).after b]
    exact Table.getElem?_slots_put_self hlt

section Confined

variable {inside inside' : Nat → Prop}

omit [Host σ Obj Arr Pin] in
theorem confined_pure {α : Type} (a : α) : Confined (pure a : Op (Bridge σ Obj Arr Pin) α) inside :=
  ⟨fun _ => rfl, fun _ _ _ => commutes_pure a⟩

omit [Host σ Obj Arr Pin] in
theorem Confined.mono {α : Type} {m : Op (Bridge σ Obj Arr Pin) α} (hm : Confined m inside)
    (h : ∀ j, inside j → inside' j) : Confined m inside' :=
  ⟨hm.hwm, fun j x hj => hm.commutes j x fun hin => hj (h j hin)⟩

omit [Host σ Obj Arr Pin] in
theorem Confined.bind {α β : Type} {m : Op (Bridge σ Obj Arr Pin) α}
    {k : α → Op (Bridge σ Obj Arr Pin) β} (hm : Confined m inside) (hk : ∀ a, Confined (k a) inside) :
    Confined (m >>= k) inside := by
  refine ⟨fun b => ?_, fun j x hj => (hm.commutes j x hj).bind fun a => (hk a).commutes j x hj⟩
  rw [after_bind]
  cases hrun : m b with
  | ok a b' => rw [(hk a).hwm b', ← hm.hwm b, after_of_ok hrun]
  | error e b' => rw [← hm.hwm b, after_of_error hrun]

omit [Host σ Obj Arr Pin] in
/-- A sweep of steps that each touch their own slot touches only the slots it sweeps. -/
theorem Confined.sweep {each : Nat → Op (Bridge σ Obj Arr Pin) Unit}
    (heach : ∀ k, Confined (each k) (· = k)) (index count : Nat) :
    Confined (Op.sweep each index count) fun j => index ≤ j ∧ j < index + count := by
  induction count generalizing index with
  | zero => exact confined_pure ()
  | succ count ih =>
    refine ((heach index).mono fun j hj => ?_).bind fun _ => (ih (index + 1)).mono fun j hj => ?_
    · omega
    · omega

end Confined

/-! ## The steps of a sweep -/

omit [Host σ Obj Arr Pin] in
theorem get?_putSlot_of_ne (h : j ≠ i) : (putSlot j x b).table.get? i = b.table.get? i :=
  Table.get?_put_of_ne h

omit [Host σ Obj Arr Pin] in
/-- Changing the entry of slot `i` commutes with a write to another slot. -/
theorem commutes_update (h : j ≠ i) (f : Entry Obj Arr Pin → Entry Obj Arr Pin) :
    Commutes (putSlot j x)
      (modify fun (b : Bridge σ Obj Arr Pin) => { b with table := b.table.update i f }) := by
  intro b
  simp only [modify_apply, restate, putSlot, Table.update_put h]

/-- Refreshing slot `i` touches slot `i` alone. -/
theorem confined_refreshEntry (i : Nat) : Confined (refreshEntry i : Op (Bridge σ Obj Arr Pin) Unit) (· = i) := by
  refine ⟨fun b => (Thins.of_chain (leads_refreshEntry i)).table.hwm_eq, fun j x hj b => ?_⟩
  have hget := get?_putSlot_of_ne (b := b) (x := x) hj
  cases he : b.table.get? i with
  | none => rw [refreshEntry_of_dead he, refreshEntry_of_dead (hget.trans he)]; rfl
  | some e =>
    cases ha : e.array with
    | none => rw [refreshEntry_of_text he ha, refreshEntry_of_text (hget.trans he) ha]; rfl
    | some a =>
      rw [refreshEntry_of_recorded he ha, refreshEntry_of_recorded (hget.trans he) ha]
      -- the runtime's answers do not depend on the table
      have hhost : (putSlot j x b).host = b.host := rfl
      rw [hhost]
      cases Host.backingArray e.object e.kind b.host with
      | error s h₁ => rfl
      | ok current h₁ =>
        dsimp only
        cases Host.releaseArray current h₁ with
        | error s h₂ => rfl
        | ok u h₂ =>
          dsimp only
          split
          · have hcopy : Commutes (putSlot j x) (onHost (Codec.refresh e.kind a e.buffer) >>=
                fun buffer => modify fun (b : Bridge σ Obj Arr Pin) =>
                  { b with table := b.table.update i fun d => { d with buffer } }) :=
              (commutes_onHost _).bind fun buffer => commutes_update hj _
            exact hcopy { b with host := _ }
          · have htake : ((putSlot j x b).table.take i).2 = (b.table.take i).2.put j x := by
              rw [show (putSlot j x b).table = b.table.put j x from rfl, Table.take_put hj]
            rw [htake]
            exact commutes_onHost _ { b with table := _, host := _ }

/-- Pushing back a tombstone does nothing. -/
theorem pushEntry_of_dead (hi : b.table.get? i = none) : pushEntry i b = .ok () b := by
  unfold pushEntry
  rw [bind_apply, get_apply]
  dsimp only
  rw [hi]
  rfl

/-- Pushing back the live entry `e` of slot `i`: a trace record, then the codec's push of `e`'s
    storage into its object. -/
theorem pushEntry_of_live {e : Entry Obj Arr Pin} (he : b.table.get? i = some e) :
    pushEntry i b = onHost (Codec.pushBack e.kind e.object e.array e.buffer)
      { b with host := (Host.log .trace mirrorTarget
          s!"updateJObject({Host.showObject b.host e.object}): updating" b.host) } := by
  unfold pushEntry
  rw [bind_apply, get_apply]
  dsimp only
  rw [he]
  rfl

/-- Pushing back slot `i` touches slot `i` alone: its entry is read, and no slot is written. -/
theorem confined_pushEntry (i : Nat) : Confined (pushEntry i : Op (Bridge σ Obj Arr Pin) Unit) (· = i) := by
  refine ⟨fun b => (Thins.of_chain (calm_thins.pushEntry b i)).table.hwm_eq, fun j x hj b => ?_⟩
  have hget := get?_putSlot_of_ne (b := b) (x := x) hj
  cases he : b.table.get? i with
  | none => rw [pushEntry_of_dead he, pushEntry_of_dead (hget.trans he)]; rfl
  | some e =>
    rw [pushEntry_of_live he, pushEntry_of_live (hget.trans he)]
    exact commutes_onHost _ { b with host := _ }

theorem refreshFrom_eq_sweep (index count : Nat) :
    (refreshFrom index count : Op (Bridge σ Obj Arr Pin) Unit) = Op.sweep refreshEntry index count := by
  induction count generalizing index with
  | zero => rfl
  | succ count ih =>
    rw [refreshFrom, Op.sweep, ih]

theorem pushFrom_eq_sweep (index count : Nat) :
    (pushFrom index count : Op (Bridge σ Obj Arr Pin) Unit) = Op.sweep pushEntry index count := by
  induction count generalizing index with
  | zero => rfl
  | succ count ih => rw [pushFrom, Op.sweep, ih]

/-! ## The innermost frame's mark -/

omit [Host σ Obj Arr Pin] in
theorem currentMark_of_idle (hd : b.depth = 0) (operation : String) :
    currentMark operation b = .error (.fault (.noActiveCall operation)) b := by
  have hcurrent : b.calls.current = none := by
    simp [CallStack.current, List.eq_nil_of_length_eq_zero hd]
  unfold currentMark
  rw [bind_apply, get_apply]
  dsimp only
  rw [hcurrent]
  rfl

omit [Host σ Obj Arr Pin] in
theorem currentMark_of_frame {frame : Frame} {rest : List Frame}
    (hframes : b.calls.frames = frame :: rest) (operation : String) :
    currentMark operation b = .ok frame.mark b := by
  have hcurrent : b.calls.current = some frame := by simp [CallStack.current, hframes]
  unfold currentMark
  rw [bind_apply, get_apply]
  dsimp only
  rw [hcurrent]
  rfl

omit [Host σ Obj Arr Pin] in
/-- Outside every call, an operation that begins by reading the innermost mark is refused and
    changes nothing. -/
theorem currentMark_bind_of_idle {β : Type} (hd : b.depth = 0) (operation : String)
    (k : Nat → Op (Bridge σ Obj Arr Pin) β) :
    (currentMark operation >>= k) b = .error (.fault (.noActiveCall operation)) b := by
  rw [bind_apply, currentMark_of_idle hd]

omit [Host σ Obj Arr Pin] in
theorem currentMark_bind_of_frame {β : Type} {frame : Frame} {rest : List Frame}
    (hframes : b.calls.frames = frame :: rest) (operation : String)
    (k : Nat → Op (Bridge σ Obj Arr Pin) β) :
    (currentMark operation >>= k) b = k frame.mark b := by
  rw [bind_apply, currentMark_of_frame hframes]

theorem refreshAll_of_frame {frame : Frame} {rest : List Frame}
    (hframes : b.calls.frames = frame :: rest) :
    refreshAll b = Op.sweep refreshEntry frame.mark (b.hwm - frame.mark) b := by
  unfold refreshAll
  rw [currentMark_bind_of_frame hframes, bind_apply, get_apply]
  dsimp only
  rw [refreshFrom_eq_sweep]

theorem pushBackAll_of_frame {frame : Frame} {rest : List Frame}
    (hframes : b.calls.frames = frame :: rest) :
    pushBackAll b = Op.sweep pushEntry frame.mark (b.hwm - frame.mark) b := by
  unfold pushBackAll
  rw [currentMark_bind_of_frame hframes, bind_apply, get_apply]
  dsimp only
  rw [pushFrom_eq_sweep]

/-! ## Sweeping the current frame -/

/-- `whole` sweeps `each` over the slots of `b` from `m` up to the high-water mark. -/
structure SweepsFrame (each : Nat → Op (Bridge σ Obj Arr Pin) Unit)
    (whole : Op (Bridge σ Obj Arr Pin) Unit) (b : Bridge σ Obj Arr Pin) (m : Nat) : Prop where
  /-- The slots `m, m + 1, …` below the high-water mark, in ascending order. -/
  sweeps : whole b = Op.sweep each m (b.hwm - m) b
  /-- A tombstone is passed over. -/
  skips : ∀ k (c : Bridge σ Obj Arr Pin), c.table.get? k = none → each k c = .ok () c
  /-- Each step reads and writes its own slot alone. -/
  steps : ∀ k, Confined (each k) (· = k)
  /-- No slot below `m` is read or written: with a slot below `m` replaced, the sweep makes the
      same runtime calls to the same answer, and the slot stays replaced. -/
  below : ∀ j x, j < m → whole (putSlot j x b) = Op.restate (putSlot j x) (whole b)
  /-- No slot below `m` changes. -/
  kept : ∀ j, j < m → (whole.after b).table.slots[j]? = b.table.slots[j]?
  /-- It answers exactly when every slot answers in turn. -/
  done : ∀ b', whole b = .ok () b' ↔ Op.Swept each m (b.hwm - m) b b'
  /-- It stops at the first slot that fails, with that slot's failure: the slots before it have
      been swept, and every slot after it is as it was. -/
  stops : ∀ s b', whole b = .error s b' → ∃ k b₁, m ≤ k ∧ k < b.hwm ∧
    Op.Swept each m (k - m) b b₁ ∧ each k b₁ = .error s b' ∧
    ∀ j, k < j → b'.table.slots[j]? = b.table.slots[j]?

omit [Host σ Obj Arr Pin] in
/-- A sweep of steps that skip tombstones and touch their own slot alone sweeps the frame. -/
theorem sweepsFrame_of {each : Nat → Op (Bridge σ Obj Arr Pin) Unit}
    {whole : Op (Bridge σ Obj Arr Pin) Unit} {m : Nat}
    (hwhole : ∀ c : Bridge σ Obj Arr Pin, c.calls = b.calls → whole c = Op.sweep each m (c.hwm - m) c)
    (hskip : ∀ k (c : Bridge σ Obj Arr Pin), c.table.get? k = none → each k c = .ok () c)
    (hstep : ∀ k, Confined (each k) (· = k)) : SweepsFrame each whole b m := by
  have hsweep := hwhole b rfl
  have hconf := Confined.sweep hstep m (b.hwm - m)
  refine ⟨hsweep, hskip, hstep, fun j x hj => ?_, fun j hj => ?_, fun b' => ?_, fun s b' h => ?_⟩
  · have hput : (putSlot j x b).hwm = b.hwm := Table.hwm_put
    rw [hwhole (putSlot j x b) rfl, hput, hsweep]
    exact hconf.commutes j x (by omega) b
  · unfold Op.after
    rw [hsweep, ← Op.after]
    exact hconf.keeps b (by omega)
  · rw [hsweep, Op.sweep_eq_ok_iff]
  · rw [hsweep] at h
    obtain ⟨k, b₁, hk, hk', hswept, hfail⟩ := Op.sweep_eq_error h
    refine ⟨k, b₁, hk, by omega, hswept, hfail, fun j hj => ?_⟩
    -- the prefix touched only slots below `k`, the failing step only slot `k`
    have hbefore : b₁ = (Op.sweep each m (k - m)).after b :=
      (after_of_ok (Op.sweep_eq_ok_iff.mpr hswept)).symm
    calc b'.table.slots[j]? = b₁.table.slots[j]? := by
          rw [← after_of_error hfail]
          exact (hstep k).keeps b₁ (by omega)
      _ = b.table.slots[j]? := by
          rw [hbefore]
          exact (Confined.sweep hstep m (k - m)).keeps b (by omega)

/-! ## Refreshing one object -/

/-- What refreshing `o` does to a bridge whose innermost frame has mark `m`, by where the lookup
    finds `o`'s live entry. -/
structure RefreshesInFrame (b : Bridge σ Obj Arr Pin) (o : Obj) (m : Nat) : Prop where
  /-- `o` has no live entry: the answer is `false`, and nothing has changed. -/
  absent : (b.table.find (holds b.host o)).1 = none → refresh o b = .ok false b
  /-- `o`'s entry lies below the mark: the refresh is refused before any runtime call, and only
      the lookup's last hit may have moved. -/
  ancestor : ∀ i, (b.table.find (holds b.host o)).1 = some i → i < m →
    ∃ t : Table (Entry Obj Arr Pin), t.slots = b.table.slots ∧ t.capacity = b.table.capacity ∧
      refresh o b = .error (.fault (.crossFrameRefresh i m)) { b with table := t }
  /-- `o`'s entry lies in the frame: that slot alone is refreshed, reading and writing no other
      slot, and the answer is `true`. -/
  current : ∀ i, (b.table.find (holds b.host o)).1 = some i → m ≤ i →
    Confined (refreshEntry i : Op (Bridge σ Obj Arr Pin) Unit) (· = i) ∧
    ∃ t : Table (Entry Obj Arr Pin), t.slots = b.table.slots ∧ t.capacity = b.table.capacity ∧
      refresh o b = (refreshEntry i >>= fun _ => pure true) { b with table := t }
  /-- No slot below the mark changes. -/
  kept : ∀ j, j < m → ((refresh o).after b).table.slots[j]? = b.table.slots[j]?

/-- Refreshing `o` inside a call: the lookup, then the mark check, then the one slot. -/
theorem refresh_of_frame {frame : Frame} {rest : List Frame}
    (hframes : b.calls.frames = frame :: rest) (o : Obj) :
    refresh o b = match (b.table.find (holds b.host o)).1 with
      | none => .ok false { b with table := (b.table.find (holds b.host o)).2 }
      | some i =>
        if i < frame.mark then
          .error (.fault (.crossFrameRefresh i frame.mark))
            { b with table := (b.table.find (holds b.host o)).2 }
        else (refreshEntry i >>= fun _ => pure true)
          { b with table := (b.table.find (holds b.host o)).2 } := by
  unfold refresh
  rw [currentMark_bind_of_frame hframes, bind_apply, lookup_apply]
  dsimp only
  cases (b.table.find (holds b.host o)).1 with
  | none => rfl
  | some i =>
    dsimp only
    split
    · rfl
    · rfl

theorem refreshesInFrame_of_frame {frame : Frame} {rest : List Frame}
    (hframes : b.calls.frames = frame :: rest) (o : Obj) : RefreshesInFrame b o frame.mark := by
  have hrefresh := refresh_of_frame hframes o
  have hslots := Table.slots_find b.table (holds b.host o)
  have hcap := Table.capacity_find b.table (holds b.host o)
  have habsent : (b.table.find (holds b.host o)).1 = none → refresh o b = .ok false b := by
    intro hnone
    rw [hrefresh, hnone]
    dsimp only
    rw [Table.snd_find_of_none hnone]
  have hancestor : ∀ i, (b.table.find (holds b.host o)).1 = some i → i < frame.mark →
      refresh o b = .error (.fault (.crossFrameRefresh i frame.mark))
        { b with table := (b.table.find (holds b.host o)).2 } := by
    intro i hi hlt
    rw [hrefresh, hi]
    dsimp only
    rw [if_pos hlt]
  have hcurrent : ∀ i, (b.table.find (holds b.host o)).1 = some i → frame.mark ≤ i →
      refresh o b = (refreshEntry i >>= fun _ => pure true)
        { b with table := (b.table.find (holds b.host o)).2 } := by
    intro i hi hle
    rw [hrefresh, hi]
    dsimp only
    rw [if_neg (by omega)]
  refine ⟨habsent, fun i hi hlt => ⟨_, hslots, hcap, hancestor i hi hlt⟩,
    fun i hi hle => ⟨confined_refreshEntry i, _, hslots, hcap, hcurrent i hi hle⟩, fun j hj => ?_⟩
  cases hfind : (b.table.find (holds b.host o)).1 with
  | none => rw [after_of_ok (habsent hfind)]
  | some i =>
    by_cases hlt : i < frame.mark
    · rw [after_of_error (hancestor i hfind hlt)]
      exact congrArg (·[j]?) hslots
    · have hafter : (refresh o).after b =
          (refreshEntry i).after { b with table := (b.table.find (holds b.host o)).2 } := by
        unfold Op.after
        rw [hcurrent i hfind (by omega), ← Op.after, after_bind_pure]
        rfl
      rw [hafter, (confined_refreshEntry i).keeps _ (by omega)]
      exact congrArg (·[j]?) hslots

/-! ## Scoped to the innermost call -/

/-- Refreshing and pushing back are scoped to the innermost call. Outside every call, `refresh`,
    `refreshAll` and `pushBackAll` are refused and change nothing. Inside a call whose frame has
    mark `m`, `refresh o` answers `false` with nothing changed when `o` has no live entry,
    refuses an entry below `m` before any runtime call, and otherwise refreshes that one slot;
    `refreshAll` and `pushBackAll` sweep the slots from `m` up to the high-water mark in ascending
    order, pass over tombstones, neither read nor write any slot below `m`, and stop at the first
    slot that fails, with its failure, the slots before it swept and those after it as they
    were. -/
theorem sweeps_current_frame (b : Bridge σ Obj Arr Pin) :
    (b.depth = 0 →
      (∀ o, refresh o b = .error (.fault (.noActiveCall "refresh")) b) ∧
      refreshAll b = .error (.fault (.noActiveCall "refresh-all")) b ∧
      pushBackAll b = .error (.fault (.noActiveCall "push-back-all")) b) ∧
    ∀ frame rest, b.calls.frames = frame :: rest →
      (∀ o, RefreshesInFrame b o frame.mark) ∧
      SweepsFrame refreshEntry refreshAll b frame.mark ∧
      SweepsFrame pushEntry pushBackAll b frame.mark := by
  refine ⟨fun hd => ⟨fun o => ?_, ?_, ?_⟩, fun frame rest hframes =>
    ⟨refreshesInFrame_of_frame hframes, ?_, ?_⟩⟩
  · exact currentMark_bind_of_idle hd "refresh" _
  · exact currentMark_bind_of_idle hd "refresh-all" _
  · exact currentMark_bind_of_idle hd "push-back-all" _
  · exact sweepsFrame_of (fun c hc => refreshAll_of_frame (hc ▸ hframes))
      (fun _ _ => refreshEntry_of_dead) confined_refreshEntry
  · exact sweepsFrame_of (fun c hc => pushBackAll_of_frame (hc ▸ hframes))
      (fun _ _ => pushEntry_of_dead) confined_pushEntry

theorem sweeps_current_frame_bench :
    Reachable.benchStart.depth = 0 ∧
      ((∀ o, refresh o Reachable.benchStart =
          .error (.fault (.noActiveCall "refresh")) Reachable.benchStart) ∧
        refreshAll Reachable.benchStart =
          .error (.fault (.noActiveCall "refresh-all")) Reachable.benchStart ∧
        pushBackAll Reachable.benchStart =
          .error (.fault (.noActiveCall "push-back-all")) Reachable.benchStart) ∧
      (Reachable.benchLent false .default).calls.frames = [⟨0, 1⟩] ∧
      (∀ o, RefreshesInFrame (Reachable.benchLent false .default) o 0) ∧
      SweepsFrame refreshEntry refreshAll (Reachable.benchLent false .default) 0 ∧
      SweepsFrame pushEntry pushBackAll (Reachable.benchLent false .default) 0 := by
  have hd : Reachable.benchStart.depth = 0 := rfl
  have hframes : (Reachable.benchLent false .default).calls.frames = [⟨0, 1⟩] := by
    decide +kernel
  exact ⟨hd, (sweeps_current_frame _).1 hd, hframes,
    (sweeps_current_frame _).2 ⟨0, 1⟩ [] hframes⟩

end Bridge

end ArrayBridge
