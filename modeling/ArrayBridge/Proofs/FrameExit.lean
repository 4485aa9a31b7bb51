import ArrayBridge.Proofs.CacheHit
import Mathlib.Data.List.Basic

/-
  Exiting a call. The innermost frame's entries are finished in slot order with `copyBack`; a
  failure is noted and passed over, and the first failure in slot order is reported once the
  frame is gone. Slots below the frame's mark keep exactly what they held, tombstones included.

  What the runtime sees is a `Host.Finishes` run: the entries finished, in order, with only log
  records between them, and the first failure. `releaseFrom_finishes` says that releasing a run of
  slots is such a run over the slots' live entries and tombstones exactly those slots.

  Main statement: `exitCall_finishes_frame`.
-/

namespace ArrayBridge

/-- From `h` to `h'` the runtime finishes the entries `es` in order with `copyBack`, with only
    log records between and after; a failure is passed over, and `first` is the first one. -/
inductive Host.Finishes {σ Obj Arr Pin : Type} [Host σ Obj Arr Pin] :
    List (Entry Obj Arr Pin) → σ → σ → Option Fault → Prop
  | nil {h h' : σ} : Host.Logged h h' → Host.Finishes [] h h' none
  | done {e es} {h h₁ h₂ h' : σ} {first : Option Fault} : Host.Logged h h₁ →
      Codec.release e .copyBack h₁ = .ok () h₂ → Host.Finishes es h₂ h' first →
      Host.Finishes (e :: es) h h' first
  | failed {e es} {h h₁ h₂ h' : σ} {f : Fault} {first : Option Fault} : Host.Logged h h₁ →
      Codec.release e .copyBack h₁ = .error (.fault f) h₂ → Host.Finishes es h₂ h' first →
      Host.Finishes (e :: es) h h' (some f)

namespace Host.Finishes

variable {σ Obj Arr Pin : Type} [Host σ Obj Arr Pin] {es : List (Entry Obj Arr Pin)}
  {h h' h'' : σ} {first : Option Fault}

/-- Log records kept before a run belong to it. -/
theorem logged_before (hl : Host.Logged h h') (hf : Host.Finishes es h' h'' first) :
    Host.Finishes es h h'' first := by
  cases hf with
  | nil hl' => exact .nil (hl.trans hl')
  | done hl' hr hrest => exact .done (hl.trans hl') hr hrest
  | failed hl' hr hrest => exact .failed (hl.trans hl') hr hrest

/-- Log records kept after a run belong to it. -/
theorem logged_after (hf : Host.Finishes es h h' first) (hl : Host.Logged h' h'') :
    Host.Finishes es h h'' first := by
  induction hf with
  | nil hl' => exact .nil (hl'.trans hl)
  | done hl' hr _ ih => exact .done hl' hr (ih hl)
  | failed hl' hr _ ih => exact .failed hl' hr (ih hl)

end Host.Finishes

namespace Op

variable {σ α β : Type}

theorem bind_pure_eq_ok {m : Op σ α} {g : α → β} {s s' : σ} {c : β} :
    (m >>= fun a => pure (g a)) s = .ok c s' ↔ ∃ a, m s = .ok a s' ∧ c = g a := by
  rw [bind_apply]
  cases m s with
  | ok a s₁ => simp [eq_comm, and_comm]
  | error e s₁ => simp

theorem bind_pure_eq_error {m : Op σ α} {g : α → β} {s s' : σ} {e : Stop} :
    (m >>= fun a => pure (g a)) s = .error e s' ↔ m s = .error e s' := by
  rw [bind_apply]
  cases m s with
  | ok a s₁ => simp
  | error e' s₁ => simp

end Op

namespace Bridge

variable {σ Obj Arr Pin : Type} [Host σ Obj Arr Pin]

open Op

/-! ## Releasing one slot -/

theorem releaseEntry_of_dead {index : Nat} (mode : ReleaseMode) {b : Bridge σ Obj Arr Pin}
    (he : b.table.get? index = none) : releaseEntry index mode b = .ok false b := by
  have htake : b.table.take index = (none, b.table) := by
    unfold Table.take
    rw [he]
  unfold releaseEntry
  rw [bind_apply, get_apply]
  dsimp only
  rw [htake]
  rfl

omit [Host σ Obj Arr Pin] in
/-- A runtime call whose answer is dropped for `a`. -/
theorem onHost_bind_pure_apply {α β : Type} (m : Op σ α) (a : β) (b : Bridge σ Obj Arr Pin) :
    (onHost m >>= fun _ => pure a) b = match m b.host with
      | .ok _ h => .ok a { b with host := h }
      | .error s h => .error s { b with host := h } := by
  simp only [onHost, Op.focus, bind_apply]
  cases m b.host <;> rfl

/-- Releasing a live slot tombstones it, keeps a record, and leaves the rest to the runtime's
    release of its entry. -/
theorem releaseEntry_of_live {index : Nat} (mode : ReleaseMode) {b : Bridge σ Obj Arr Pin}
    {e : Entry Obj Arr Pin} (he : b.table.get? index = some e) :
    ∃ h₁, Host.Logged b.host h₁ ∧ releaseEntry index mode b =
      match Codec.release e mode h₁ with
      | .ok _ h₂ => .ok true { b with table := (b.table.take index).2, host := h₂ }
      | .error s h₂ => .error s { b with table := (b.table.take index).2, host := h₂ } := by
  have htake : b.table.take index = (some e, (b.table.take index).2) := by
    rw [← Table.fst_take] at he
    rw [← he]
  refine ⟨Host.log .trace mirrorTarget
    s!"releaseNativeArray(x={Host.showObject b.host e.object}, ix={index}, kind={e.kind.name}, mode={mode.title})"
    b.host, .single ⟨_, _, _, rfl⟩, ?_⟩
  unfold releaseEntry
  rw [bind_apply, get_apply]
  dsimp only
  rw [htake]
  dsimp only
  rw [bind_apply, set_apply]
  dsimp only
  rw [bind_apply, note_apply]
  dsimp only
  rw [onHost_bind_pure_apply]
  dsimp only
  split
  · next heq => rw [heq]
  · next heq => rw [heq]

/-! ## Releasing a run of slots -/

/-- One step of releasing a run of slots: a fault of the first release is noted and becomes
    the answer, any other stop unwinds. -/
theorem releaseFrom_succ (index count : Nat) (b : Bridge σ Obj Arr Pin) :
    releaseFrom index (count + 1) b =
      match attempt (releaseEntry index .copyBack) b with
      | .ok (.ok _) b₁ => releaseFrom (index + 1) count b₁
      | .ok (.error f) b₁ => (releaseFrom (index + 1) count >>= fun _ => pure (some f))
          { b₁ with host := (Host.log .error callsTarget
              s!"callExit: release of entry {index} failed: {f.message}" b₁.host) }
      | .error s b₁ => .error s b₁ := by
  rw [releaseFrom.eq_2, bind_apply]
  rcases attempt (releaseEntry index .copyBack) b with ⟨f | _, b₁⟩ | ⟨s, b₁⟩
  · dsimp only
    rw [bind_apply, note_apply]
    dsimp only
    rw [bind_apply, pure_apply]
    dsimp only
    rw [bind_apply, bind_apply]
    split <;> rfl
  · dsimp only
    rw [bind_apply, pure_apply]
    dsimp only
    rw [bind_apply]
    cases releaseFrom (index + 1) count b₁ <;> rfl
  · rfl

/-- Releasing slots never fails with a fault: each failure is caught and noted. -/
theorem releaseFrom_ne_fault (index count : Nat) (b : Bridge σ Obj Arr Pin) (f : Fault)
    (b' : Bridge σ Obj Arr Pin) : releaseFrom index count b ≠ .error (.fault f) b' := by
  induction count generalizing index b with
  | zero => intro h; cases h
  | succ count ih =>
    intro h
    rw [releaseFrom_succ, attempt_apply] at h
    rcases hr : releaseEntry index .copyBack b with ⟨a, b₁⟩ | ⟨s, b₁⟩
    · rw [hr] at h
      exact ih (index + 1) b₁ h
    · rw [hr] at h
      cases s with
      | fault f' => exact ih (index + 1) _ (bind_pure_eq_error.mp h)
      | _ => cases h

/-- Releasing the slots `index, …, index + count - 1` finishes their live entries in slot
    order, passing over failures, and answers the first failure; it tombstones exactly those
    slots and changes nothing else the bridge owns. -/
theorem releaseFrom_finishes {index count : Nat} {b b' : Bridge σ Obj Arr Pin}
    {first : Option Fault} (h : releaseFrom index count b = .ok first b') :
    Host.Finishes ((List.range' index count).filterMap b.table.get?) b.host b'.host first ∧
      b' = { b with table := b'.table, host := b'.host } ∧
      b'.table.slots.size = b.table.slots.size ∧
      ∀ j, (j < index ∨ index + count ≤ j) → b'.table.slots[j]? = b.table.slots[j]? := by
  induction count generalizing index b first with
  | zero =>
    cases h
    exact ⟨.nil .refl, rfl, rfl, fun _ _ => rfl⟩
  | succ count ih =>
    have hafter : ∀ t : Table (Entry Obj Arr Pin),
        (List.range' (index + 1) count).filterMap (t.take index).2.get? =
          (List.range' (index + 1) count).filterMap t.get? := by
      intro t
      refine List.filterMap_congr fun j hj => ?_
      have hne : index ≠ j := by
        obtain ⟨k, _, rfl⟩ := List.mem_range'.mp hj
        omega
      rw [Table.get?_take, if_neg hne]
    have houtside : ∀ (t t' : Table (Entry Obj Arr Pin)),
        t'.slots.size = (t.take index).2.slots.size →
        (∀ j, (j < index + 1 ∨ index + 1 + count ≤ j) →
          t'.slots[j]? = (t.take index).2.slots[j]?) →
        t'.slots.size = t.slots.size ∧
          ∀ j, (j < index ∨ index + (count + 1) ≤ j) → t'.slots[j]? = t.slots[j]? := by
      intro t t' hsize hslots
      refine ⟨hsize.trans (Table.hwm_take t index), fun j hj => ?_⟩
      rw [hslots j (by omega), Table.getElem?_slots_take_of_ne t (by omega)]
    rw [releaseFrom_succ, attempt_apply] at h
    rw [List.range'_succ, List.filterMap_cons]
    cases hlive : b.table.get? index with
    | none =>
      rw [releaseEntry_of_dead _ hlive] at h
      obtain ⟨hfin, hb, hsize, hslots⟩ := ih h
      exact ⟨hfin, hb, hsize, fun j hj => hslots j (by omega)⟩
    | some e =>
      obtain ⟨h₁, hlog, hrel⟩ := releaseEntry_of_live .copyBack hlive
      rw [hrel] at h
      rcases hcall : Codec.release e .copyBack h₁ with ⟨u, h₂⟩ | ⟨s, h₂⟩
      · rw [hcall] at h
        obtain ⟨hfin, hb, hsize, hslots⟩ := ih h
        rw [hafter] at hfin
        obtain ⟨hsize', hslots'⟩ := houtside b.table _ hsize hslots
        exact ⟨.done hlog hcall hfin, by rw [hb], hsize', hslots'⟩
      · rw [hcall] at h
        cases s with
        | fault f =>
          obtain ⟨rest, hrest, rfl⟩ := bind_pure_eq_ok.mp h
          obtain ⟨hfin, hb, hsize, hslots⟩ := ih hrest
          rw [hafter] at hfin
          obtain ⟨hsize', hslots'⟩ := houtside b.table _ hsize hslots
          exact ⟨.failed hlog hcall (hfin.logged_before (.single ⟨_, _, _, rfl⟩)), by rw [hb],
            hsize', hslots'⟩
        | _ => cases h

/-! ## Exiting a call -/

/-- With a frame on top, once the releases of its slots have returned, exiting truncates the
    table at the frame's mark, pops the frame and keeps a record; the first failure of a release
    is the answer. -/
theorem exitCall_of_released {b b₁ : Bridge σ Obj Arr Pin} {frame : Frame} {rest : List Frame}
    (hframes : b.calls.frames = frame :: rest) {first : Option Fault}
    (hrel : releaseFrom frame.mark (b.hwm - frame.mark) b = .ok first b₁) :
    ∃ h', Host.Logged b₁.host h' ∧ exitCall b = first.elim
      (.ok () { b₁ with table := b₁.table.truncate frame.mark, calls := b₁.calls.pop.2, host := h' })
      fun f => .error (.fault f)
        { b₁ with table := b₁.table.truncate frame.mark, calls := b₁.calls.pop.2, host := h' } := by
  have hcurrent : b.calls.current = some frame := by simp [CallStack.current, hframes]
  refine ⟨Host.log .debug callsTarget
    s!"callExit: depth {b₁.calls.pop.2.depth}, released {b.hwm - frame.mark} slots" b₁.host,
    .single ⟨_, _, _, rfl⟩, ?_⟩
  unfold exitCall
  rw [bind_apply, get_apply]
  dsimp only
  rw [hcurrent]
  dsimp only
  rw [bind_apply, get_apply]
  dsimp only
  rw [bind_apply, hrel]
  dsimp only
  rw [bind_apply, modify_apply]
  dsimp only
  rw [bind_apply, get_apply]
  dsimp only
  rw [bind_apply, note_apply]
  cases first <;> rfl

omit [Host σ Obj Arr Pin] in
/-- Truncating at `m` a table whose slots below `m` are those of `t` leaves exactly `t`'s
    slots below `m`. -/
theorem slots_truncate_of_agree {t t' : Table (Entry Obj Arr Pin)} {m : Nat}
    (hsize : t'.slots.size = t.slots.size) (hagree : ∀ j, j < m → t'.slots[j]? = t.slots[j]?) :
    (t'.truncate m).slots = t.slots.extract 0 m := by
  apply Array.ext_getElem?
  intro j
  simp only [Table.truncate, Array.getElem?_extract, hsize, Nat.sub_zero, Nat.zero_add]
  split
  · exact hagree j (by omega)
  · rfl

/-- When the releases of the frame's slots unwind, so does the exit, where they stopped. -/
theorem exitCall_of_unwound {b b₁ : Bridge σ Obj Arr Pin} {frame : Frame} {rest : List Frame}
    (hframes : b.calls.frames = frame :: rest) {s : Stop}
    (hrel : releaseFrom frame.mark (b.hwm - frame.mark) b = .error s b₁) :
    exitCall b = .error s b₁ := by
  have hcurrent : b.calls.current = some frame := by simp [CallStack.current, hframes]
  unfold exitCall
  rw [bind_apply, get_apply]
  dsimp only
  rw [hcurrent]
  dsimp only
  rw [bind_apply, get_apply]
  dsimp only
  rw [bind_apply, hrel]

theorem exitCall_of_idle {b : Bridge σ Obj Arr Pin} (hframes : b.calls.frames = []) :
    exitCall b = .error (.fault (.noActiveCall "exit-call")) b := by
  have hcurrent : b.calls.current = none := by simp [CallStack.current, hframes]
  unfold exitCall
  rw [bind_apply, get_apply]
  dsimp only
  rw [hcurrent]
  rfl

end Bridge

namespace Reachable

variable {σ Obj Arr Pin : Type} [Host σ Obj Arr Pin] {env : σ → σ → Prop}

open Bridge

/-- In a reachable bridge, exiting with no call in flight fails with `noActiveCall` and changes
    nothing. With a frame of mark `m` on top, the releases leave every slot from `m` on a
    tombstone before the table is truncated. When the exit answers or fails with a fault, it has
    finished with `copyBack`, in slot order and with only log records between, exactly the
    entries live from `m` up to the high-water mark, passing over failures, and answers the
    first failure or nothing; the frame is popped and the frames around it kept, and the table
    holds exactly its slots below `m`, tombstones included, so its high-water mark is `m`. -/
theorem exitCall_finishes_frame {b : Bridge σ Obj Arr Pin} (hb : Reachable env b) :
    (b.depth = 0 → exitCall b = .error (.fault (.noActiveCall "exit-call")) b) ∧
    ∀ frame rest, b.calls.frames = frame :: rest →
      (∀ first b₁, releaseFrom frame.mark (b.hwm - frame.mark) b = .ok first b₁ →
        b₁.table.deadFrom frame.mark = true) ∧
      ∀ b', (exitCall b = .ok () b' ∨ ∃ f, exitCall b = .error (.fault f) b') →
        ∃ h first,
          Host.Finishes ((List.range' frame.mark (b.hwm - frame.mark)).filterMap b.table.get?)
            b.host h first ∧ Host.Logged h b'.host ∧
          exitCall b = first.elim (.ok () b') (fun f => .error (.fault f) b') ∧
          b'.calls.frames = rest ∧ b'.depth = b.depth - 1 ∧ b'.hwm = frame.mark ∧
          b'.table.slots = b.table.slots.extract 0 frame.mark := by
  refine ⟨fun hd => exitCall_of_idle (List.eq_nil_of_length_eq_zero hd),
    fun frame rest hframes => ⟨fun first b₁ h₁ =>
      (Table.deadFrom_iff _ _).mpr (releaseFrom_frame_dead h₁), fun b' hexit => ?_⟩⟩
  have hmark : frame.mark ≤ b.hwm :=
    hb.stacked.nested.forall_mark_le frame (by rw [hframes]; exact List.mem_cons_self ..)
  cases hr : releaseFrom frame.mark (b.hwm - frame.mark) b with
  | error s b₁ =>
    -- the releases catch every fault, so an exit that answers cannot have unwound there
    exfalso
    rw [exitCall_of_unwound hframes hr] at hexit
    rcases hexit with h | ⟨f, h⟩
    · cases h
    · cases h
      exact releaseFrom_ne_fault _ _ _ _ _ hr
  | ok first b₁ =>
    obtain ⟨hfin, hb₁, hsize, hslots⟩ := releaseFrom_finishes hr
    obtain ⟨h', hlog, hexit'⟩ := exitCall_of_released hframes hr
    obtain rfl : b' =
        { b₁ with table := b₁.table.truncate frame.mark, calls := b₁.calls.pop.2, host := h' } := by
      rw [hexit'] at hexit
      cases first <;> rcases hexit with h | ⟨f, h⟩ <;> cases h <;> rfl
    have hcalls : b₁.calls = b.calls := by rw [hb₁]
    have hhwm : b₁.table.hwm = b.table.hwm := hsize
    refine ⟨b₁.host, first, hfin, hlog, hexit', ?_, ?_, ?_,
      slots_truncate_of_agree hsize fun j hj => hslots j (Or.inl hj)⟩
    · simp [CallStack.pop, hcalls, hframes]
    · simp [depth, CallStack.depth, CallStack.pop, hcalls, hframes]
    · change (b₁.table.truncate frame.mark).hwm = frame.mark
      rw [Table.hwm_truncate, hhwm]
      exact Nat.min_eq_left hmark

theorem exitCall_finishes_frame_benchLent :
    Reachable (fun _ _ => True) (benchLent false .default) ∧
      ((benchLent false .default).depth = 0 → exitCall (benchLent false .default) =
          .error (.fault (.noActiveCall "exit-call")) (benchLent false .default)) ∧
      ∀ frame rest, (benchLent false .default).calls.frames = frame :: rest →
        (∀ first b₁, releaseFrom frame.mark ((benchLent false .default).hwm - frame.mark)
            (benchLent false .default) = .ok first b₁ → b₁.table.deadFrom frame.mark = true) ∧
        ∀ b', (exitCall (benchLent false .default) = .ok () b' ∨
            ∃ f, exitCall (benchLent false .default) = .error (.fault f) b') →
          ∃ h first,
            Host.Finishes ((List.range' frame.mark ((benchLent false .default).hwm - frame.mark)).filterMap
              (benchLent false .default).table.get?) (benchLent false .default).host h first ∧
            Host.Logged h b'.host ∧
            exitCall (benchLent false .default) = first.elim (.ok () b') (fun f => .error (.fault f) b') ∧
            b'.calls.frames = rest ∧ b'.depth = (benchLent false .default).depth - 1 ∧
            b'.hwm = frame.mark ∧
            b'.table.slots = (benchLent false .default).table.slots.extract 0 frame.mark := by
  have hb := reachable_benchLent false .default rfl (fun _ _ => True)
  exact ⟨hb, exitCall_finishes_frame hb⟩

end Reachable

end ArrayBridge
