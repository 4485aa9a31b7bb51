import ArrayBridge.Proofs.Scopes
import ArrayBridge.Proofs.Acquire

/-
  Invalidating an object. `invalidate o` reaches across frames: it finishes with `copyBack` every
  live entry that stands for `o`, wherever it lies in the table, in ascending slot order, and
  stops at the first release that fails (`Host.FinishesUntil`). It tombstones exactly the slots it
  finished, the failing one included, and changes no other slot, the high-water mark, the frames,
  the configuration or the reference cache (`FinishesSlots`). With validation on, an invalid
  reference is refused and nothing changes.

  Once every entry of `o` is finished, none stands for it any more, so the next acquire lends a
  fresh buffer at the high-water mark, inside the innermost frame, which that frame's exit then
  finishes; a tombstoned slot stays a tombstone while it lies below the high-water mark, so the
  exit of the frame that made it passes over it (`Reacquires`).

  Main statement: `invalidate_across_frames`.
-/

namespace ArrayBridge

/-- From `h` to `h'` the runtime finishes the entries `es` in order with `copyBack`, with only
    log records between, until one fails: `stop` is that failure, and it is the last entry's. -/
inductive Host.FinishesUntil {σ Obj Arr Pin : Type} [Host σ Obj Arr Pin] :
    List (Entry Obj Arr Pin) → σ → σ → Option Fault → Prop
  | nil {h h' : σ} : Host.Logged h h' → Host.FinishesUntil [] h h' none
  | done {e es} {h h₁ h₂ h' : σ} {stop : Option Fault} : Host.Logged h h₁ →
      Codec.release e .copyBack h₁ = .ok () h₂ → Host.FinishesUntil es h₂ h' stop →
      Host.FinishesUntil (e :: es) h h' stop
  | failed {e} {h h₁ h' : σ} {f : Fault} : Host.Logged h h₁ →
      Codec.release e .copyBack h₁ = .error (.fault f) h' → Host.FinishesUntil [e] h h' (some f)

namespace Host.FinishesUntil

variable {σ Obj Arr Pin : Type} [Host σ Obj Arr Pin] {es : List (Entry Obj Arr Pin)}
  {h h' h'' : σ} {stop : Option Fault}

theorem logged_before (hl : Host.Logged h h') (hf : Host.FinishesUntil es h' h'' stop) :
    Host.FinishesUntil es h h'' stop := by
  cases hf with
  | nil hl' => exact .nil (hl.trans hl')
  | done hl' hr hrest => exact .done (hl.trans hl') hr hrest
  | failed hl' hr => exact .failed (hl.trans hl') hr

end Host.FinishesUntil

namespace Table

variable {ε : Type}

/-- Tombstoning slot `i` leaves a tombstone there, whatever it held; an absent slot stays
    absent. -/
theorem getElem?_slots_take_self (t : Table ε) (i : Nat) :
    (t.take i).2.slots[i]? = t.slots[i]?.map fun _ => none := by
  unfold take
  split
  · next e he =>
    have hi : i < t.slots.size := lt_hwm_of_get? he
    simp [hi]
  · next he =>
    cases hs : t.slots[i]? with
    | none => rfl
    | some x =>
      cases x with
      | none => rfl
      | some e =>
        have hlive := (get?_eq_some_iff t i e).mpr hs
        rw [he] at hlive
        cases hlive

theorem filterMap_get?_take (t : Table ε) {i : Nat} {l : List Nat} (hi : i ∉ l) :
    l.filterMap (t.take i).2.get? = l.filterMap t.get? := by
  refine List.filterMap_congr fun j hj => ?_
  have hne : i ≠ j := fun hij => hi (hij ▸ hj)
  exact (get?_take _ _ _).trans (if_neg hne)

/-- The live slots a test accepts, in ascending order. -/
theorem matching_ascending (t : Table ε) (hit : ε → Bool) :
    (t.matching hit).Pairwise (· < ·) :=
  List.pairwise_lt_range.filter _

end Table

namespace Bridge

variable {σ Obj Arr Pin : Type} [Host σ Obj Arr Pin]

open Op

/-- Finishing the slots `is` in order, from `b` to `b'`: the slots `done`, the first ones of
    `is`, were finished, stopping at the first failure `stop` and only then short of all of `is`;
    exactly those slots were tombstoned, and nothing else the bridge owns changed. -/
structure FinishesSlots (is : List Nat) (b b' : Bridge σ Obj Arr Pin) (done : List Nat)
    (stop : Option Fault) : Prop where
  initial : done <+: is
  complete : stop = none → done = is
  finishes : Host.FinishesUntil (done.filterMap b.table.get?) b.host b'.host stop
  slots : ∀ j, b'.table.slots[j]? =
    if j ∈ done then b.table.slots[j]?.map (fun _ => none) else b.table.slots[j]?
  capacity : b'.table.capacity = b.table.capacity
  lastHit : b'.table.lastHit = b.table.lastHit
  calls : b'.calls = b.calls
  config : b'.config = b.config
  refs : b'.refs = b.refs

namespace FinishesSlots

variable {i : Nat} {is done : List Nat} {b b' : Bridge σ Obj Arr Pin} {stop : Option Fault}

/-- Finishing no slot. -/
theorem nil {h : σ} (hl : Host.Logged b.host h) :
    FinishesSlots [] b { b with host := h } [] none where
  initial := List.nil_prefix
  complete := fun _ => rfl
  finishes := .nil hl
  slots := fun _ => rfl
  capacity := rfl
  lastHit := rfl
  calls := rfl
  config := rfl
  refs := rfl

/-- Finishing slot `i` first, then the slots after it. -/
theorem cons {h₁ : σ} (hi : i ∉ is)
    (h : FinishesSlots is { b with table := (b.table.take i).2, host := h₁ } b' done stop)
    (hfin : Host.FinishesUntil ((i :: done).filterMap b.table.get?) b.host b'.host stop) :
    FinishesSlots (i :: is) b b' (i :: done) stop := by
  have hdone : i ∉ done := fun hmem => hi (h.initial.subset hmem)
  refine ⟨List.cons_prefix_cons.mpr ⟨rfl, h.initial⟩, (fun hstop => by rw [h.complete hstop]), hfin,
    fun j => ?_, h.capacity.trans (Table.capacity_take _ _), h.lastHit.trans (Table.lastHit_take _ _),
    h.calls, h.config, h.refs⟩
  rw [h.slots j]
  by_cases hji : j = i
  · subst hji
    simp [hdone, Table.getElem?_slots_take_self]
  · simp only [List.mem_cons, hji, false_or, Table.getElem?_slots_take_of_ne _ (Ne.symm hji)]

/-- Finishing slot `i`, whose release fails. -/
theorem failed {e : Entry Obj Arr Pin} {h₂ : σ} {f : Fault} (hlive : b.table.get? i = some e)
    (hfin : Host.FinishesUntil [e] b.host h₂ (some f)) :
    FinishesSlots (i :: is) b { b with table := (b.table.take i).2, host := h₂ } [i] (some f) := by
  refine ⟨List.cons_prefix_cons.mpr ⟨rfl, List.nil_prefix⟩, (fun h => by cases h), ?_, fun j => ?_,
    Table.capacity_take _ _, Table.lastHit_take _ _, rfl, rfl, rfl⟩
  · simpa [hlive] using hfin
  · by_cases hji : j = i
    · subst hji
      simp [Table.getElem?_slots_take_self]
    · simp [hji, Table.getElem?_slots_take_of_ne _ (Ne.symm hji)]

theorem hwm_eq (h : FinishesSlots is b b' done stop) : b'.hwm = b.hwm := by
  have hnone : ∀ j : Nat, b'.table.slots[j]? = none ↔ b.table.slots[j]? = none := by
    intro j
    rw [h.slots j]
    split <;> simp
  apply Nat.le_antisymm
  · exact Array.getElem?_eq_none_iff.mp ((hnone _).mpr (Array.getElem?_eq_none_iff.mpr (Nat.le_refl _)))
  · exact Array.getElem?_eq_none_iff.mp ((hnone _).mp (Array.getElem?_eq_none_iff.mpr (Nat.le_refl _)))

/-- A slot that is not among the finished ones keeps what it held. -/
theorem get?_of_not_mem (h : FinishesSlots is b b' done stop) {j : Nat} (hj : j ∉ done) :
    b'.table.get? j = b.table.get? j := by
  simp only [Table.get?, h.slots j, if_neg hj]

theorem get?_of_mem (h : FinishesSlots is b b' done stop) {j : Nat} (hj : j ∈ done) :
    b'.table.get? j = none := by
  simp only [Table.get?, h.slots j, if_pos hj]
  cases b.table.slots[j]? <;> rfl

end FinishesSlots

/-- Invalidating one more slot: a record, then the release of the slot. -/
theorem invalidateEach_cons (o : Obj) (i : Nat) (rest : List Nat) (b : Bridge σ Obj Arr Pin) :
    ∃ h₀, Host.Logged b.host h₀ ∧ invalidateEach o (i :: rest) b =
      (releaseEntry i .copyBack >>= fun _ => invalidateEach o rest) { b with host := h₀ } := by
  rw [invalidateEach.eq_2, bind_apply, get_apply]
  dsimp only
  rw [bind_apply, note_apply]
  exact ⟨_, .single ⟨_, _, _, rfl⟩, rfl⟩

/-- Finishing distinct slots in order, when the runtime's releases return: each release is
    preceded by a record, and the first failure ends the run. -/
theorem invalidateEach_finishes (hret : Host.Returning σ) (o : Obj) {is : List Nat}
    (hnodup : is.Nodup) (b : Bridge σ Obj Arr Pin) :
    ∃ done stop b', FinishesSlots is b b' done stop ∧
      invalidateEach o is b = stop.elim (.ok () b') fun f => .error (.fault f) b' := by
  induction is generalizing b with
  | nil => exact ⟨[], none, b, FinishesSlots.nil .refl, rfl⟩
  | cons i rest ih =>
    obtain ⟨hi, hrest⟩ := List.nodup_cons.mp hnodup
    obtain ⟨h₀, hl, hcons⟩ := invalidateEach_cons o i rest b
    rw [hcons, bind_apply]
    cases hlive : b.table.get? i with
    | none =>
      have htake : b.table.take i = (none, b.table) := by
        unfold Table.take
        rw [hlive]
      have hdead : ({ b with host := h₀ } : Bridge σ Obj Arr Pin).table.get? i = none := hlive
      rw [releaseEntry_of_dead _ hdead]
      obtain ⟨done, stop, b', hfin, hrun⟩ := ih hrest { b with host := h₀ }
      have hfin' : FinishesSlots rest { b with table := (b.table.take i).2, host := h₀ } b' done stop := by
        rw [htake]
        exact hfin
      refine ⟨i :: done, stop, b', hfin'.cons hi ?_, hrun⟩
      rw [List.filterMap_cons, hlive]
      exact hfin.finishes.logged_before hl
    | some e =>
      obtain ⟨h₁, hl₁, hrel⟩ := releaseEntry_of_live .copyBack (b := { b with host := h₀ }) hlive
      rw [hrel]
      cases hcall : Codec.release e .copyBack h₁ with
      | ok u h₂ =>
        obtain ⟨done, stop, b', hfin, hrun⟩ :=
          ih hrest { b with table := (b.table.take i).2, host := h₂ }
        refine ⟨i :: done, stop, b', hfin.cons hi ?_, hrun⟩
        have hsame := Table.filterMap_get?_take b.table (fun hmem => hi (hfin.initial.subset hmem))
        rw [List.filterMap_cons, hlive]
        exact .done (hl.trans hl₁) hcall (hsame ▸ hfin.finishes)
      | error s h₂ =>
        obtain ⟨f, rfl⟩ := Codec.release_returns hret e .copyBack h₁ s h₂ hcall
        exact ⟨[i], some f, _, FinishesSlots.failed hlive (.failed (hl.trans hl₁) hcall), rfl⟩

theorem invalidate_of_invalid {o : Obj} {b : Bridge σ Obj Arr Pin} (hon : b.config.validateRefs = true)
    (hinvalid : Host.isValidRef b.host o = false) :
    invalidate o b = .error (.fault (.invalidReference "invalidate")) b := by
  unfold invalidate
  rw [bind_apply, validate_apply, if_pos (by simp [hon, hinvalid])]

/-- Invalidating a reference that passes validation finishes the live entries of its object in
    slot order until one fails, and answers how many it finished. -/
theorem invalidate_finishes (hret : Host.Returning σ) (o : Obj) {b : Bridge σ Obj Arr Pin}
    (hvalid : b.config.validateRefs = true → Host.isValidRef b.host o = true) :
    ∃ done stop b', FinishesSlots (b.table.matching (holds b.host o)) b b' done stop ∧
      invalidate o b = stop.elim (.ok done.length b') fun f => .error (.fault f) b' := by
  have hpass : ¬ (b.config.validateRefs && !Host.isValidRef b.host o) = true :=
    Bool.eq_false_iff.mp (validates_iff.mpr hvalid)
  unfold invalidate
  rw [bind_apply, validate_apply, if_neg hpass]
  dsimp only
  rw [bind_apply, get_apply]
  dsimp only
  split
  · next hempty =>
    rw [bind_apply, note_apply]
    refine ⟨[], none, _, ?_, rfl⟩
    rw [List.isEmpty_iff.mp hempty]
    exact FinishesSlots.nil (.single ⟨_, _, _, rfl⟩)
  · obtain ⟨done, stop, b', hfin, hrun⟩ :=
      invalidateEach_finishes hret o (Table.nodup_matching _ _) b
    refine ⟨done, stop, b', hfin, ?_⟩
    rw [bind_apply, hrun]
    cases stop with
    | none => rw [hfin.complete rfl]; rfl
    | some f => rfl

/-! ## After an invalidation -/

/-- A move keeps a tombstone below the high-water mark a tombstone: a lend appends above it, an
    exit cuts the table and nothing else fills a slot. -/
theorem Move.dead {b b₂ : Bridge σ Obj Arr Pin} (hm : Move b b₂) {i : Nat}
    (hi : b.table.get? i = none) (hlt : i < b.hwm) : b₂.table.get? i = none := by
  rcases hm with hs | ⟨e, hl⟩
  · cases hs with
    | thin ht => exact ht.dead hi
    | enter _ _ _ htable _ => rw [htable]; exact hi
    | exit frame rest _ _ _ htable _ =>
      rw [htable, Table.get?_truncate]
      split
      · exact hi
      · rfl
  · rw [hl.get?_eq, if_neg (show ¬ i = b.table.hwm from Nat.ne_of_lt hlt), hi]

/-- Along moves that keep slot `i` below the high-water mark, a tombstone there stays one. -/
theorem dead_along {i : Nat} {b b₂ : Bridge σ Obj Arr Pin}
    (hrun : Relation.ReflTransGen (fun x y => Move x y ∧ i < y.hwm) b b₂)
    (hi : b.table.get? i = none) (hlt : i < b.hwm) : b₂.table.get? i = none ∧ i < b₂.hwm := by
  induction hrun with
  | refl => exact ⟨hi, hlt⟩
  | tail _ hstep ih => exact ⟨hstep.1.dead ih.1 ih.2, hstep.2⟩

/-- What a complete invalidation of `o` leaves in `b'`, for the slots `done` it tombstoned. -/
structure Reacquires (o : Obj) (b' : Bridge σ Obj Arr Pin) (done : List Nat) : Prop where
  /-- No live entry stands for `o` any more. -/
  gone : ∀ i e, b'.table.get? i = some e → holds b'.host o e = false
  /-- Inside a call, with the reference valid, acquiring `o` lends a new buffer. -/
  fresh : ∀ kind, b'.depth ≠ 0 → (b'.config.validateRefs && !Host.isValidRef b'.host o) = false →
    acquire o kind b' = lend o kind b'
  /-- An acquire that answers has appended, at the high-water mark, an entry for `o` holding a
      new extraction, among the entries the exit of the innermost frame finishes. -/
  appends : ∀ kind addr b'', acquire o kind b' = .ok addr b'' →
    ∃ e : Entry Obj Arr Pin, e.object = o ∧ e.kind = kind ∧
      (∃ h₀ h₁ : σ, Codec.extract o kind h₀ = .ok (e.array, e.buffer) h₁) ∧
      b''.table.slots = b'.table.slots.push (some e) ∧
      ∀ frame rest, b'.calls.frames = frame :: rest →
        e ∈ (List.range' frame.mark (b''.hwm - frame.mark)).filterMap b''.table.get?
  /-- A tombstoned slot stays one while it lies below the high-water mark, so releasing it then,
      as the exit of its frame does, changes nothing. -/
  skipped : ∀ i ∈ done, ∀ b₂, Relation.ReflTransGen (fun x y => Move x y ∧ i < y.hwm) b' b₂ →
    ∀ mode, releaseEntry i mode b₂ = .ok false b₂

/-- How `invalidate o` runs from `b`. -/
structure InvalidatesAcross (o : Obj) (b : Bridge σ Obj Arr Pin) : Prop where
  /-- With validation on, an invalid reference is refused and nothing changes. -/
  refused : b.config.validateRefs = true → Host.isValidRef b.host o = false →
    invalidate o b = .error (.fault (.invalidReference "invalidate")) b
  /-- Otherwise the live entries of `o`, wherever they lie, are finished in ascending slot order
      until a release fails, and their number is answered; after a complete run the next acquire
      lends afresh. -/
  finishes : (b.config.validateRefs = true → Host.isValidRef b.host o = true) →
    ∃ done stop b', FinishesSlots (b.table.matching (holds b.host o)) b b' done stop ∧
      done.Pairwise (· < ·) ∧
      invalidate o b = stop.elim (.ok done.length b') (fun f => .error (.fault f) b') ∧
      (stop = none → Reacquires o b' done)

end Bridge

namespace Reachable

variable {σ Obj Arr Pin : Type} [Host σ Obj Arr Pin] {env : σ → σ → Prop}

open Bridge

/-- In a reachable bridge whose runtime hands buffers back without stopping, identifies objects
    the same way in every state and always answers for a class name, invalidating an object runs
    as `InvalidatesAcross` says. -/
theorem invalidate_across_frames (hret : Host.Returning σ) (hid : Host.StableIdentity σ)
    (hdesc : Host.DescribeTotal σ) {b : Bridge σ Obj Arr Pin} (hb : Reachable env b) (o : Obj) :
    InvalidatesAcross o b := by
  refine ⟨invalidate_of_invalid, fun hvalid => ?_⟩
  obtain ⟨done, stop, b', hfin, hrun⟩ := invalidate_finishes hret o hvalid
  refine ⟨done, stop, b', hfin, (Table.matching_ascending _ _).sublist hfin.initial.sublist, hrun,
    fun hstop => ?_⟩
  have hall : done = b.table.matching (holds b.host o) := hfin.complete hstop
  -- the state left is the end of a request, so its frames still nest under its mark
  have hs' : Stacked b' := by
    have hthin := Thins.of_chain ((calm_thins.invalidate (fun _ i => leads_releaseEntry i _) o
      (b := b)).of_ok (by rw [hrun, hstop]; rfl))
    exact hb.stacked.thin hthin
  have gone : ∀ i e, b'.table.get? i = some e → holds b'.host o e = false := by
    intro i e he
    by_cases hi : i ∈ done
    · rw [hfin.get?_of_mem hi] at he
      cases he
    · rw [hfin.get?_of_not_mem hi] at he
      have hsame : holds b'.host o e = holds b.host o e := by
        unfold holds
        rw [hid.stable b'.host b.host]
      rw [hsame]
      cases hhold : holds b.host o e with
      | false => rfl
      | true => exact absurd (hall ▸ (Table.mem_matching _ _ _).mpr ⟨e, he, hhold⟩) hi
  have hmiss : (b'.table.find (holds b'.host o)).1 = none := (Table.find_eq_none_iff _ _).mpr gone
  refine ⟨gone, fun kind hd hv => acquire_of_miss hd hv hmiss, fun kind addr b'' hacq => ?_,
    fun i hi b₂ hrun₂ mode => ?_⟩
  · obtain ⟨array, buffer, hx, hslots, -, -, -, -, -⟩ := acquire_lends hdesc hmiss hacq
    refine ⟨⟨kind, o, array, buffer⟩, rfl, rfl, hx, hslots, fun frame rest hframes => ?_⟩
    have hmark : frame.mark ≤ b'.hwm := (hframes ▸ hs'.nested : Nested (frame :: rest) b'.hwm).mark_le
    have hhwm : b''.hwm = b'.hwm + 1 := by simp [hwm, Table.hwm, hslots]
    have hget : b''.table.get? b'.hwm = some ⟨kind, o, array, buffer⟩ := by
      simp [Table.get?, hslots, hwm, Table.hwm]
    exact List.mem_filterMap.mpr ⟨b'.hwm, List.mem_range'_1.mpr ⟨hmark, by omega⟩, hget⟩
  · -- the slot was live before, so it lies below the high-water mark, which invalidating keeps
    have hlt : i < b'.hwm := by
      obtain ⟨e, he, -⟩ := (Table.mem_matching _ _ _).mp (hfin.initial.subset hi)
      rw [hfin.hwm_eq]
      exact Table.lt_hwm_of_get? he
    exact releaseEntry_of_dead mode (dead_along hrun₂ (hfin.get?_of_mem hi) hlt).1

end Reachable

theorem invalidate_across_frames_benchLent :
    Host.Returning Bench ∧ Host.StableIdentity Bench ∧ Host.DescribeTotal Bench ∧
      Reachable (fun _ _ => True) (Reachable.benchLent false .default) ∧
      Bridge.InvalidatesAcross (⟨0, 0⟩ : Handle) (Reachable.benchLent false .default) := by
  have hb := Reachable.reachable_benchLent false .default rfl (fun _ _ => True)
  exact ⟨Bench.returning, Bench.stableIdentity, Bench.describeTotal, hb,
    Reachable.invalidate_across_frames Bench.returning Bench.stableIdentity Bench.describeTotal hb
      ⟨0, 0⟩⟩

end ArrayBridge
