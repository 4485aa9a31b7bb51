import ArrayBridge.Proofs.Acquire
import ArrayBridge.Proofs.RefCache
import Mathlib

/-
  Capacities. The table of lent buffers and the cache of long-lived references each start with
  room for their configured size, and at least one slot, and grow only by doubling when an entry
  is appended to a full one. In every reachable bridge each capacity is the configured size
  times a power of two and at least the high-water mark (`Table.Sized`), and no step lowers it:
  truncating the table at a frame's exit keeps its capacity.

  The table doubles on exactly the acquires that pass the depth and validation checks and find
  no live entry of the object, when it is full; room is made before the extraction, so it
  doubles then whether or not the extraction succeeds (`lend_rooms`). The reference cache
  doubles on exactly the creations that pass validation and find no live slot of the object,
  when it is full, whether or not the runtime then makes the reference (`addRef_reserves`).
  Every other request keeps both capacities (`Request.steady`).

  Main statement: `capacities_double`.
-/

namespace ArrayBridge

namespace Table

variable {ε : Type} {c : Nat} {t t' : Table ε}

/-- A table grown from room for `c` slots by doubling alone: its capacity is the first capacity
    `max 1 c` times a power of two, and no slot lies at or above it. -/
structure Sized (c : Nat) (t : Table ε) : Prop where
  pow : ∃ k, t.capacity = max 1 c * 2 ^ k
  hwm_le : t.hwm ≤ t.capacity

theorem sized_withCapacity (c : Nat) : (withCapacity c : Table ε).Sized c :=
  ⟨⟨0, by simp [withCapacity]⟩, Nat.zero_le _⟩

theorem Sized.pos (h : t.Sized c) : 0 < t.capacity := by
  obtain ⟨k, hk⟩ := h.pow
  rw [hk]
  exact Nat.mul_pos (by omega) (Nat.two_pow_pos k)

/-- Making room in a table that has some doubles it exactly when it is full. -/
theorem capacity_reserve_of_pos (hpos : 0 < t.capacity) :
    t.reserve.capacity = if t.hwm = t.capacity then 2 * t.capacity else t.capacity := by
  rw [capacity_reserve, Nat.max_eq_right hpos]
  split <;> omega

theorem capacity_reserve_of_room (hroom : t.hwm ≠ t.capacity) : t.reserve.capacity = t.capacity := by
  rw [capacity_reserve, if_neg hroom]

theorem capacity_le_reserve (t : Table ε) : t.capacity ≤ t.reserve.capacity := by
  rw [capacity_reserve]
  split <;> omega

theorem Sized.reserve_full (h : t.Sized c) (hfull : t.hwm = t.capacity) :
    t.reserve.capacity = 2 * t.capacity := by
  rw [capacity_reserve_of_pos h.pos, if_pos hfull]

/-- A table that keeps the capacity and fills no further slot keeps its size. -/
theorem Sized.of_capacity (h : t.Sized c) (hcap : t'.capacity = t.capacity) (hhwm : t'.hwm ≤ t.hwm) :
    t'.Sized c where
  pow := by
    rw [hcap]
    exact h.pow
  hwm_le := by
    rw [hcap]
    exact Nat.le_trans hhwm h.hwm_le

/-- Making room and then filling at most one more slot keeps a table's size: the room made is
    either none or one doubling. -/
theorem Sized.grow (h : t.Sized c) (hcap : t'.capacity = t.reserve.capacity)
    (hhwm : t'.hwm ≤ t.hwm + 1) : t'.Sized c where
  pow := by
    obtain ⟨k, hk⟩ := h.pow
    rw [hcap, capacity_reserve_of_pos h.pos]
    split
    · exact ⟨k + 1, by rw [hk, Nat.pow_succ, Nat.mul_comm 2, Nat.mul_assoc]⟩
    · exact ⟨k, hk⟩
  hwm_le := by
    have hpos := h.pos
    have hle := h.hwm_le
    rw [hcap, capacity_reserve_of_pos hpos]
    split <;> omega

end Table

namespace Bridge

variable {σ Obj Arr Pin : Type}

/-- Both tables of a bridge are sized from its configuration. -/
structure Sized (b : Bridge σ Obj Arr Pin) : Prop where
  table : b.table.Sized b.config.tableCapacity
  refs : b.refs.Sized b.config.refCapacity

/-- `b'` keeps the configuration and both capacities of `b`, and fills no further slot of
    either table. -/
structure Steady (b b' : Bridge σ Obj Arr Pin) : Prop where
  config : b'.config = b.config
  tableCapacity : b'.table.capacity = b.table.capacity
  refsCapacity : b'.refs.capacity = b.refs.capacity
  tableHwm : b'.table.hwm ≤ b.table.hwm
  refsHwm : b'.refs.hwm ≤ b.refs.hwm

theorem Steady.refl (b : Bridge σ Obj Arr Pin) : Steady b b :=
  ⟨rfl, rfl, rfl, Nat.le_refl _, Nat.le_refl _⟩

theorem Steady.trans {b₁ b₂ b₃ : Bridge σ Obj Arr Pin} (h₁ : Steady b₁ b₂) (h₂ : Steady b₂ b₃) :
    Steady b₁ b₃ :=
  ⟨h₂.config.trans h₁.config, h₂.tableCapacity.trans h₁.tableCapacity,
    h₂.refsCapacity.trans h₁.refsCapacity, Nat.le_trans h₂.tableHwm h₁.tableHwm,
    Nat.le_trans h₂.refsHwm h₁.refsHwm⟩

theorem Steady.of_chain {b b' : Bridge σ Obj Arr Pin} (h : Relation.ReflTransGen Steady b b') :
    Steady b b' := by
  induction h with
  | refl => exact Steady.refl b
  | tail _ hstep ih => exact ih.trans hstep

theorem Sized.steady {b b' : Bridge σ Obj Arr Pin} (hs : b.Sized) (h : Steady b b') : b'.Sized where
  table := by
    rw [h.config]
    exact hs.table.of_capacity h.tableCapacity h.tableHwm
  refs := by
    rw [h.config]
    exact hs.refs.of_capacity h.refsCapacity h.refsHwm

theorem Rehosts.steady {b b' : Bridge σ Obj Arr Pin} (h : Rehosts b b') : Steady b b' :=
  ⟨h.config, by rw [h.table], by rw [h.refs], Nat.le_of_eq (by rw [h.table]),
    Nat.le_of_eq (by rw [h.refs])⟩

variable [Host σ Obj Arr Pin]

/-- The moves between table operations keep both capacities: the table and the cache they
    change keep their capacity and high-water mark. -/
theorem quiet_steady : Quiet (Steady : Bridge σ Obj Arr Pin → Bridge σ Obj Arr Pin → Prop) where
  note _ _ _ _ := (leads_note ..).mono fun _ _ => Rehosts.steady
  slots _ _ hslots hcap :=
    ⟨rfl, hcap, rfl, Nat.le_of_eq (congrArg Array.size hslots), Nat.le_refl _⟩
  cache _ _ hhwm hcap := ⟨rfl, rfl, hcap, Nat.le_refl _, Nat.le_of_eq hhwm⟩
  deleteRef _ _ := (leads_onHost _).mono fun _ _ => Rehosts.steady
  pushBack _ _ _ _ := (leads_onHost _).mono fun _ _ => Rehosts.steady

section Steady

open Op

variable {b : Bridge σ Obj Arr Pin}

omit [Host σ Obj Arr Pin] in
theorem steady_onHost {α : Type} (m : Op σ α) : Leads Steady b (onHost m) :=
  (leads_onHost m).mono fun _ _ => Rehosts.steady

theorem steady_releaseEntry (index : Nat) (mode : ReleaseMode) :
    Leads Steady b (releaseEntry index mode) :=
  leads_releaseEntry_of quiet_steady.note index mode
    (fun _ _ => ⟨rfl, Table.capacity_take .., rfl, Nat.le_of_eq (Table.hwm_take ..), Nat.le_refl _⟩)
    fun _ _ => steady_onHost _

theorem steady_enterCall (token : Nat) : Leads Steady b (enterCall token) :=
  leads_enterCall_of quiet_steady.note token fun _ _ _ =>
    ⟨rfl, rfl, rfl, Nat.le_refl _, Nat.le_refl _⟩

/-- Exiting a call truncates the table, which keeps its capacity. -/
theorem steady_exitCall : Leads Steady b (exitCall : Op (Bridge σ Obj Arr Pin) Unit) :=
  leads_exitCall_of quiet_steady.note
    (quiet_steady.releaseFrom fun _ i => steady_releaseEntry i _)
    fun _ _ _ _ _ => ⟨rfl, rfl, rfl, (Table.hwm_truncate _ _).trans_le (Nat.min_le_right _ _),
      Nat.le_refl _⟩

theorem steady_refreshEntry (index : Nat) : Leads Steady b (refreshEntry index) := by
  refine leads_refreshEntry_of quiet_steady (fun _ _ _ => steady_onHost _)
    (fun _ _ => steady_onHost _) (fun _ _ _ _ _ _ => steady_onHost _) ?_ ?_ index
  · intro b index live kind array buffer h' _ _
    exact ⟨rfl, rfl, rfl, Nat.le_of_eq (Table.hwm_update ..), Nat.le_refl _⟩
  · intro b index stale _
    exact Leads.set_bind ⟨rfl, Table.capacity_take .., rfl, Nat.le_of_eq (Table.hwm_take ..),
      Nat.le_refl _⟩ (steady_onHost _)

end Steady

/-! ## The requests that make room -/

section Rooms

open Op

/-- The acquires that make room in the table: past the depth and validation checks, for an
    object that no live entry stands for. -/
def AcquireMisses (b : Bridge σ Obj Arr Pin) (o : Obj) : Prop :=
  b.depth ≠ 0 ∧ (b.config.validateRefs = true → Host.isValidRef b.host o = true) ∧
    ∀ i e, b.table.get? i = some e → holds b.host o e = false

/-- `b'` is `b` after making room in the table and filling at most one more slot. -/
structure Rooms (b b' : Bridge σ Obj Arr Pin) : Prop where
  config : b'.config = b.config
  refs : b'.refs = b.refs
  capacity : b'.table.capacity = b.table.reserve.capacity
  hwm : b'.table.hwm ≤ b.table.hwm + 1

/-- Lending makes room in the table before it extracts, so the table keeps the room made
    whether or not the extraction succeeds. -/
theorem lend_rooms (o : Obj) (kind : ElemKind) (b : Bridge σ Obj Arr Pin) :
    Rooms b ((lend o kind).after b) := by
  rcases lend_after o kind b with hfail | ⟨array, buffer, -, hput⟩
  · refine ⟨hfail.config, hfail.refs, by rw [hfail.table], ?_⟩
    rw [hfail.table]
    exact Nat.le_succ_of_le (Nat.le_of_eq (Table.hwm_reserve _))
  · refine ⟨hput.config, hput.refs, ?_, ?_⟩
    · rw [hput.table]
      exact Table.capacity_push_reserve _ _
    · rw [hput.table]
      simp [Table.hwm_push]

/-- An acquire that misses makes room in the table; every other acquire keeps both
    capacities. -/
theorem acquire_capacity (o : Obj) (kind : ElemKind) (b : Bridge σ Obj Arr Pin) :
    (AcquireMisses b o → Rooms b ((acquire o kind).after b)) ∧
      (¬ AcquireMisses b o → Steady b ((acquire o kind).after b)) := by
  by_cases hd : b.depth = 0
  · rw [after_of_error (acquire_of_idle hd)]
    exact ⟨fun hm => absurd hd hm.1, fun _ => Steady.refl b⟩
  cases hv : (b.config.validateRefs && !Host.isValidRef b.host o) with
  | true =>
    rw [after_of_error (acquire_of_invalid kind hd hv)]
    refine ⟨fun hm => ?_, fun _ => Steady.refl b⟩
    exact Bool.noConfusion (hv.symm.trans (validates_iff.mpr hm.2.1))
  | false =>
    cases hfound : (b.table.find (holds b.host o)).1 with
    | some index =>
      obtain ⟨d, hd', hhold⟩ := Table.find_live hfound
      rw [after_eq_of_apply (acquire_of_find kind hd hv hfound hd')]
      refine ⟨fun hm => ?_, fun _ => ?_⟩
      · rw [hm.2.2 index d hd'] at hhold
        cases hhold
      · have hlookup : Steady b { b with table := (b.table.find (holds b.host o)).2 } :=
          ⟨rfl, Table.capacity_find _ _, rfl, by simp [Table.hwm], Nat.le_refl _⟩
        exact hlookup.trans (Rehosts.of_chain (leads_reuse o kind index d)).steady
    | none =>
      have hmiss : AcquireMisses b o :=
        ⟨hd, validates_iff.mp hv, (Table.find_eq_none_iff _ _).mp hfound⟩
      rw [after_eq_of_apply (acquire_of_miss hd hv hfound)]
      exact ⟨fun _ => lend_rooms o kind b, fun hm => absurd hmiss hm⟩

/-- The creations that make room in the reference cache: past validation, for an object that no
    live slot holds. -/
def CreateMisses (b : Bridge σ Obj Arr Pin) (o : Obj) : Prop :=
  (b.config.validateRefs = true → Host.isValidRef b.host o = true) ∧
    ∀ i r, b.refs.get? i = some r → Host.sameObject b.host r.ref o = false

/-- `b'` is `b` after making room in the reference cache and filling at most one more slot. -/
structure RefRooms (b b' : Bridge σ Obj Arr Pin) : Prop where
  config : b'.config = b.config
  table : b'.table = b.table
  capacity : b'.refs.capacity = b.refs.reserve.capacity
  hwm : b'.refs.hwm ≤ b.refs.hwm + 1

theorem addRef_refRooms (o : Obj) (permanent : Bool) (b : Bridge σ Obj Arr Pin) :
    RefRooms b ((addRef o permanent).after b) := by
  obtain ⟨h₁, -, hok, herr⟩ := addRef_reserves o permanent b
  cases hnew : Host.newGlobalRef o h₁ with
  | ok g h₂ =>
    obtain ⟨h₃, -, hadd⟩ := hok g h₂ hnew
    rw [after_of_ok hadd]
    exact ⟨rfl, rfl, Table.capacity_push_reserve _ _, by simp [Table.hwm_push]⟩
  | error s h₂ =>
    -- the room was made before the runtime was asked
    rw [after_of_error (herr s h₂ hnew)]
    exact ⟨rfl, rfl, rfl, by simp⟩

/-- A creation that misses makes room in the reference cache; every other creation keeps both
    capacities. -/
theorem createRef_capacity (o : Obj) (permanent : Bool) (b : Bridge σ Obj Arr Pin) :
    (CreateMisses b o → RefRooms b ((createRef o permanent).after b)) ∧
      (¬ CreateMisses b o → Steady b ((createRef o permanent).after b)) := by
  cases hvalid : (b.config.validateRefs && !Host.isValidRef b.host o) with
  | true =>
    rw [after_of_error (createRef_of_invalid hvalid permanent)]
    refine ⟨fun hm => ?_, fun _ => Steady.refl b⟩
    exact Bool.noConfusion (hvalid.symm.trans (validates_iff.mpr hm.1))
  | false =>
    rcases findRef_cases o b with ⟨i, r, h', hr, hro, -, hfind⟩ | ⟨hnone, -⟩
    · rw [after_of_ok (createRef_of_found hvalid hfind permanent)]
      refine ⟨fun hm => ?_, fun _ => (Rehosts.host b h').steady⟩
      rw [hm.2 i r hr] at hro
      cases hro
    · rw [after_eq_of_apply (createRef_of_none hnone hvalid permanent)]
      have hmiss : CreateMisses b o := ⟨validates_iff.mp hvalid, hnone⟩
      exact ⟨fun _ => addRef_refRooms o permanent b, fun hm => absurd hmiss hm⟩

omit [Host σ Obj Arr Pin] in
theorem Sized.rooms {b b' : Bridge σ Obj Arr Pin} (hs : b.Sized) (h : Rooms b b') : b'.Sized where
  table := by
    rw [h.config]
    exact hs.table.grow h.capacity h.hwm
  refs := by
    rw [h.config, h.refs]
    exact hs.refs

omit [Host σ Obj Arr Pin] in
theorem Sized.refRooms {b b' : Bridge σ Obj Arr Pin} (hs : b.Sized) (h : RefRooms b b') :
    b'.Sized where
  table := by
    rw [h.config, h.table]
    exact hs.table
  refs := by
    rw [h.config]
    exact hs.refs.grow h.capacity h.hwm

end Rooms

end Bridge

namespace Request

variable {σ Obj Arr Pin : Type} [Host σ Obj Arr Pin]

open Op Bridge

/-- Every request but an acquire and a creation of a reference keeps both capacities. -/
theorem steady {b : Bridge σ Obj Arr Pin} (r : Request Obj) (hacquire : ∀ o kind, r ≠ .acquire o kind)
    (hcreate : ∀ o permanent, r ≠ .createRef o permanent) : Steady b (r.run.after b) := by
  have drop : ∀ {α : Type} {m : Op (Bridge σ Obj Arr Pin) α}, Leads Steady b m →
      Leads Steady b (m >>= fun _ => pure ()) :=
    fun h => h.bind fun _ _ _ => leads_pure _
  refine Steady.of_chain ?_
  cases r with
  | enterCall token => exact drop (steady_enterCall token)
  | exitCall => exact steady_exitCall
  | exitToDepth depth => exact leads_exitToDepth_of (fun _ => steady_exitCall) depth
  | recoveryPoint => exact drop leads_recoveryPoint
  | acquire o kind => exact absurd rfl (hacquire o kind)
  | invalidate o => exact drop (quiet_steady.invalidate (fun _ i => steady_releaseEntry i _) o)
  | releaseEntry index mode => exact drop (steady_releaseEntry index mode)
  | refresh o => exact drop (quiet_steady.refresh (fun _ => steady_refreshEntry) o)
  | refreshAll => exact leads_refreshAll_of fun _ => steady_refreshEntry
  | pushToManaged o => exact drop (quiet_steady.pushToManaged o)
  | pushBackAll => exact quiet_steady.pushBackAll
  | createRef o permanent => exact absurd rfl (hcreate o permanent)
  | findRef o => exact drop (quiet_steady.findRef o)
  | checkRef o => exact drop (quiet_steady.checkRef o)
  | releaseRef o => exact drop (quiet_steady.releaseRef o)

theorem after_acquire (o : Obj) (kind : ElemKind) (b : Bridge σ Obj Arr Pin) :
    (Request.acquire o kind).run.after b = (Bridge.acquire o kind).after b :=
  after_bind_pure _ _ _

theorem after_createRef (o : Obj) (permanent : Bool) (b : Bridge σ Obj Arr Pin) :
    (Request.createRef o permanent).run.after b = (Bridge.createRef o permanent).after b :=
  after_bind_pure _ _ _

end Request

namespace Step

variable {σ Obj Arr Pin : Type} [Host σ Obj Arr Pin] {env : σ → σ → Prop}
  {b b' : Bridge σ Obj Arr Pin}

open Bridge

/-- What one step can do to the capacities: nothing, or make room in the table by an acquire
    that misses, or make room in the reference cache by a creation that misses. -/
theorem capacity (h : Step env b b') :
    Steady b b' ∨
      (∃ o kind, AcquireMisses b o ∧ b' = (Request.acquire o kind).run.after b ∧ Rooms b b') ∨
      (∃ o permanent, CreateMisses b o ∧ b' = (Request.createRef o permanent).run.after b ∧
        RefRooms b b') := by
  cases h with
  | request r =>
    cases r with
    | acquire o kind =>
      rw [Request.after_acquire]
      by_cases hm : AcquireMisses b o
      · exact .inr (.inl ⟨o, kind, hm, (Request.after_acquire o kind b).symm,
          (acquire_capacity o kind b).1 hm⟩)
      · exact .inl ((acquire_capacity o kind b).2 hm)
    | createRef o permanent =>
      rw [Request.after_createRef]
      by_cases hm : CreateMisses b o
      · exact .inr (.inr ⟨o, permanent, hm, (Request.after_createRef o permanent b).symm,
          (createRef_capacity o permanent b).1 hm⟩)
      · exact .inl ((createRef_capacity o permanent b).2 hm)
    | _ => exact .inl (Request.steady _ (by intro _ _ h; cases h) (by intro _ _ h; cases h))
  | runtime _ => exact .inl (Rehosts.host b _).steady
  | store cells _ _ _ => exact .inl ⟨rfl, rfl, rfl, Nat.le_of_eq (Table.hwm_update ..), Nat.le_refl _⟩

theorem sized (h : Step env b b') (hs : b.Sized) : b'.Sized := by
  rcases h.capacity with hst | ⟨_, _, _, -, hr⟩ | ⟨_, _, _, -, hr⟩
  · exact hs.steady hst
  · exact hs.rooms hr
  · exact hs.refRooms hr

/-- No step changes the configuration or lowers a capacity. -/
theorem keeps (h : Step env b b') :
    b'.config = b.config ∧ b.table.capacity ≤ b'.table.capacity ∧
      b.refs.capacity ≤ b'.refs.capacity := by
  rcases h.capacity with hst | ⟨_, _, _, -, hr⟩ | ⟨_, _, _, -, hr⟩
  · exact ⟨hst.config, Nat.le_of_eq hst.tableCapacity.symm, Nat.le_of_eq hst.refsCapacity.symm⟩
  · refine ⟨hr.config, ?_, Nat.le_of_eq (congrArg Table.capacity hr.refs).symm⟩
    rw [hr.capacity]
    exact Table.capacity_le_reserve _
  · refine ⟨hr.config, Nat.le_of_eq (congrArg Table.capacity hr.table).symm, ?_⟩
    rw [hr.capacity]
    exact Table.capacity_le_reserve _

/-- Only an acquire that misses, on a full table, changes the table's capacity. -/
theorem table_grows_only_on_miss (h : Step env b b') (hne : b'.table.capacity ≠ b.table.capacity) :
    b.table.hwm = b.table.capacity ∧
      ∃ o kind, AcquireMisses b o ∧ b' = (Request.acquire o kind).run.after b := by
  rcases h.capacity with hst | ⟨o, kind, hm, hb', hr⟩ | ⟨_, _, _, -, hr⟩
  · exact absurd hst.tableCapacity hne
  · refine ⟨?_, o, kind, hm, hb'⟩
    by_contra hroom
    exact hne (hr.capacity.trans (Table.capacity_reserve_of_room hroom))
  · exact absurd (congrArg Table.capacity hr.table) hne

/-- Only a creation that misses, on a full cache, changes the reference cache's capacity. -/
theorem refs_grow_only_on_miss (h : Step env b b') (hne : b'.refs.capacity ≠ b.refs.capacity) :
    b.refs.hwm = b.refs.capacity ∧
      ∃ o permanent, CreateMisses b o ∧ b' = (Request.createRef o permanent).run.after b := by
  rcases h.capacity with hst | ⟨_, _, _, -, hr⟩ | ⟨o, permanent, hm, hb', hr⟩
  · exact absurd hst.refsCapacity hne
  · exact absurd (congrArg Table.capacity hr.refs) hne
  · refine ⟨?_, o, permanent, hm, hb'⟩
    by_contra hroom
    exact hne (hr.capacity.trans (Table.capacity_reserve_of_room hroom))

end Step

namespace Reachable

variable {σ Obj Arr Pin : Type} [Host σ Obj Arr Pin] {env : σ → σ → Prop}

open Bridge

theorem sized {b : Bridge σ Obj Arr Pin} (hb : Reachable env b) : b.Sized := by
  induction hb with
  | start hnew =>
    obtain ⟨_, rfl⟩ := Bridge.new_eq_ok hnew
    exact ⟨Table.sized_withCapacity _, Table.sized_withCapacity _⟩
  | step _ hs ih => exact hs.sized ih

end Reachable

namespace Bridge

variable {σ Obj Arr Pin : Type} [Host σ Obj Arr Pin]

/-- The laws of a bridge's capacities: both tables are sized from the configuration; no step
    changes the configuration or lowers a capacity; an acquire that misses doubles a full table,
    whatever its extraction does, and only such an acquire changes the table's capacity; a
    creation that misses doubles a full reference cache, whatever the runtime answers, and only
    such a creation changes the cache's capacity. -/
structure CapacityLaws (env : σ → σ → Prop) (b : Bridge σ Obj Arr Pin) : Prop where
  sized : b.Sized
  keeps : ∀ b', Step env b b' → b'.config = b.config ∧ b.table.capacity ≤ b'.table.capacity ∧
    b.refs.capacity ≤ b'.refs.capacity
  tableDoubles : ∀ o kind, AcquireMisses b o → b.table.hwm = b.table.capacity →
    ((Request.acquire o kind).run.after b).table.capacity = 2 * b.table.capacity
  tableOnlyThen : ∀ b', Step env b b' → b'.table.capacity ≠ b.table.capacity →
    b.table.hwm = b.table.capacity ∧
      ∃ o kind, AcquireMisses b o ∧ b' = (Request.acquire o kind).run.after b
  refsDoubles : ∀ o permanent, CreateMisses b o → b.refs.hwm = b.refs.capacity →
    ((Request.createRef o permanent).run.after b).refs.capacity = 2 * b.refs.capacity
  refsOnlyThen : ∀ b', Step env b b' → b'.refs.capacity ≠ b.refs.capacity →
    b.refs.hwm = b.refs.capacity ∧
      ∃ o permanent, CreateMisses b o ∧ b' = (Request.createRef o permanent).run.after b

end Bridge

namespace Reachable

variable {σ Obj Arr Pin : Type} [Host σ Obj Arr Pin] {env : σ → σ → Prop}

open Bridge

/-- Every reachable bridge obeys the capacity laws. -/
theorem capacities_double {b : Bridge σ Obj Arr Pin} (hb : Reachable env b) :
    CapacityLaws env b := by
  have hs := hb.sized
  refine ⟨hs, fun _ h => h.keeps, fun o kind hm hfull => ?_, fun _ h => h.table_grows_only_on_miss,
    fun o permanent hm hfull => ?_, fun _ h => h.refs_grow_only_on_miss⟩
  · rw [Request.after_acquire, ((acquire_capacity o kind b).1 hm).capacity]
    exact hs.table.reserve_full hfull
  · rw [Request.after_createRef, ((createRef_capacity o permanent b).1 hm).capacity]
    exact hs.refs.reserve_full hfull

end Reachable

theorem capacities_double_benchLent :
    Reachable (fun _ _ => True) (Reachable.benchLent false .default) ∧
      Bridge.CapacityLaws (fun _ _ => True) (Reachable.benchLent false .default) := by
  have hb := Reachable.reachable_benchLent false .default rfl (fun _ _ => True)
  exact ⟨hb, Reachable.capacities_double hb⟩

end ArrayBridge
