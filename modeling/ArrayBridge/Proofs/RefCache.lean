import ArrayBridge.Proofs.FrameExit
import ArrayBridge.Proofs.Regions

/-
  The cache of long-lived references, over a runtime whose identity of objects is stable
  (`Host.StableIdentity`) and whose new references name the object they were made for
  (`Host.NamesObject`).

  No two live slots hold references the runtime identifies (`Bridge.RefsDistinct`): a reference
  is appended only when no live slot names its object. So a lookup answers the one live slot
  naming the object (`findRef_of_live`, `findRef_of_none`), and creating a reference answers that
  slot's reference, or makes exactly one new reference and appends it at the high-water mark
  (`createRef_of_live`, `createRef_of_none`); a reference that validation refuses is refused
  before anything else (`createRef_of_invalid`). Releasing an object clears exactly its live
  transient slots in order, deleting each slot's reference right after clearing it, and stops at
  the first deletion that fails (`releaseRef_clears`, with the runtime's side a `Host.Deletes`
  run). Slots are only appended or cleared, so along a run the high-water mark never goes down
  and a cleared slot stays clear (`Table.Extends`).

  Along a run of these operations (`RefRun`) the laws `RefCacheLaws` hold at every bridge
  (`RefRun.cache_laws`). Validation comes first: an object whose references the runtime has
  invalidated is refused even when it has a live slot (`createRef_invalidated_reference_fails`).
  Creation never upgrades a slot: a permanent request for an object that has a live transient
  reference answers that reference, still transient, and the next release deletes it
  (`permanent_request_of_transient_released`). A reference created as permanent for an object
  with no live transient reference stays a `PermanentRef` along every run on
  (`RefRun.permanent_ref_survives`).
-/

namespace ArrayBridge

/-- Every new long-lived reference names the object it was made for. -/
def Host.NamesObject (σ : Type) {Obj Arr Pin : Type} [Host σ Obj Arr Pin] : Prop :=
  ∀ (o : Obj) (h : σ) (g : Obj) (h' : σ), Host.newGlobalRef o h = .ok g h' →
    Host.sameObject h' g o = true

/-- Whether releasing `o` clears a cache slot: it is transient and names `o`. -/
def RefSlot.releasedBy {σ Obj Arr Pin : Type} [Host σ Obj Arr Pin] (h : σ) (o : Obj)
    (r : RefSlot Obj) : Bool :=
  !r.permanent && Host.sameObject h r.ref o

/-- From `h` to `h'` the runtime deleted the references held in the slots `js` of `t`, in
    order, with only log records before each; `stop` is the failure of the last deletion, if it
    failed. -/
inductive Host.Deletes {σ Obj Arr Pin : Type} [Host σ Obj Arr Pin] (t : Table (RefSlot Obj)) :
    List Nat → σ → σ → Option Stop → Prop
  | nil {h h' : σ} : Host.Logged h h' → Host.Deletes t [] h h' none
  | done {j : Nat} {js : List Nat} {r : RefSlot Obj} {h h₁ h₂ h' : σ} {stop : Option Stop} :
      t.get? j = some r → Host.Logged h h₁ → Host.deleteGlobalRef r.ref h₁ = .ok () h₂ →
      Host.Deletes t js h₂ h' stop → Host.Deletes t (j :: js) h h' stop
  | failed {j : Nat} {r : RefSlot Obj} {h h₁ h' : σ} {s : Stop} :
      t.get? j = some r → Host.Logged h h₁ → Host.deleteGlobalRef r.ref h₁ = .error s h' →
      Host.Deletes t [j] h h' (some s)

/-- Deletions read only the slots they delete. -/
theorem Host.Deletes.congr {σ Obj Arr Pin : Type} [Host σ Obj Arr Pin]
    {t t' : Table (RefSlot Obj)} {js : List Nat} {h h' : σ} {stop : Option Stop}
    (hd : Host.Deletes t js h h' stop) (hagree : ∀ j ∈ js, t'.get? j = t.get? j) :
    Host.Deletes t' js h h' stop := by
  induction hd with
  | nil hl => exact .nil hl
  | done hj hl hdel _ ih =>
    exact .done ((hagree _ List.mem_cons_self).trans hj) hl hdel
      (ih fun j hj' => hagree j (List.mem_cons_of_mem _ hj'))
  | failed hj hl hdel => exact .failed ((hagree _ List.mem_cons_self).trans hj) hl hdel

/-- Which slots a release clears does not depend on the runtime state, when identity does
    not. -/
theorem RefSlot.releasedBy_stable {σ Obj Arr Pin : Type} [Host σ Obj Arr Pin]
    (hid : Host.StableIdentity σ) (h h' : σ) (o : Obj) :
    RefSlot.releasedBy h o = RefSlot.releasedBy h' o := by
  funext r
  unfold RefSlot.releasedBy
  rw [hid.stable h h']

/-- Under a stable identity, a new reference names its object in every runtime state. -/
theorem Host.NamesObject.names {σ Obj Arr Pin : Type} [Host σ Obj Arr Pin]
    (hnames : Host.NamesObject σ) (hid : Host.StableIdentity σ) {o g : Obj} {h₁ h₂ : σ}
    (hnew : Host.newGlobalRef o h₁ = .ok g h₂) (h : σ) : Host.sameObject h g o = true := by
  rw [hid.stable h h₂]
  exact hnames o h₁ g h₂ hnew

namespace Table

variable {ε : Type}

/-- `t'` grew from `t`: its high-water mark is no lower, and each slot of `t` is as it was or
    cleared. A cleared slot of `t` is cleared in `t'` too. -/
def Extends (t t' : Table ε) : Prop :=
  t.hwm ≤ t'.hwm ∧ ∀ j < t.hwm, t'.get? j = t.get? j ∨ t'.get? j = none

theorem Extends.refl (t : Table ε) : t.Extends t :=
  ⟨Nat.le_refl _, fun _ _ => Or.inl rfl⟩

theorem Extends.trans {t₁ t₂ t₃ : Table ε} (h₁₂ : t₁.Extends t₂) (h₂₃ : t₂.Extends t₃) :
    t₁.Extends t₃ := by
  refine ⟨Nat.le_trans h₁₂.1 h₂₃.1, fun j hj => ?_⟩
  rcases h₂₃.2 j (Nat.lt_of_lt_of_le hj h₁₂.1) with h | h
  · rw [h]
    exact h₁₂.2 j hj
  · exact Or.inr h

theorem extends_of_slots {t t' : Table ε} (h : t'.slots = t.slots) : t.Extends t' :=
  ⟨by simp [hwm, h], fun j _ => Or.inl (get?_of_slots h j)⟩

theorem extends_push (t : Table ε) (e : ε) : t.Extends (t.push e).2 := by
  refine ⟨by rw [hwm_push]; omega, fun j hj => Or.inl ?_⟩
  rw [get?_push, if_neg (Nat.ne_of_lt hj)]

theorem extends_take (t : Table ε) (i : Nat) : t.Extends (t.take i).2 := by
  refine ⟨Nat.le_of_eq (hwm_take t i).symm, fun j _ => ?_⟩
  rw [get?_take]
  split
  · exact Or.inr rfl
  · exact Or.inl rfl

end Table

namespace Bridge

variable {σ Obj Arr Pin : Type} [Host σ Obj Arr Pin]

open Op

/-- No two live slots of the reference cache hold references the runtime identifies. -/
def RefsDistinct (b : Bridge σ Obj Arr Pin) : Prop :=
  ∀ i j r s, b.refs.get? i = some r → b.refs.get? j = some s →
    Host.sameObject b.host r.ref s.ref = true → i = j

omit [Host σ Obj Arr Pin] in
theorem onHost_bind_apply {α β : Type} (m : Op σ α) (f : α → Op (Bridge σ Obj Arr Pin) β)
    (b : Bridge σ Obj Arr Pin) :
    (onHost m >>= f) b = match m b.host with
      | .ok a h => f a { b with host := h }
      | .error s h => .error s { b with host := h } := by
  simp only [onHost, focus, bind_apply]
  cases m b.host <;> rfl

/-! ## Looking a reference up -/

theorem findRef_of_none {o : Obj} {b : Bridge σ Obj Arr Pin}
    (h : ∀ i r, b.refs.get? i = some r → Host.sameObject b.host r.ref o = false) :
    findRef o b = .ok none b := by
  unfold findRef
  rw [bind_apply, get_apply]
  dsimp only
  rw [(Table.firstMatch_eq_none_iff _ _).mpr h]
  rfl

/-- The lookup answers the first live slot naming `o`, keeping a trace record. -/
theorem findRef_of_first {o : Obj} {b : Bridge σ Obj Arr Pin} {i : Nat} {r : RefSlot Obj}
    (hm : b.refs.firstMatch (fun s => Host.sameObject b.host s.ref o) = some i)
    (hr : b.refs.get? i = some r) :
    findRef o b =
      .ok (some r.ref) { b with host := Host.log .trace refsTarget s!"gref: cache hit: {i}" b.host } := by
  unfold findRef
  rw [bind_apply, get_apply]
  dsimp only
  rw [hm]
  dsimp only
  rw [hr]
  rfl

/-- A lookup only keeps a log record: it answers the reference of a live slot naming `o`, or
    nothing when no live slot names `o`. -/
theorem findRef_cases (o : Obj) (b : Bridge σ Obj Arr Pin) :
    (∃ i r h', b.refs.get? i = some r ∧ Host.sameObject b.host r.ref o = true ∧
      Host.Logged b.host h' ∧ findRef o b = .ok (some r.ref) { b with host := h' }) ∨
    ((∀ i r, b.refs.get? i = some r → Host.sameObject b.host r.ref o = false) ∧
      findRef o b = .ok none b) := by
  cases hm : b.refs.firstMatch (fun s => Host.sameObject b.host s.ref o) with
  | none =>
    have hnone := (Table.firstMatch_eq_none_iff _ _).mp hm
    exact Or.inr ⟨hnone, findRef_of_none hnone⟩
  | some i =>
    obtain ⟨⟨r, hr, hro⟩, -⟩ := Table.firstMatch_eq_some hm
    exact Or.inl ⟨i, r, _, hr, hro, .single ⟨_, _, _, rfl⟩, findRef_of_first hm hr⟩

/-- The lookup of an object with a live slot answers that slot's reference, keeping a trace
    record: two live slots naming one object are one slot. -/
theorem findRef_of_live (hid : Host.StableIdentity σ) {b : Bridge σ Obj Arr Pin}
    (hd : RefsDistinct b) {i : Nat} {r : RefSlot Obj} (hi : b.refs.get? i = some r) {o : Obj}
    (hr : Host.sameObject b.host r.ref o = true) :
    ∃ h', Host.Logged b.host h' ∧ findRef o b = .ok (some r.ref) { b with host := h' } := by
  rcases findRef_cases o b with ⟨j, s, h', hs, hso, hlog, hfind⟩ | ⟨hnone, -⟩
  · have hsr : Host.sameObject b.host s.ref r.ref = true :=
      (hid.equiv b.host).trans hso ((hid.equiv b.host).symm hr)
    have hji := hd j i s r hs hi hsr
    subst hji
    rw [hi] at hs
    cases hs
    exact ⟨h', hlog, hfind⟩
  · have hno := hnone i r hi
    rw [hr] at hno
    cases hno

/-- Checking a reference answers the cached one, or the reference itself. -/
theorem checkRef_of_findRef {o : Obj} {b b' : Bridge σ Obj Arr Pin} {found : Option Obj}
    (h : findRef o b = .ok found b') : checkRef o b = .ok (found.getD o) b' := by
  unfold checkRef
  rw [bind_apply, h]
  rfl

/-! ## Creating a reference -/

theorem createRef_of_invalid {o : Obj} {b : Bridge σ Obj Arr Pin}
    (h : (b.config.validateRefs && !Host.isValidRef b.host o) = true) (permanent : Bool) :
    createRef o permanent b = .error (.fault (.invalidReference "create-global-ref")) b := by
  unfold createRef
  rw [bind_apply, validate_apply, if_pos h]

/-- Creating a reference that the lookup finds answers the reference found. -/
theorem createRef_of_found {o g : Obj} {b b' : Bridge σ Obj Arr Pin}
    (hvalid : (b.config.validateRefs && !Host.isValidRef b.host o) = false)
    (hfind : findRef o b = .ok (some g) b') (permanent : Bool) :
    createRef o permanent b = .ok g b' := by
  unfold createRef
  rw [bind_apply, validate_apply, if_neg (Bool.eq_false_iff.mp hvalid)]
  dsimp only
  rw [bind_apply, hfind]
  rfl

/-- Creating a reference for an object with a live slot answers that slot's reference. -/
theorem createRef_of_live (hid : Host.StableIdentity σ) {b : Bridge σ Obj Arr Pin}
    (hd : RefsDistinct b) {i : Nat} {r : RefSlot Obj} (hi : b.refs.get? i = some r) {o : Obj}
    (hr : Host.sameObject b.host r.ref o = true)
    (hvalid : (b.config.validateRefs && !Host.isValidRef b.host o) = false) (permanent : Bool) :
    ∃ h', Host.Logged b.host h' ∧ createRef o permanent b = .ok r.ref { b with host := h' } := by
  obtain ⟨h', hlog, hfind⟩ := findRef_of_live hid hd hi hr
  exact ⟨h', hlog, createRef_of_found hvalid hfind permanent⟩

/-- Adding a reference first reserves room in the cache, which doubles it if it is full, then
    asks the runtime for one new reference and, if it answers, appends it at the high-water
    mark. -/
theorem addRef_reserves (o : Obj) (permanent : Bool) (b : Bridge σ Obj Arr Pin) :
    ∃ h₁ : σ, Host.Logged b.host h₁ ∧
      (∀ g h₂, Host.newGlobalRef o h₁ = .ok g h₂ → ∃ h₃, Host.Logged h₂ h₃ ∧
        addRef o permanent b =
          .ok g { b with host := h₃, refs := (b.refs.reserve.push ⟨permanent, g⟩).2 }) ∧
      (∀ s h₂, Host.newGlobalRef o h₁ = .error s h₂ →
        addRef o permanent b = .error s { b with host := h₂, refs := b.refs.reserve }) := by
  unfold addRef
  rw [bind_apply, get_apply]
  dsimp only
  split
  · -- a full cache first doubles its capacity
    refine ⟨Host.log .trace refsTarget s!"gref: extending table to {b.refs.reserve.capacity}" b.host,
      .single ⟨_, _, _, rfl⟩, fun g h₂ hg => ?_, fun s h₂ hs => ?_⟩
    · exact ⟨_, .single ⟨_, _, _, rfl⟩, by
        simp only [bind_apply, set_apply, note_apply, get_apply, onHost, focus, hg, pure_apply]
        rfl⟩
    · simp only [bind_apply, set_apply, note_apply, onHost, focus, hs]
  · next hroom =>
    have hkeep : b.refs.reserve = b.refs := if_neg hroom
    rw [hkeep]
    refine ⟨b.host, .refl, fun g h₂ hg => ?_, fun s h₂ hs => ?_⟩
    · exact ⟨_, .single ⟨_, _, _, rfl⟩, by
        simp only [bind_apply, set_apply, note_apply, get_apply, onHost, focus, hg, pure_apply]
        rfl⟩
    · simp only [bind_apply, onHost, focus, hs]

/-- Adding a reference makes room if the cache is full, then asks the runtime for one new
    reference and, if it answers, appends it at the high-water mark. -/
theorem addRef_eq (o : Obj) (permanent : Bool) (b : Bridge σ Obj Arr Pin) :
    ∃ (h₁ : σ) (refs : Table (RefSlot Obj)), Host.Logged b.host h₁ ∧ refs.slots = b.refs.slots ∧
      (∀ g h₂, Host.newGlobalRef o h₁ = .ok g h₂ → ∃ h₃, Host.Logged h₂ h₃ ∧
        addRef o permanent b = .ok g { b with host := h₃, refs := (refs.push ⟨permanent, g⟩).2 }) ∧
      (∀ s h₂, Host.newGlobalRef o h₁ = .error s h₂ →
        addRef o permanent b = .error s { b with host := h₂, refs }) := by
  obtain ⟨h₁, hlog, hok, herr⟩ := addRef_reserves o permanent b
  exact ⟨h₁, b.refs.reserve, hlog, Table.slots_reserve _, hok, herr⟩

/-- Creating a reference for an object with no live slot adds one. -/
theorem createRef_of_none {o : Obj} {b : Bridge σ Obj Arr Pin}
    (hnone : ∀ i r, b.refs.get? i = some r → Host.sameObject b.host r.ref o = false)
    (hvalid : (b.config.validateRefs && !Host.isValidRef b.host o) = false) (permanent : Bool) :
    createRef o permanent b = addRef o permanent b := by
  unfold createRef
  rw [bind_apply, validate_apply, if_neg (Bool.eq_false_iff.mp hvalid)]
  dsimp only
  rw [bind_apply, findRef_of_none hnone]

/-- Creating a reference is refused by validation, answers a live slot naming the object, or,
    when no live slot names it, adds one. -/
theorem createRef_cases (o : Obj) (permanent : Bool) (b : Bridge σ Obj Arr Pin) :
    createRef o permanent b = .error (.fault (.invalidReference "create-global-ref")) b ∨
      (∃ i r h', b.refs.get? i = some r ∧ Host.sameObject b.host r.ref o = true ∧
        Host.Logged b.host h' ∧ createRef o permanent b = .ok r.ref { b with host := h' }) ∨
      ((∀ i r, b.refs.get? i = some r → Host.sameObject b.host r.ref o = false) ∧
        createRef o permanent b = addRef o permanent b) := by
  cases hvalid : (b.config.validateRefs && !Host.isValidRef b.host o) with
  | true => exact Or.inl (createRef_of_invalid hvalid permanent)
  | false =>
    rcases findRef_cases o b with ⟨i, r, h', hr, hro, hlog, hfind⟩ | ⟨hnone, -⟩
    · exact Or.inr (Or.inl ⟨i, r, h', hr, hro, hlog, createRef_of_found hvalid hfind permanent⟩)
    · exact Or.inr (Or.inr ⟨hnone, createRef_of_none hnone hvalid permanent⟩)

/-! ## Releasing an object's references -/

/-- A release that was to clear the slots `targets`, in order, went from `b` to `b'`: it
    cleared the first slots of the targets, `cleared`, all of them unless a deletion failed with
    `stop`; the runtime deleted their references in order; nothing else of the bridge changed. -/
structure ClearsRefs (targets : List Nat) (b b' : Bridge σ Obj Arr Pin) (cleared : List Nat)
    (stop : Option Stop) : Prop where
  initial : cleared <+: targets
  complete : stop = none → cleared = targets
  deletes : Host.Deletes b.refs cleared b.host b'.host stop
  slots : ∀ j, b'.refs.get? j = if j ∈ cleared then none else b.refs.get? j
  hwm_eq : b'.refs.hwm = b.refs.hwm
  rest : b' = { b with host := b'.host, refs := b'.refs }

theorem clearsRefs_nil (b : Bridge σ Obj Arr Pin) : ClearsRefs [] b b [] none where
  initial := List.nil_prefix
  complete _ := rfl
  deletes := .nil .refl
  slots j := by simp
  hwm_eq := rfl
  rest := rfl

/-- A release whose first deletion fails stops there, with that slot cleared. -/
theorem clearsRefs_failed {b : Bridge σ Obj Arr Pin} {index : Nat} {r : RefSlot Obj} {h₁ h₂ : σ}
    {s : Stop} (hr : b.refs.get? index = some r) (hlog : Host.Logged b.host h₁)
    (hdel : Host.deleteGlobalRef r.ref h₁ = .error s h₂) (targets : List Nat) :
    ClearsRefs (index :: targets) b { b with host := h₂, refs := (b.refs.take index).2 } [index]
      (some s) where
  initial := (List.prefix_cons_inj _).mpr List.nil_prefix
  complete h := by cases h
  deletes := .failed hr hlog hdel
  slots j := by
    rw [Table.get?_take]
    simp [eq_comm]
  hwm_eq := Table.hwm_take _ _
  rest := rfl

/-- A release whose first deletion succeeds goes on with the other targets. -/
theorem ClearsRefs.cons {b b' : Bridge σ Obj Arr Pin} {index : Nat} {r : RefSlot Obj}
    {h₁ h₂ : σ} {targets cleared : List Nat} {stop : Option Stop}
    (hr : b.refs.get? index = some r) (hlog : Host.Logged b.host h₁)
    (hdel : Host.deleteGlobalRef r.ref h₁ = .ok () h₂) (hindex : index ∉ targets)
    (hc : ClearsRefs targets { b with host := h₂, refs := (b.refs.take index).2 } b' cleared stop) :
    ClearsRefs (index :: targets) b b' (index :: cleared) stop where
  initial := (List.prefix_cons_inj _).mpr hc.initial
  complete h := by rw [hc.complete h]
  deletes := by
    refine .done hr hlog hdel (hc.deletes.congr fun j hj => ?_)
    have hne : index ≠ j := fun hij => hindex (hij ▸ hc.initial.subset hj)
    change b.refs.get? j = (b.refs.take index).2.get? j
    rw [Table.get?_take, if_neg hne]
  slots j := by
    rw [hc.slots j]
    change (if j ∈ cleared then none else (b.refs.take index).2.get? j) = _
    rw [Table.get?_take]
    by_cases hj : j = index
    · subst hj
      simp
    · simp [hj, Ne.symm hj]
  hwm_eq := hc.hwm_eq.trans (Table.hwm_take _ _)
  rest := by
    rw [hc.rest]

theorem releaseRefsFrom_skip {o : Obj} {index : Nat} (count : Nat) {b : Bridge σ Obj Arr Pin}
    (h : Table.accepts (RefSlot.releasedBy b.host o) (b.refs.get? index) = false) :
    releaseRefsFrom o index (count + 1) b =
      (releaseRefsFrom o (index + 1) count >>= fun rest => pure (0 + rest)) b := by
  rw [releaseRefsFrom.eq_2, bind_apply, get_apply]
  dsimp only
  cases hslot : b.refs.get? index with
  | none => rfl
  | some r =>
    rw [hslot] at h
    have hrel : (!r.permanent && Host.sameObject b.host r.ref o) = false := h
    dsimp only
    rw [if_neg (by rw [hrel]; decide)]
    rfl

theorem releaseRefsFrom_clear {o : Obj} {index : Nat} (count : Nat) {b : Bridge σ Obj Arr Pin}
    {r : RefSlot Obj} (hr : b.refs.get? index = some r) (hrel : r.releasedBy b.host o = true) :
    ∃ h₁, Host.Logged b.host h₁ ∧ releaseRefsFrom o index (count + 1) b =
      match Host.deleteGlobalRef r.ref h₁ with
      | .ok _ h₂ => (releaseRefsFrom o (index + 1) count >>= fun rest => pure (1 + rest))
          { b with host := h₂, refs := (b.refs.take index).2 }
      | .error s h₂ => .error s { b with host := h₂, refs := (b.refs.take index).2 } := by
  refine ⟨Host.log .trace refsTarget
    s!"gref: release: index {index}, gref: {Host.showObject b.host r.ref}" b.host,
    .single ⟨_, _, _, rfl⟩, ?_⟩
  rw [releaseRefsFrom.eq_2, bind_apply, get_apply]
  dsimp only
  rw [hr]
  dsimp only
  rw [if_pos (show (!r.permanent && Host.sameObject b.host r.ref o) = true from hrel)]
  rw [bind_apply, note_apply]
  dsimp only
  rw [bind_apply, modify_apply]
  dsimp only
  rw [onHost_bind_apply]
  dsimp only
  split
  · next heq =>
    rw [heq]
    rfl
  · next heq => rw [heq]

omit [Host σ Obj Arr Pin] in
/-- Adding `k` to what a release of the later slots answers. -/
theorem bind_add_elim {m : Op (Bridge σ Obj Arr Pin) Nat} {b b' : Bridge σ Obj Arr Pin}
    {n k : Nat} {stop : Option Stop} (h : m b = stop.elim (.ok n b') fun s => .error s b') :
    (m >>= fun rest => pure (k + rest)) b = stop.elim (.ok (k + n) b') fun s => .error s b' := by
  rw [bind_apply, h]
  cases stop <;> rfl

/-- Releasing `o` over a run of slots clears, in order, its live transient slots among them,
    deleting each one's reference, and stops at the first deletion that fails; it answers how
    many it cleared. -/
theorem releaseRefsFrom_clears (hid : Host.StableIdentity σ) (o : Obj) (index count : Nat)
    (b : Bridge σ Obj Arr Pin) :
    ∃ b' cleared stop,
      releaseRefsFrom o index count b = stop.elim (.ok cleared.length b') (fun s => .error s b') ∧
      ClearsRefs ((List.range' index count).filter fun j =>
        Table.accepts (RefSlot.releasedBy b.host o) (b.refs.get? j)) b b' cleared stop := by
  induction count generalizing index b with
  | zero => exact ⟨b, [], none, rfl, clearsRefs_nil b⟩
  | succ count ih =>
    rw [List.range'_succ, List.filter_cons]
    cases hacc : Table.accepts (RefSlot.releasedBy b.host o) (b.refs.get? index) with
    | false =>
      obtain ⟨b', cleared, stop, hrun, hclears⟩ := ih (index + 1) b
      refine ⟨b', cleared, stop, ?_, by simpa using hclears⟩
      rw [releaseRefsFrom_skip count hacc, bind_add_elim hrun, Nat.zero_add]
    | true =>
      obtain ⟨r, hr, hrel⟩ := Table.accepts_eq_true.mp hacc
      obtain ⟨h₁, hlog, hstep⟩ := releaseRefsFrom_clear count hr hrel
      have hindex : index ∉ (List.range' (index + 1) count).filter fun j =>
          Table.accepts (RefSlot.releasedBy b.host o) (b.refs.get? j) := by
        intro hmem
        have hrange := List.mem_range'_1.mp (List.mem_filter.mp hmem).1
        omega
      cases hdel : Host.deleteGlobalRef r.ref h₁ with
      | error s h₂ =>
        refine ⟨_, [index], some s, ?_, by simpa using clearsRefs_failed hr hlog hdel _⟩
        rw [hstep, hdel]
        rfl
      | ok u h₂ =>
        let b₂ : Bridge σ Obj Arr Pin := { b with host := h₂, refs := (b.refs.take index).2 }
        have htargets : ((List.range' (index + 1) count).filter fun j =>
            Table.accepts (RefSlot.releasedBy b₂.host o) (b₂.refs.get? j)) =
            (List.range' (index + 1) count).filter fun j =>
              Table.accepts (RefSlot.releasedBy b.host o) (b.refs.get? j) := by
          refine List.filter_congr fun j hj => ?_
          have hne : index ≠ j := by
            have hrange := List.mem_range'_1.mp hj
            omega
          change Table.accepts _ ((b.refs.take index).2.get? j) = _
          rw [Table.get?_take, if_neg hne, RefSlot.releasedBy_stable hid h₂ b.host]
        obtain ⟨b', cleared, stop, hrun, hclears⟩ := ih (index + 1) b₂
        rw [htargets] at hclears
        refine ⟨b', index :: cleared, stop, ?_, by simpa using hclears.cons hr hlog hdel hindex⟩
        rw [hstep, hdel]
        dsimp only
        rw [bind_add_elim hrun, Nat.add_comm]
        rfl

/-- Releasing `o` clears, in slot order, exactly its live transient slots, deleting each one's
    reference right after clearing it, unless a deletion fails: then it stops there, with that
    slot cleared. It answers how many it cleared. -/
theorem releaseRef_clears (hid : Host.StableIdentity σ) (o : Obj) (b : Bridge σ Obj Arr Pin) :
    ∃ b' cleared stop,
      releaseRef o b = stop.elim (.ok cleared.length b') (fun s => .error s b') ∧
      ClearsRefs (b.refs.matching (RefSlot.releasedBy b.host o)) b b' cleared stop := by
  obtain ⟨b', cleared, stop, hrun, hclears⟩ := releaseRefsFrom_clears hid o 0 b.refs.hwm b
  refine ⟨b', cleared, stop, ?_, ?_⟩
  · unfold releaseRef
    rw [bind_apply, get_apply]
    exact hrun
  · rw [Table.matching, List.range_eq_range']
    exact hclears

/-! ## What each operation does to the cache -/

/-- From `b` to `b'` the cache only grew: slots were appended or cleared, never a permanent
    one, and live references that were distinct stay distinct. -/
structure RefsGrow (b b' : Bridge σ Obj Arr Pin) : Prop where
  grows : b.refs.Extends b'.refs
  permanent : ∀ k r, b.refs.get? k = some r → r.permanent = true → b'.refs.get? k = some r
  distinct : RefsDistinct b → RefsDistinct b'

theorem RefsGrow.refl (b : Bridge σ Obj Arr Pin) : RefsGrow b b :=
  ⟨Table.Extends.refl _, fun _ _ hk _ => hk, id⟩

theorem RefsGrow.trans {b₁ b₂ b₃ : Bridge σ Obj Arr Pin} (h₁ : RefsGrow b₁ b₂)
    (h₂ : RefsGrow b₂ b₃) : RefsGrow b₁ b₃ :=
  ⟨h₁.grows.trans h₂.grows, fun k r hk hp => h₂.permanent k r (h₁.permanent k r hk hp) hp,
    h₂.distinct ∘ h₁.distinct⟩

section Stable

variable (hid : Host.StableIdentity σ)
include hid

/-- Live slots that were live before, with the same references, are as distinct as before. -/
theorem RefsDistinct.of_live {b b' : Bridge σ Obj Arr Pin} (h : RefsDistinct b)
    (hlive : ∀ j s, b'.refs.get? j = some s → b.refs.get? j = some s) : RefsDistinct b' := by
  intro i j r s hr hs hsame
  refine h i j r s (hlive i r hr) (hlive j s hs) ?_
  rw [hid.stable b.host b'.host]
  exact hsame

/-- A move that keeps the cache's slots. -/
theorem refsGrow_of_slots {b b' : Bridge σ Obj Arr Pin} (h : b'.refs.slots = b.refs.slots) :
    RefsGrow b b' where
  grows := Table.extends_of_slots h
  permanent k r hk _ := by rw [Table.get?_of_slots h]; exact hk
  distinct hd := hd.of_live hid fun j s hs => by rw [← Table.get?_of_slots h]; exact hs

/-- A release clears only transient slots. -/
theorem refsGrow_of_clears {b b' : Bridge σ Obj Arr Pin} {targets cleared : List Nat}
    {stop : Option Stop} (hc : ClearsRefs targets b b' cleared stop)
    (htransient : ∀ j ∈ targets, ∀ r, b.refs.get? j = some r → r.permanent = false) :
    RefsGrow b b' where
  grows := by
    refine ⟨Nat.le_of_eq hc.hwm_eq.symm, fun j _ => ?_⟩
    rw [hc.slots j]
    split
    · exact Or.inr rfl
    · exact Or.inl rfl
  permanent k r hk hp := by
    rw [hc.slots k, if_neg]
    · exact hk
    · intro hmem
      have := htransient k (hc.initial.subset hmem) r hk
      rw [hp] at this
      cases this
  distinct hd := hd.of_live hid fun j s hs => by
    rw [hc.slots j] at hs
    split at hs
    · cases hs
    · exact hs

/-- A new reference naming an object that no live slot names is distinct from every live one. -/
theorem RefsDistinct.push {b : Bridge σ Obj Arr Pin} (h : RefsDistinct b)
    {refs : Table (RefSlot Obj)} (hslots : refs.slots = b.refs.slots) {g : Obj}
    (hfresh : ∀ i r, b.refs.get? i = some r → Host.sameObject b.host r.ref g = false)
    (host : σ) (permanent : Bool) :
    RefsDistinct { b with host, refs := (refs.push ⟨permanent, g⟩).2 } := by
  have hhwm : refs.hwm = b.refs.hwm := by simp [Table.hwm, hslots]
  have hold : ∀ j, refs.get? j = b.refs.get? j := Table.get?_of_slots hslots
  have hsame : Host.sameObject host = Host.sameObject b.host := hid.stable host b.host
  intro i j r s hr hs hrs
  change (refs.push ⟨permanent, g⟩).2.get? i = some r at hr
  change (refs.push ⟨permanent, g⟩).2.get? j = some s at hs
  change Host.sameObject host r.ref s.ref = true at hrs
  rw [hsame] at hrs
  rw [Table.get?_push, hhwm, hold] at hr hs
  split at hr <;> split at hs
  · next hi hj => rw [hi, hj]
  · cases hr
    have := hfresh j s hs
    rw [(hid.equiv b.host).symm hrs] at this
    cases this
  · cases hs
    rw [hfresh i r hr] at hrs
    cases hrs
  · exact h i j r s hr hs hrs

end Stable

section Operations

variable (hid : Host.StableIdentity σ)
include hid

theorem refsGrow_findRef (o : Obj) (b : Bridge σ Obj Arr Pin) :
    RefsGrow b ((findRef o).after b) := by
  rcases findRef_cases o b with ⟨_, _, _, _, _, _, hfind⟩ | ⟨_, hfind⟩
  · rw [after_of_ok hfind]
    exact refsGrow_of_slots hid rfl
  · rw [after_of_ok hfind]
    exact RefsGrow.refl b

theorem refsGrow_checkRef (o : Obj) (b : Bridge σ Obj Arr Pin) :
    RefsGrow b ((checkRef o).after b) := by
  rcases findRef_cases o b with ⟨_, _, _, _, _, _, hfind⟩ | ⟨_, hfind⟩
  · rw [after_of_ok (checkRef_of_findRef hfind)]
    exact refsGrow_of_slots hid rfl
  · rw [after_of_ok (checkRef_of_findRef hfind)]
    exact RefsGrow.refl b

theorem refsGrow_releaseRef (o : Obj) (b : Bridge σ Obj Arr Pin) :
    RefsGrow b ((releaseRef o).after b) := by
  obtain ⟨b', cleared, stop, hrun, hc⟩ := releaseRef_clears hid o b
  have hafter : (releaseRef o).after b = b' := by
    cases stop with
    | none => exact after_of_ok hrun
    | some s => exact after_of_error hrun
  rw [hafter]
  refine refsGrow_of_clears hid hc fun j hj r hr => ?_
  obtain ⟨r', hr', hrel⟩ := (Table.mem_matching _ _ _).mp hj
  rw [hr] at hr'
  cases hr'
  unfold RefSlot.releasedBy at hrel
  simp only [Bool.and_eq_true, Bool.not_eq_eq_eq_not, Bool.not_true] at hrel
  exact hrel.1

variable (hnames : Host.NamesObject σ)
include hnames

theorem refsGrow_createRef (o : Obj) (permanent : Bool) (b : Bridge σ Obj Arr Pin) :
    RefsGrow b ((createRef o permanent).after b) := by
  rcases createRef_cases o permanent b with hc | ⟨_, _, _, _, _, _, hc⟩ | ⟨hnone, hc⟩
  · rw [after_of_error hc]
    exact RefsGrow.refl b
  · rw [after_of_ok hc]
    exact refsGrow_of_slots hid rfl
  · obtain ⟨h₁, refs, -, hslots, hok, herr⟩ := addRef_eq o permanent b
    cases hnew : Host.newGlobalRef o h₁ with
    | ok g h₂ =>
      obtain ⟨h₃, -, hadd⟩ := hok g h₂ hnew
      rw [after_of_ok (hc.trans hadd)]
      have hfresh : ∀ i r, b.refs.get? i = some r → Host.sameObject b.host r.ref g = false := by
        intro i r hr
        cases hrg : Host.sameObject b.host r.ref g
        · rfl
        · have hro := hnone i r hr
          rw [(hid.equiv b.host).trans hrg (hnames.names hid hnew b.host)] at hro
          cases hro
      refine ⟨(Table.extends_of_slots hslots).trans (Table.extends_push refs _), ?_,
        fun hd => hd.push hid hslots hfresh h₃ permanent⟩
      intro k r hk _
      have hk' : refs.get? k = some r := by
        rw [Table.get?_of_slots hslots]
        exact hk
      change (refs.push ⟨permanent, g⟩).2.get? k = some r
      rw [Table.get?_push, if_neg (Nat.ne_of_lt (Table.lt_hwm_of_get? hk'))]
      exact hk'
    | error s h₂ =>
      rw [after_of_error (hc.trans (herr s h₂ hnew))]
      exact refsGrow_of_slots hid hslots

/-- Creating a permanent reference for an object with no live transient slot leaves the
    reference answered in a permanent slot, and the reference names the object. -/
theorem createRef_permanent_slot {b b' : Bridge σ Obj Arr Pin} {o g : Obj}
    (hfresh : ∀ i r, b.refs.get? i = some r → Host.sameObject b.host r.ref o = true →
      r.permanent = true)
    (hcreate : createRef o true b = .ok g b') :
    Host.sameObject b.host g o = true ∧ ∃ k, b'.refs.get? k = some ⟨true, g⟩ := by
  rcases createRef_cases o true b with hc | ⟨i, r, h', hr, hro, -, hc⟩ | ⟨-, hc⟩
  · rw [hc] at hcreate
    cases hcreate
  · have hp : r.permanent = true := hfresh i r hr hro
    rw [hc] at hcreate
    cases hcreate
    refine ⟨hro, i, ?_⟩
    change b.refs.get? i = some ⟨true, r.ref⟩
    rw [hr, ← hp]
  · obtain ⟨h₁, refs, -, -, hok, herr⟩ := addRef_eq o true b
    rw [hc] at hcreate
    cases hnew : Host.newGlobalRef o h₁ with
    | ok g' h₂ =>
      obtain ⟨h₃, -, hadd⟩ := hok g' h₂ hnew
      rw [hadd] at hcreate
      cases hcreate
      refine ⟨hnames.names hid hnew b.host, refs.hwm, ?_⟩
      change (refs.push ⟨true, g⟩).2.get? refs.hwm = _
      rw [Table.get?_push, if_pos rfl]
    | error s h₂ =>
      rw [herr s h₂ hnew] at hcreate
      cases hcreate

end Operations

end Bridge

variable {σ Obj Arr Pin : Type} [Host σ Obj Arr Pin]

open Bridge

/-- One step of a run of the reference operations: creating, looking up, checking or releasing a
    long-lived reference, whatever it answers, or the runtime changing between them as `env`
    allows. -/
inductive RefStep (env : σ → σ → Prop) : Bridge σ Obj Arr Pin → Bridge σ Obj Arr Pin → Prop
  | createRef {b} (o : Obj) (permanent : Bool) : RefStep env b ((createRef o permanent).after b)
  | findRef {b} (o : Obj) : RefStep env b ((findRef o).after b)
  | checkRef {b} (o : Obj) : RefStep env b ((checkRef o).after b)
  | releaseRef {b} (o : Obj) : RefStep env b ((releaseRef o).after b)
  | runtime {b} {h : σ} : env b.host h → RefStep env b { b with host := h }

/-- The states a run of reference operations reaches from a new bridge. -/
inductive RefRun (env : σ → σ → Prop) : Bridge σ Obj Arr Pin → Prop
  | start {host : σ} {config : Config} {b} : Bridge.new host config = .ok b → RefRun env b
  | step {b b'} : RefRun env b → RefStep env b b' → RefRun env b'

theorem RefRun.steps {env : σ → σ → Prop} {b b' : Bridge σ Obj Arr Pin} (hb : RefRun env b)
    (h : Relation.ReflTransGen (RefStep env) b b') : RefRun env b' := by
  induction h with
  | refl => exact hb
  | tail _ hs ih => exact ih.step hs

/-- The laws of the reference cache at a bridge `b`, for runs on from `b` in which the runtime
    changes as `env` allows. -/
structure RefCacheLaws (env : σ → σ → Prop) (b : Bridge σ Obj Arr Pin) : Prop where
  /-- No two live slots hold references the runtime identifies. -/
  distinct : RefsDistinct b
  /-- A reference that validation refuses is refused before anything else, changing nothing. -/
  create_invalid : ∀ o permanent, (b.config.validateRefs && !Host.isValidRef b.host o) = true →
    createRef o permanent b = .error (.fault (.invalidReference "create-global-ref")) b
  /-- Creating a reference to an object with a live slot answers that slot's reference and
      keeps only log records. -/
  create_live : ∀ o permanent i r, b.refs.get? i = some r → Host.sameObject b.host r.ref o = true →
    (b.config.validateRefs && !Host.isValidRef b.host o) = false →
    ∃ h', Host.Logged b.host h' ∧ createRef o permanent b = .ok r.ref { b with host := h' }
  /-- Creating a reference to an object with no live slot asks the runtime for one new
      reference and, if it answers, appends it at the high-water mark. -/
  create_none : ∀ o permanent,
    (∀ i r, b.refs.get? i = some r → Host.sameObject b.host r.ref o = false) →
    (b.config.validateRefs && !Host.isValidRef b.host o) = false →
    ∃ (h₁ : σ) (refs : Table (RefSlot Obj)), Host.Logged b.host h₁ ∧ refs.slots = b.refs.slots ∧
      (∀ g h₂, Host.newGlobalRef o h₁ = .ok g h₂ → ∃ h₃, Host.Logged h₂ h₃ ∧
        createRef o permanent b =
          .ok g { b with host := h₃, refs := (refs.push ⟨permanent, g⟩).2 }) ∧
      (∀ s h₂, Host.newGlobalRef o h₁ = .error s h₂ →
        createRef o permanent b = .error s { b with host := h₂, refs })
  /-- Releasing an object clears its live transient slots in order, deleting each reference,
      and answers how many it cleared; a failed deletion stops it. -/
  release : ∀ o, ∃ b' cleared stop,
    releaseRef o b = stop.elim (.ok cleared.length b') (fun s => .error s b') ∧
    ClearsRefs (b.refs.matching (RefSlot.releasedBy b.host o)) b b' cleared stop
  /-- Along any run on, the high-water mark never goes down and a cleared slot stays clear. -/
  grows : ∀ b', Relation.ReflTransGen (RefStep env) b b' → b.refs.Extends b'.refs
  /-- A lookup of an object with a live slot answers that slot's reference, and so does a
      check. -/
  find_live : ∀ o i r, b.refs.get? i = some r → Host.sameObject b.host r.ref o = true →
    ∃ h', Host.Logged b.host h' ∧ findRef o b = .ok (some r.ref) { b with host := h' } ∧
      checkRef o b = .ok r.ref { b with host := h' }
  /-- A lookup of an object with no live slot answers nothing, and a check the reference
      itself. -/
  find_none : ∀ o, (∀ i r, b.refs.get? i = some r → Host.sameObject b.host r.ref o = false) →
    findRef o b = .ok none b ∧ checkRef o b = .ok o b

/-- What a permanent reference `g` for `o` is at `b`: it sits in a permanent slot, a lookup of any
    object identified with `o` answers it, and a release of any object clears no slot whose
    reference the runtime identifies with it, so deletes it nowhere. -/
structure PermanentRef (b : Bridge σ Obj Arr Pin) (o g : Obj) : Prop where
  slot : ∃ k, b.refs.get? k = some ⟨true, g⟩
  found : ∀ o₂, Host.sameObject b.host o₂ o = true →
    ∃ h', Host.Logged b.host h' ∧ findRef o₂ b = .ok (some g) { b with host := h' }
  kept : ∀ o₂, ∃ b' cleared stop,
    releaseRef o₂ b = stop.elim (.ok cleared.length b') (fun s => .error s b') ∧
    ClearsRefs (b.refs.matching (RefSlot.releasedBy b.host o₂)) b b' cleared stop ∧
    ∀ j ∈ cleared, ∀ r, b.refs.get? j = some r → Host.sameObject b.host r.ref g = false

/-- A reference in a permanent slot of a cache with distinct slots is a permanent reference for
    every object it names. -/
theorem PermanentRef.of_slot (hid : Host.StableIdentity σ) {b : Bridge σ Obj Arr Pin} {o g : Obj}
    {k : Nat} (hd : RefsDistinct b) (hk : b.refs.get? k = some ⟨true, g⟩)
    (hg : Host.sameObject b.host g o = true) : PermanentRef b o g where
  slot := ⟨k, hk⟩
  found o₂ ho₂ :=
    findRef_of_live hid hd hk ((hid.equiv b.host).trans hg ((hid.equiv b.host).symm ho₂))
  kept o₂ := by
    obtain ⟨b', cleared, stop, hrun, hc⟩ := releaseRef_clears hid o₂ b
    refine ⟨b', cleared, stop, hrun, hc, fun j hj r hr => ?_⟩
    -- a cleared slot is transient, so it is not the permanent slot `k`
    obtain ⟨r', hr', hrel⟩ := (Table.mem_matching _ _ _).mp (hc.initial.subset hj)
    rw [hr] at hr'
    cases hr'
    cases hrg : Host.sameObject b.host r.ref g
    · rfl
    · have hjk := hd j k r _ hr hk hrg
      subst hjk
      rw [hk] at hr
      cases hr
      simp [RefSlot.releasedBy] at hrel

section Runs

variable {env : σ → σ → Prop} (hid : Host.StableIdentity σ) (hnames : Host.NamesObject σ)
include hid hnames

/-- Every step only grows the cache. -/
theorem RefStep.grows {b b' : Bridge σ Obj Arr Pin} (hs : RefStep env b b') : RefsGrow b b' := by
  cases hs with
  | createRef o permanent => exact refsGrow_createRef hid hnames o permanent _
  | findRef o => exact refsGrow_findRef hid o _
  | checkRef o => exact refsGrow_checkRef hid o _
  | releaseRef o => exact refsGrow_releaseRef hid o _
  | runtime _ => exact refsGrow_of_slots hid rfl

theorem RefStep.grows_along {b b' : Bridge σ Obj Arr Pin}
    (h : Relation.ReflTransGen (RefStep env) b b') : RefsGrow b b' := by
  induction h with
  | refl => exact RefsGrow.refl _
  | tail _ hs ih => exact ih.trans (hs.grows hid hnames)

/-- No two live slots of the cache hold references the runtime identifies. -/
theorem RefRun.distinct {b : Bridge σ Obj Arr Pin} (hb : RefRun env b) : RefsDistinct b := by
  induction hb with
  | start hnew =>
    obtain ⟨_, rfl⟩ := Bridge.new_eq_ok hnew
    intro i j r s hr
    simp at hr
  | step _ hs ih => exact (hs.grows hid hnames).distinct ih

/-- The laws of the reference cache hold at every bridge of a run. -/
theorem RefRun.cache_laws {b : Bridge σ Obj Arr Pin} (hb : RefRun env b) : RefCacheLaws env b where
  distinct := hb.distinct hid hnames
  create_invalid _ permanent hvalid := createRef_of_invalid hvalid permanent
  create_live _ permanent _ _ hi hr hvalid :=
    createRef_of_live hid (hb.distinct hid hnames) hi hr hvalid permanent
  create_none o permanent hnone hvalid := by
    rw [createRef_of_none hnone hvalid permanent]
    exact addRef_eq o permanent b
  release o := releaseRef_clears hid o b
  grows _ h := (RefStep.grows_along hid hnames h).grows
  find_live _ _ _ hi hr := by
    obtain ⟨h', hlog, hfind⟩ := findRef_of_live hid (hb.distinct hid hnames) hi hr
    exact ⟨h', hlog, hfind, checkRef_of_findRef hfind⟩
  find_none _ hnone := ⟨findRef_of_none hnone, checkRef_of_findRef (findRef_of_none hnone)⟩

/-- A reference created as permanent, for an object with no live transient reference, stays a
    permanent reference for the object along every run on. -/
theorem RefRun.permanent_ref_survives {b b₁ b₂ : Bridge σ Obj Arr Pin} {o g : Obj}
    (hb : RefRun env b)
    (hfresh : ∀ i r, b.refs.get? i = some r → Host.sameObject b.host r.ref o = true →
      r.permanent = true)
    (hcreate : createRef o true b = .ok g b₁)
    (hlater : Relation.ReflTransGen (RefStep env) b₁ b₂) : PermanentRef b₂ o g := by
  obtain ⟨hg, k, hk⟩ := createRef_permanent_slot hid hnames hfresh hcreate
  have hb₁ : RefRun env b₁ := by
    have hstep := hb.step (.createRef o true)
    rwa [Op.after_of_ok hcreate] at hstep
  have hk₂ := (RefStep.grows_along hid hnames hlater).permanent k _ hk rfl
  refine PermanentRef.of_slot hid ((hb₁.steps hlater).distinct hid hnames) hk₂ ?_
  rw [hid.stable b₂.host b.host]
  exact hg

end Runs

/-- The test bench's new references name the object they were made for. -/
theorem Bench.namesObject : Host.NamesObject Bench := by
  intro o h g h' hg
  have hrest := Bench.recorded_eq_ok hg
  simp only [Op.bind_apply, Op.get_apply, Op.set_apply, Op.pure_apply] at hrest
  cases hrest
  exact beq_self_eq_true o.object

/-- A new bench bridge that validates references, over a heap holding the integer vector
    `[1, 2]` as object 0, named by reference 0. -/
def RefRun.benchStart : Bridge Bench Handle Nat Nat :=
  { host := { Bench.new true with heap := (Heap.empty.addArray (.int [1, 2])).2 },
    config := { validateRefs := true }, table := .withCapacity 64, calls := .new 16,
    refs := .withCapacity 64 }

theorem RefRun.start_benchStart (env : Bench → Bench → Prop) : RefRun env RefRun.benchStart :=
  .start (Bridge.new_of_check rfl)

/-- The bench bridge of `RefRun.benchStart` after a transient reference to object 0 was
    created: its cache holds one live slot. -/
def RefRun.benchCreated : Bridge Bench Handle Nat Nat :=
  (createRef ⟨0, 0⟩ false).after RefRun.benchStart

theorem RefRun.cache_laws_benchCreated :
    Host.StableIdentity Bench ∧ Host.NamesObject Bench ∧
      RefRun (fun _ _ => True) RefRun.benchCreated ∧
      (RefRun.benchCreated.refs.get? 0).isSome = true ∧
      RefCacheLaws (fun _ _ => True) RefRun.benchCreated := by
  have hb : RefRun (fun _ _ => True) RefRun.benchCreated :=
    (RefRun.start_benchStart _).step (.createRef _ _)
  exact ⟨Bench.stableIdentity, Bench.namesObject, hb, by decide +kernel,
    RefRun.cache_laws Bench.stableIdentity Bench.namesObject hb⟩

/-- With references validated, an object whose references the runtime has since invalidated can
    still have a live slot: creating a reference to it is refused instead of answering the
    cached one. -/
theorem createRef_invalidated_reference_fails :
    ∃ (b : Bridge Bench Handle Nat Nat) (r : RefSlot Handle),
      RefRun (fun _ _ => True) b ∧ b.refs.get? 0 = some r ∧
        Host.sameObject b.host r.ref ⟨0, 0⟩ = true ∧
        createRef ⟨0, 0⟩ false b = .error (.fault (.invalidReference "create-global-ref")) b := by
  let created := (createRef ⟨0, 0⟩ false).after RefRun.benchStart
  let b : Bridge Bench Handle Nat Nat :=
    { created with host := { created.host with heap := created.host.heap.invalidate 0 } }
  have hrun : RefRun (fun _ _ => True) b :=
    ((RefRun.start_benchStart _).step (.createRef _ false)).step (.runtime trivial)
  refine ⟨b, ⟨false, ⟨0, 1⟩⟩, hrun, by with_unfolding_all rfl, by decide +kernel, ?_⟩
  exact createRef_of_invalid (by decide +kernel) false

theorem RefRun.permanent_ref_survives_benchStart :
    Host.StableIdentity Bench ∧ Host.NamesObject Bench ∧
      RefRun (fun _ _ => True) RefRun.benchStart ∧
      (∀ i r, RefRun.benchStart.refs.get? i = some r →
        Host.sameObject RefRun.benchStart.host r.ref ⟨0, 0⟩ = true → r.permanent = true) ∧
      createRef ⟨0, 0⟩ true RefRun.benchStart =
        .ok ⟨0, 1⟩ ((createRef ⟨0, 0⟩ true).after RefRun.benchStart) ∧
      PermanentRef ((releaseRef ⟨0, 0⟩).after ((createRef ⟨0, 0⟩ true).after RefRun.benchStart))
        ⟨0, 0⟩ ⟨0, 1⟩ := by
  have hb := RefRun.start_benchStart (fun _ _ => True)
  have hfresh : ∀ i r, RefRun.benchStart.refs.get? i = some r →
      Host.sameObject RefRun.benchStart.host r.ref ⟨0, 0⟩ = true → r.permanent = true := by
    intro i r hr
    simp [RefRun.benchStart] at hr
  have hcreate : createRef ⟨0, 0⟩ true RefRun.benchStart =
      .ok ⟨0, 1⟩ ((createRef ⟨0, 0⟩ true).after RefRun.benchStart) := by
    with_unfolding_all rfl
  exact ⟨Bench.stableIdentity, Bench.namesObject, hb, hfresh, hcreate,
    RefRun.permanent_ref_survives Bench.stableIdentity Bench.namesObject hb hfresh hcreate
      (.single (.releaseRef (⟨0, 0⟩ : Handle)))⟩

/-- The bench keeps no log. -/
theorem Bench.logged_eq {h h' : Bench} (hl : Host.Logged h h') : h' = h := by
  induction hl with
  | refl => rfl
  | tail _ hstep ih =>
    obtain ⟨_, _, _, rfl⟩ := hstep
    exact ih

theorem Bench.deleteGlobalRef_of_failing_nil {h : Bench} (hf : h.failing = []) (g : Handle) :
    Host.deleteGlobalRef g h = .ok () { h with calls := h.calls.push (.deleteGlobalRef g.ref) } := by
  show (Bench.record _ >>= fun _ => Bench.gate _) h = _
  simp [Op.bind_apply, Bench.record_apply, Bench.gate, hf]

/-- A bench that fails nothing on purpose carries out every deletion it is asked for. -/
theorem Bench.deletes_complete {t : Table (RefSlot Handle)} {js : List Nat} {h h' : Bench}
    {stop : Option Stop} (hd : Host.Deletes t js h h' stop) (hf : h.failing = []) :
    stop = none := by
  induction hd with
  | nil _ => rfl
  | done _ hl hdel _ ih =>
    cases Bench.logged_eq hl
    rw [Bench.deleteGlobalRef_of_failing_nil hf] at hdel
    cases hdel
    exact ih hf
  | failed _ hl hdel =>
    cases Bench.logged_eq hl
    rw [Bench.deleteGlobalRef_of_failing_nil hf] at hdel
    cases hdel

/-- A permanent reference asked for an object that already has a transient one is that transient
    reference, left transient, and the next release of the object deletes it. -/
theorem permanent_request_of_transient_released :
    ∃ (b b₁ b₂ : Bridge Bench Handle Nat Nat) (g : Handle), RefRun (fun _ _ => True) b ∧
      createRef ⟨0, 0⟩ true b = .ok g b₁ ∧ b₁.refs.get? 0 = some ⟨false, g⟩ ∧
      releaseRef ⟨0, 0⟩ b₁ = .ok 1 b₂ ∧ b₂.refs.get? 0 = none ∧ findRef ⟨0, 0⟩ b₂ = .ok none b₂ := by
  let b := (createRef ⟨0, 0⟩ false).after RefRun.benchStart
  have hb : RefRun (fun _ _ => True) b := (RefRun.start_benchStart _).step (.createRef _ false)
  have hslot : b.refs.get? 0 = some ⟨false, ⟨0, 1⟩⟩ := by with_unfolding_all rfl
  obtain ⟨h₁, hlog, hcreate⟩ := createRef_of_live Bench.stableIdentity
    (hb.distinct Bench.stableIdentity Bench.namesObject) hslot
    (rfl : Host.sameObject b.host (⟨0, 1⟩ : Handle) ⟨0, 0⟩ = true) (by decide +kernel) true
  cases Bench.logged_eq hlog
  obtain ⟨b₂, cleared, stop, hrun, hc⟩ := releaseRef_clears Bench.stableIdentity ⟨0, 0⟩ b
  have htargets : b.refs.matching (RefSlot.releasedBy b.host ⟨0, 0⟩) = [0] := by decide +kernel
  have hstop : stop = none := Bench.deletes_complete hc.deletes (by decide +kernel)
  subst hstop
  have hcleared : cleared = [0] := htargets ▸ hc.complete rfl
  subst hcleared
  refine ⟨b, b, b₂, ⟨0, 1⟩, hb, hcreate, hslot, hrun, ?_, ?_⟩
  · rw [hc.slots 0, if_pos (List.mem_singleton_self 0)]
  · refine findRef_of_none fun i r hr => ?_
    rw [hc.slots i] at hr
    split at hr
    · cases hr
    · next hi =>
      have hhwm : b.refs.hwm ≤ i := by
        have h1 : b.refs.hwm = 1 := by decide +kernel
        have h0 : i ≠ 0 := fun h => hi (List.mem_singleton.mpr h)
        omega
      rw [Table.get?_eq_none_of_le hhwm] at hr
      cases hr

end ArrayBridge
