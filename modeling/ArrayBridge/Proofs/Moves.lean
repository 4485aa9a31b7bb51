import ArrayBridge.Bridge.Lifecycle
import ArrayBridge.Proofs.Table
import Mathlib.Logic.Relation

/-
  What each bridge operation can do to the frames and the table, said once. Whether it answers
  or stops part way, every operation moves the bridge by a chain of small moves:
  * `thin`: entries are retired or get other element values, and the runtime, the last hit, the
    capacity and the reference cache move on; frames, configuration and slots stay;
  * `enter`: a frame marked with the high-water mark is pushed onto a stack with room for it;
  * `exit`: once every slot from the innermost frame's mark on is a tombstone, the table is
    truncated at that mark and the frame popped;
  * `lend`: inside a call, the entry of a successful extraction, for an object that no live
    entry stands for, is appended at the high-water mark.
  Only `acquire` lends; every other operation settles (`Settle`: thin, enter and exit moves). An
  invariant of the bridge then needs a check against four moves, not against every operation.

  `Op.after m s` is the state `m` leaves from `s`, answered or stopped, and `Op.Leads r s m` says
  that it is reached from `s` by a chain of `r` moves.

  Main statements: `leads_exitCall`, `leads_exitToDepth`, `leads_enterCall` (the frame operations
  settle) and `acquire_moves` (acquiring thins the bridge or lends one buffer).
-/

namespace ArrayBridge

namespace Op

variable {σ α β : Type}

/-- The state `m` leaves from `s`, whether it answers or stops. -/
def after (m : Op σ α) (s : σ) : σ :=
  match m s with
  | .ok _ s' => s'
  | .error _ s' => s'

/-- From `s`, `m` ends in a state reached from `s` by a chain of `r` moves. -/
def Leads (r : σ → σ → Prop) (s : σ) (m : Op σ α) : Prop :=
  Relation.ReflTransGen r s (m.after s)

@[simp] theorem get_apply (s : σ) : (get : Op σ σ) s = .ok s s := rfl

@[simp] theorem set_apply (s s' : σ) : (set s' : Op σ PUnit) s = .ok ⟨⟩ s' := rfl

@[simp] theorem modify_apply (f : σ → σ) (s : σ) : (modify f : Op σ PUnit) s = .ok ⟨⟩ (f s) :=
  rfl

@[simp] theorem pure_apply (a : α) (s : σ) : (pure a : Op σ α) s = .ok a s := rfl

@[simp] theorem fail_apply (f : Fault) (s : σ) : (fail f : Op σ α) s = .error (.fault f) s := rfl

theorem bind_apply (m : Op σ α) (f : α → Op σ β) (s : σ) :
    (m >>= f) s = match m s with
      | .ok a s' => f a s'
      | .error e s' => .error e s' := by
  change EStateM.bind m f s = _
  unfold EStateM.bind
  cases m s <;> rfl

theorem after_of_ok {m : Op σ α} {s s' : σ} {a : α} (h : m s = .ok a s') : m.after s = s' := by
  simp [after, h]

theorem after_of_error {m : Op σ α} {s s' : σ} {e : Stop} (h : m s = .error e s') :
    m.after s = s' := by
  simp [after, h]

/-- Two runs that end alike leave the same state. -/
theorem after_eq_of_apply {m m' : Op σ α} {s s' : σ} (h : m s = m' s') : m.after s = m'.after s' := by
  unfold after
  rw [h]

theorem after_bind (m : Op σ α) (f : α → Op σ β) (s : σ) :
    (m >>= f).after s = match m s with
      | .ok a s' => (f a).after s'
      | .error _ s' => s' := by
  unfold after
  change (match EStateM.bind m f s with | .ok _ s' => s' | .error _ s' => s') = _
  unfold EStateM.bind
  cases m s <;> rfl

theorem attempt_apply (m : Op σ α) (s : σ) :
    attempt m s = match m s with
      | .ok a s' => .ok (.ok a) s'
      | .error (.fault f) s' => .ok (.error f) s'
      | .error e s' => .error e s' := rfl

theorem after_attempt (m : Op σ α) (s : σ) : (attempt m).after s = m.after s := by
  unfold after
  rw [attempt_apply]
  rcases m s with ⟨a, s'⟩ | ⟨e, s'⟩
  · rfl
  · cases e <;> rfl

theorem bind_eq_ok {m : Op σ α} {f : α → Op σ β} {s s'' : σ} {c : β} :
    (m >>= f) s = .ok c s'' ↔ ∃ a s', m s = .ok a s' ∧ f a s' = .ok c s'' := by
  rw [bind_apply]
  constructor
  · intro h
    cases hm : m s with
    | ok a s' =>
      rw [hm] at h
      exact ⟨a, s', rfl, h⟩
    | error e s' =>
      rw [hm] at h
      cases h
  · rintro ⟨a, s', hm, h⟩
    rw [hm]
    exact h

theorem ofExcept_apply (e : Except Fault α) (s : σ) :
    ofExcept e s = match e with
      | .ok a => .ok a s
      | .error f => .error (.fault f) s := by
  cases e <;> rfl

theorem after_ofExcept (e : Except Fault α) (s : σ) : (ofExcept e).after s = s := by
  cases e <;> rfl

theorem attempt_eq_ok {m : Op σ α} {s s' : σ} {r : Except Fault α} (h : attempt m s = .ok r s') :
    m.after s = s' := by
  rw [attempt_apply] at h
  unfold after
  rcases hm : m s with ⟨a, s₁⟩ | ⟨e, s₁⟩ <;> rw [hm] at h
  · cases h
    rfl
  · cases e <;> cases h
    rfl

/-! ## Chains of moves -/

variable {r r' : σ → σ → Prop} {s : σ}

theorem Leads.of_after {m : Op σ α} (h : m.after s = s) : Leads r s m := by
  unfold Leads
  rw [h]

theorem Leads.single {m : Op σ α} (h : r s (m.after s)) : Leads r s m :=
  Relation.ReflTransGen.single h

theorem Leads.mono (hr : ∀ a b, r a b → r' a b) {m : Op σ α} (h : Leads r s m) : Leads r' s m :=
  Relation.ReflTransGen.mono hr s _ h

theorem Leads.of_ok {m : Op σ α} {s' : σ} {a : α} (hm : Leads r s m) (h : m s = .ok a s') :
    Relation.ReflTransGen r s s' := by
  unfold Leads at hm
  rwa [after_of_ok h] at hm

theorem Leads.of_error {m : Op σ α} {s' : σ} {e : Stop} (hm : Leads r s m)
    (h : m s = .error e s') : Relation.ReflTransGen r s s' := by
  unfold Leads at hm
  rwa [after_of_error h] at hm

theorem leads_pure (a : α) : Leads r s (pure a : Op σ α) :=
  Leads.of_after rfl

theorem leads_fail (f : Fault) : Leads r s (fail f : Op σ α) :=
  Leads.of_after rfl

theorem Leads.bind {m : Op σ α} {f : α → Op σ β} (hm : Leads r s m)
    (hf : ∀ a s', m s = .ok a s' → Leads r s' (f a)) : Leads r s (m >>= f) := by
  unfold Leads at hm ⊢
  rw [after_bind]
  cases hms : m s with
  | ok a s' =>
    rw [after_of_ok hms] at hm
    exact hm.trans (hf a s' hms)
  | error e s' =>
    rw [after_of_error hms] at hm
    exact hm

theorem Leads.get_bind {f : σ → Op σ β} (h : Leads r s (f s)) : Leads r s (get >>= f) :=
  Leads.bind (Leads.of_after rfl) fun _ _ hs => by
    cases hs
    exact h

theorem Leads.set_bind {s' : σ} {f : PUnit → Op σ β} (hs : r s s') (h : Leads r s' (f ⟨⟩)) :
    Leads r s (set s' >>= f) :=
  Leads.bind (Leads.single hs) fun _ _ hset => by
    cases hset
    exact h

theorem Leads.modify_bind {g : σ → σ} {f : PUnit → Op σ β} (hs : r s (g s))
    (h : Leads r (g s) (f ⟨⟩)) : Leads r s (modify g >>= f) :=
  Leads.bind (Leads.single hs) fun _ _ hset => by
    cases hset
    exact h

theorem Leads.attempt {m : Op σ α} (h : Leads r s m) : Leads r s (attempt m) := by
  unfold Leads at h ⊢
  rwa [after_attempt]

/-- Dropping an answer moves the state no further. -/
theorem after_bind_pure (m : Op σ α) (b : β) (s : σ) :
    (m >>= fun _ => pure b).after s = m.after s := by
  rw [after_bind]
  cases hm : m s with
  | ok a s' =>
    rw [after_of_ok hm]
    rfl
  | error e s' => rw [after_of_error hm]

end Op

/-! ## Entries that keep their storage -/

namespace Buffer

variable {Pin : Type}

/-- Two buffers are the same storage lent out: one pin with one length, logical scratch of one
    length, or one text. Only the element values may differ. -/
def SameStorage : Buffer Pin → Buffer Pin → Prop
  | .pinned p n, .pinned p' n' => p = p' ∧ n = n'
  | .logical c, .logical c' => c.length = c'.length
  | .text t, .text t' => t = t'
  | _, _ => False

theorem SameStorage.refl : (b : Buffer Pin) → b.SameStorage b
  | .pinned .. => ⟨rfl, rfl⟩
  | .logical _ => rfl
  | .text _ => rfl

theorem SameStorage.trans : {a b c : Buffer Pin} → a.SameStorage b → b.SameStorage c →
    a.SameStorage c
  | .pinned .., .pinned .., .pinned .., ⟨h₁, h₂⟩, ⟨h₃, h₄⟩ => ⟨h₁.trans h₃, h₂.trans h₄⟩
  | .logical _, .logical _, .logical _, h₁, h₂ => Eq.trans h₁ h₂
  | .text _, .text _, .text _, h₁, h₂ => Eq.trans h₁ h₂

/-- Storage lent out again has the same pin. -/
theorem SameStorage.pin?_eq : {a b : Buffer Pin} → a.SameStorage b → a.pin? = b.pin?
  | .pinned .., .pinned .., ⟨rfl, _⟩ => rfl
  | .logical _, .logical _, _ => rfl
  | .text _, .text _, _ => rfl

/-- Native code finds the same storage at the same address. -/
theorem SameStorage.address_eq : {a b : Buffer Pin} → a.SameStorage b → ∀ slot,
    a.address slot = b.address slot
  | .pinned .., .pinned .., ⟨rfl, _⟩, _ => rfl
  | .logical c, .logical c', (h : c.length = c'.length), slot => by
    simp only [address, List.isEmpty_iff_length_eq_zero, h]
  | .text _, .text _, rfl, _ => rfl

end Buffer

namespace Entry

variable {Obj Arr Pin : Type}

/-- `e'` is the entry `e` with possibly other element values in its buffer. -/
structure Kept (e e' : Entry Obj Arr Pin) : Prop where
  kind : e'.kind = e.kind
  object : e'.object = e.object
  array : e'.array = e.array
  storage : e.buffer.SameStorage e'.buffer

theorem Kept.refl (e : Entry Obj Arr Pin) : e.Kept e :=
  ⟨rfl, rfl, rfl, Buffer.SameStorage.refl _⟩

theorem Kept.trans {e₁ e₂ e₃ : Entry Obj Arr Pin} (h₁ : e₁.Kept e₂) (h₂ : e₂.Kept e₃) :
    e₁.Kept e₃ :=
  ⟨h₂.kind.trans h₁.kind, h₂.object.trans h₁.object, h₂.array.trans h₁.array,
    h₁.storage.trans h₂.storage⟩

end Entry

/-- A refresh copies values into the buffer it was given and keeps its storage. -/
theorem Codec.refresh_sameStorage {σ Obj Arr Pin : Type} [Host σ Obj Arr Pin] {kind : ElemKind}
    {array : Arr} {buffer buffer' : Buffer Pin} {h h' : σ}
    (hr : Codec.refresh kind array buffer h = .ok buffer' h') : buffer.SameStorage buffer' := by
  cases buffer with
  | text bytes =>
    cases hr
    exact Buffer.SameStorage.refl _
  | pinned pin len =>
    simp only [Codec.refresh, Op.bind_apply] at hr
    split at hr
    · next hcells =>
      split at hr
      · cases hr
        exact Buffer.SameStorage.refl _
      · cases hr
    · cases hr
  | logical cells =>
    simp only [Codec.refresh, Op.bind_apply] at hr
    split at hr
    · cases hr
      simp [Buffer.SameStorage, Cells.length_region]
    · cases hr

/-! ## The moves -/

namespace Bridge

variable {σ Obj Arr Pin : Type}

/-- `b'` is `b` with entries retired or given other element values, and the runtime, the last
    hit, the capacity and the reference cache moved on: frames, configuration and the table's
    slots are as they were. -/
structure Thins (b b' : Bridge σ Obj Arr Pin) : Prop where
  calls : b'.calls = b.calls
  config : b'.config = b.config
  table : b.table.Within Entry.Kept b'.table

theorem Thins.refl (b : Bridge σ Obj Arr Pin) : Thins b b :=
  ⟨rfl, rfl, Table.Within.of_slots Entry.Kept.refl rfl⟩

theorem Thins.trans {b₁ b₂ b₃ : Bridge σ Obj Arr Pin} (h₁ : Thins b₁ b₂) (h₂ : Thins b₂ b₃) :
    Thins b₁ b₃ :=
  ⟨h₂.calls.trans h₁.calls, h₂.config.trans h₁.config,
    h₁.table.trans h₂.table fun _ _ _ => Entry.Kept.trans⟩

theorem Thins.of_chain {b b' : Bridge σ Obj Arr Pin} (h : Relation.ReflTransGen Thins b b') :
    Thins b b' := by
  induction h with
  | refl => exact Thins.refl b
  | tail _ hstep ih => exact ih.trans hstep

/-- A change of the runtime alone. -/
theorem Thins.host (b : Bridge σ Obj Arr Pin) (h : σ) : Thins b { b with host := h } :=
  ⟨rfl, rfl, Table.Within.of_slots Entry.Kept.refl rfl⟩

/-- A change of the table that keeps its slots (the last hit, the capacity). -/
theorem Thins.of_slots {b : Bridge σ Obj Arr Pin} {t : Table (Entry Obj Arr Pin)}
    (h : t.slots = b.table.slots) : Thins b { b with table := t } :=
  ⟨rfl, rfl, Table.Within.of_slots Entry.Kept.refl h⟩

/-- `b'` is `b` with another runtime state: nothing the bridge owns has changed. -/
structure Rehosts (b b' : Bridge σ Obj Arr Pin) : Prop where
  config : b'.config = b.config
  table : b'.table = b.table
  calls : b'.calls = b.calls
  refs : b'.refs = b.refs

theorem Rehosts.host (b : Bridge σ Obj Arr Pin) (h : σ) : Rehosts b { b with host := h } :=
  ⟨rfl, rfl, rfl, rfl⟩

theorem Rehosts.of_chain {b b' : Bridge σ Obj Arr Pin} (h : Relation.ReflTransGen Rehosts b b') :
    Rehosts b b' := by
  induction h with
  | refl => exact ⟨rfl, rfl, rfl, rfl⟩
  | tail _ hstep ih =>
    exact ⟨hstep.config.trans ih.config, hstep.table.trans ih.table, hstep.calls.trans ih.calls,
      hstep.refs.trans ih.refs⟩

theorem Rehosts.thins {b b' : Bridge σ Obj Arr Pin} (h : Rehosts b b') : Thins b b' :=
  ⟨h.calls, h.config, Table.Within.of_slots Entry.Kept.refl (by rw [h.table])⟩

/-- A slot that is not live stays so. -/
theorem Thins.dead {b b' : Bridge σ Obj Arr Pin} (h : Thins b b') {i : Nat}
    (hi : b.table.get? i = none) : b'.table.get? i = none := by
  cases hi' : b'.table.get? i with
  | none => rfl
  | some e' =>
    obtain ⟨e, he, _⟩ := h.table.live i e' hi'
    rw [hi] at he
    cases he

variable [Host σ Obj Arr Pin]

/-- The frame and table moves of operations that add no entry. -/
inductive Settle : Bridge σ Obj Arr Pin → Bridge σ Obj Arr Pin → Prop
  /-- Entries retired or given other values; frames and slots stay. -/
  | thin {b b'} : Thins b b' → Settle b b'
  /-- A frame marked with the high-water mark, pushed onto a stack with room for it. -/
  | enter {b b'} (token : Nat) : b.depth < b.calls.maxDepth →
      b'.calls = { b.calls with frames := ⟨b.hwm, token⟩ :: b.calls.frames } →
      b'.table = b.table → b'.config = b.config → Settle b b'
  /-- The innermost frame popped and the table truncated at its mark, once every slot from the
      mark on is a tombstone. -/
  | exit {b b'} (frame : Frame) (rest : List Frame) : b.calls.frames = frame :: rest →
      (∀ i, frame.mark ≤ i → b.table.get? i = none) →
      b'.calls = { b.calls with frames := rest } →
      b'.table = b.table.truncate frame.mark → b'.config = b.config → Settle b b'

/-- What `acquire` does when it lends a new buffer: inside a call, for an object that no live
    entry stands for, the entry of a successful extraction is appended at the high-water mark. -/
structure Lends (b b' : Bridge σ Obj Arr Pin) (e : Entry Obj Arr Pin) : Prop where
  inCall : b.depth ≠ 0
  fresh : ∀ i d, b.table.get? i = some d → holds b.host e.object d = false
  extracted : ∃ h h' : σ, Codec.extract e.object e.kind h = .ok (e.array, e.buffer) h'
  calls : b'.calls = b.calls
  config : b'.config = b.config
  slots : b'.table.slots = b.table.slots.push (some e)

/-- One move of any operation. -/
def Move (b b' : Bridge σ Obj Arr Pin) : Prop := Settle b b' ∨ ∃ e, Lends b b' e

theorem Move.of_settle {b b' : Bridge σ Obj Arr Pin} (h : Settle b b') : Move b b' := Or.inl h

/-- A lend adds its entry at the high-water mark and leaves every other slot as it was. -/
theorem Lends.get?_eq {b b' : Bridge σ Obj Arr Pin} {e : Entry Obj Arr Pin} (hl : Lends b b' e)
    (k : Nat) : b'.table.get? k = if k = b.table.hwm then some e else b.table.get? k := by
  rw [← Table.get?_push b.table e k]
  exact Table.get?_of_slots (by rw [hl.slots]; simp [Table.push, Table.slots_reserve]) k

omit [Host σ Obj Arr Pin] in
/-- Moves that add no entry: each live slot after one was live before, with an entry kept. -/
theorem Settle.live {b b' : Bridge σ Obj Arr Pin} (hs : Settle b b') {i : Nat}
    {d' : Entry Obj Arr Pin} (hd' : b'.table.get? i = some d') :
    ∃ d, b.table.get? i = some d ∧ d.Kept d' := by
  cases hs with
  | thin ht => exact ht.table.live i d' hd'
  | enter _ _ _ htable _ =>
    rw [htable] at hd'
    exact ⟨d', hd', Entry.Kept.refl d'⟩
  | exit frame _ _ _ _ htable _ =>
    rw [htable, Table.get?_truncate] at hd'
    split at hd'
    · exact ⟨d', hd', Entry.Kept.refl d'⟩
    · cases hd'

omit [Host σ Obj Arr Pin] in
theorem Settle.live_of_chain {b b' : Bridge σ Obj Arr Pin}
    (h : Relation.ReflTransGen Settle b b') {i : Nat} {d' : Entry Obj Arr Pin}
    (hd' : b'.table.get? i = some d') : ∃ d, b.table.get? i = some d ∧ d.Kept d' := by
  induction h generalizing d' with
  | refl => exact ⟨d', hd', Entry.Kept.refl d'⟩
  | tail _ hstep ih =>
    obtain ⟨d₁, hd₁, hk₁⟩ := hstep.live hd'
    obtain ⟨d, hd, hk⟩ := ih hd₁
    exact ⟨d, hd, hk.trans hk₁⟩

end Bridge

namespace Op

variable {σ Obj Arr Pin α : Type} {b : Bridge σ Obj Arr Pin} {m : Op (Bridge σ Obj Arr Pin) α}

theorem Leads.thins (h : Leads Bridge.Rehosts b m) : Leads Bridge.Thins b m :=
  h.mono fun _ _ => Bridge.Rehosts.thins

theorem Leads.settles [Host σ Obj Arr Pin] (h : Leads Bridge.Thins b m) :
    Leads Bridge.Settle b m :=
  h.mono fun _ _ => Bridge.Settle.thin

end Op

namespace Bridge

variable {σ Obj Arr Pin : Type} [Host σ Obj Arr Pin]


/-! ## Operations that thin -/

section Thinning

open Op

variable {b : Bridge σ Obj Arr Pin}

omit [Host σ Obj Arr Pin] in
theorem after_onHost {α : Type} (m : Op σ α) (b : Bridge σ Obj Arr Pin) :
    (onHost m).after b = { b with host := m.after b.host } := by
  simp only [onHost, Op.focus, after]
  cases m b.host <;> rfl

omit [Host σ Obj Arr Pin] in
theorem leads_onHost {α : Type} (m : Op σ α) : Leads Rehosts b (onHost m) := by
  refine Leads.single ?_
  rw [after_onHost]
  exact Rehosts.host b _

theorem note_apply (level : Level) (target message : String) (b : Bridge σ Obj Arr Pin) :
    (note level target message : Op (Bridge σ Obj Arr Pin) Unit) b =
      .ok ⟨⟩ { b with host := Host.log level target message b.host } := rfl

theorem leads_note (level : Level) (target message : String) :
    Leads Rehosts b (note level target message : Op (Bridge σ Obj Arr Pin) Unit) :=
  Leads.single (Rehosts.host b _)

theorem after_validate (o : Obj) (operation : String) : (validate o operation).after b = b := by
  unfold validate
  rw [after_bind]
  dsimp only [get_apply]
  split <;> rfl

theorem lookup_apply (o : Obj) (b : Bridge σ Obj Arr Pin) :
    lookup o b = .ok (b.table.find (holds b.host o)).1
      { b with table := (b.table.find (holds b.host o)).2 } := by
  unfold lookup
  rfl

omit [Host σ Obj Arr Pin] in
/-- Reading the innermost frame's mark changes nothing, whether or not there is a frame. -/
theorem after_currentMark (operation : String) (b : Bridge σ Obj Arr Pin) :
    (currentMark operation).after b = b := by
  unfold currentMark
  rw [after_bind]
  dsimp only [get_apply]
  split <;> rfl

/-- Finishing an entry relates its ends by any relation that follows the tombstoning of its live
    slot, a log record and the runtime's release of the entry. -/
theorem leads_releaseEntry_of {r : Bridge σ Obj Arr Pin → Bridge σ Obj Arr Pin → Prop}
    (hnote : ∀ b level target message,
      Leads r b (note level target message : Op (Bridge σ Obj Arr Pin) Unit))
    (index : Nat) (mode : ReleaseMode)
    (htake : ∀ e, b.table.get? index = some e → r b { b with table := (b.table.take index).2 })
    (hrelease : ∀ (b : Bridge σ Obj Arr Pin) e, Leads r b (onHost (Codec.release e mode))) :
    Leads r b (releaseEntry index mode) := by
  unfold releaseEntry
  refine Leads.get_bind ?_
  split
  · next e table htake' =>
    have he : b.table.get? index = some e := by rw [← Table.fst_take, htake']
    have htable : table = (b.table.take index).2 := by rw [htake']
    rw [htable]
    exact Leads.set_bind (htake e he) ((hnote ..).bind fun _ _ _ =>
      (hrelease ..).bind fun _ _ _ => leads_pure _)
  · exact leads_pure _

theorem leads_releaseEntry (index : Nat) (mode : ReleaseMode) :
    Leads Thins b (releaseEntry index mode) :=
  leads_releaseEntry_of (fun _ _ _ _ => (leads_note ..).thins) index mode
    (fun _ _ => ⟨rfl, rfl, Table.within_take Entry.Kept.refl b.table index⟩)
    (fun _ _ => (leads_onHost _).thins)

/-- Releasing an entry leaves its slot a tombstone, however the release ends. -/
theorem releaseEntry_dead (index : Nat) (mode : ReleaseMode) (b : Bridge σ Obj Arr Pin) :
    ((releaseEntry index mode).after b).table.get? index = none := by
  unfold releaseEntry
  rw [after_bind]
  dsimp only [get_apply]
  split
  · next e table htake =>
    have hslots : table = (b.table.take index).2 := by rw [htake]
    rw [after_bind]
    dsimp only [set_apply]
    rw [(Rehosts.of_chain ((leads_note ..).bind fun _ _ _ => (leads_onHost _).bind fun _ _ _ =>
      leads_pure _)).table, hslots, Table.get?_take, if_pos rfl]
  · next htake =>
    change b.table.get? index = none
    rw [← Table.fst_take, htake]

omit [Host σ Obj Arr Pin] in
/-- A change of the reference cache alone. -/
theorem Thins.refs (b : Bridge σ Obj Arr Pin) (refs : Table (RefSlot Obj)) :
    Thins b { b with refs } :=
  ⟨rfl, rfl, Table.Within.of_slots Entry.Kept.refl rfl⟩

/-- A relation that the moves made between two table operations keep: a log record, a change
    of the table that keeps its slots (the last hit, the capacity), a change of the reference
    cache, a runtime call making or deleting a long-lived reference, and a push of a live
    entry's native contents back to the runtime. An operation that only sequences table operations between
    such moves then relates its start and its end whenever each table operation it runs
    does. -/
structure Calm (r : Bridge σ Obj Arr Pin → Bridge σ Obj Arr Pin → Prop) : Prop where
  note : ∀ b level target message,
    Leads r b (Bridge.note level target message : Op (Bridge σ Obj Arr Pin) Unit)
  slots : ∀ (b : Bridge σ Obj Arr Pin) (t : Table (Entry Obj Arr Pin)), t.slots = b.table.slots →
    r b { b with table := t }
  cache : ∀ (b : Bridge σ Obj Arr Pin) refs, r b { b with refs }
  newRef : ∀ (b : Bridge σ Obj Arr Pin) o, Leads r b (onHost (Host.newGlobalRef o))
  deleteRef : ∀ (b : Bridge σ Obj Arr Pin) o, Leads r b (onHost (Host.deleteGlobalRef o))
  pushBack : ∀ (b : Bridge σ Obj Arr Pin) i e, b.table.get? i = some e →
    Leads r b (onHost (Codec.pushBack e.kind e.object e.array e.buffer))

theorem calm_thins : Calm (Thins : Bridge σ Obj Arr Pin → Bridge σ Obj Arr Pin → Prop) where
  note _ _ _ _ := (leads_note ..).thins
  slots _ _ := Thins.of_slots
  cache := Thins.refs
  newRef _ _ := (leads_onHost _).thins
  deleteRef _ _ := (leads_onHost _).thins
  pushBack _ _ _ _ := (leads_onHost _).thins

/-- A relation kept by the moves between table operations that leave both capacities alone: a
    log record, a change of the table's last hit, a change of the reference cache's slots in
    place, a runtime call deleting a long-lived reference, and a push of a live entry's native
    contents back to the runtime. Every operation that neither makes room in the table nor adds a reference
    relates its ends by such a relation; a calm relation is one. -/
structure Quiet (r : Bridge σ Obj Arr Pin → Bridge σ Obj Arr Pin → Prop) : Prop where
  note : ∀ b level target message,
    Leads r b (Bridge.note level target message : Op (Bridge σ Obj Arr Pin) Unit)
  slots : ∀ (b : Bridge σ Obj Arr Pin) (t : Table (Entry Obj Arr Pin)), t.slots = b.table.slots →
    t.capacity = b.table.capacity → r b { b with table := t }
  cache : ∀ (b : Bridge σ Obj Arr Pin) (refs : Table (RefSlot Obj)), refs.hwm = b.refs.hwm →
    refs.capacity = b.refs.capacity → r b { b with refs }
  deleteRef : ∀ (b : Bridge σ Obj Arr Pin) o, Leads r b (onHost (Host.deleteGlobalRef o))
  pushBack : ∀ (b : Bridge σ Obj Arr Pin) i e, b.table.get? i = some e →
    Leads r b (onHost (Codec.pushBack e.kind e.object e.array e.buffer))

section Calm

variable {r : Bridge σ Obj Arr Pin → Bridge σ Obj Arr Pin → Prop}

theorem Calm.quiet (hr : Calm r) : Quiet r where
  note := hr.note
  slots b t hslots _ := hr.slots b t hslots
  cache b refs _ _ := hr.cache b refs
  deleteRef := hr.deleteRef
  pushBack := hr.pushBack

theorem Quiet.lookup (hr : Quiet r) (b : Bridge σ Obj Arr Pin) (o : Obj) : Leads r b (lookup o) :=
  Leads.single (by
    rw [after_of_ok (lookup_apply o b)]
    exact hr.slots _ _ (Table.slots_find _ _) (Table.capacity_find _ _))

theorem Calm.lookup (hr : Calm r) (b : Bridge σ Obj Arr Pin) (o : Obj) : Leads r b (lookup o) :=
  hr.quiet.lookup b o

theorem Calm.reserveSlot (hr : Calm r) (b : Bridge σ Obj Arr Pin) :
    Leads r b (reserveSlot : Op (Bridge σ Obj Arr Pin) Unit) := by
  unfold Bridge.reserveSlot
  refine Leads.get_bind (Leads.set_bind (hr.slots _ _ (Table.slots_reserve _)) ?_)
  split
  · exact hr.note ..
  · exact leads_pure _

theorem Quiet.pushEntry (hr : Quiet r) (b : Bridge σ Obj Arr Pin) (index : Nat) :
    Leads r b (pushEntry index) := by
  unfold Bridge.pushEntry
  refine Leads.get_bind ?_
  split
  · exact leads_pure _
  · next e he =>
    refine Leads.get_bind ((hr.note ..).bind fun _ b' hnote => ?_)
    rw [note_apply] at hnote
    cases hnote
    exact hr.pushBack _ index e he

theorem Calm.pushEntry (hr : Calm r) (b : Bridge σ Obj Arr Pin) (index : Nat) :
    Leads r b (pushEntry index) :=
  hr.quiet.pushEntry b index

/-- Releasing a run of slots relates its ends by any quiet relation that each release does. -/
theorem Quiet.releaseFrom (hr : Quiet r)
    (hentry : ∀ b index, Leads r b (releaseEntry index .copyBack)) (index count : Nat) :
    Leads r b (releaseFrom index count) := by
  induction count generalizing index b with
  | zero => exact leads_pure _
  | succ count ih =>
    unfold Bridge.releaseFrom
    refine (hentry b index).attempt.bind fun r _ _ => ?_
    dsimp only
    split
    · exact (leads_pure _).bind fun _ _ _ => (ih (index + 1)).bind fun _ _ _ => leads_pure _
    · exact ((hr.note ..).bind fun _ _ _ => leads_pure _).bind
        fun _ _ _ => (ih (index + 1)).bind fun _ _ _ => leads_pure _

theorem Calm.releaseFrom (hr : Calm r)
    (hentry : ∀ b index, Leads r b (releaseEntry index .copyBack)) (index count : Nat) :
    Leads r b (releaseFrom index count) :=
  hr.quiet.releaseFrom hentry index count

end Calm

theorem leads_releaseFrom (index count : Nat) : Leads Thins b (releaseFrom index count) :=
  calm_thins.releaseFrom (fun _ index => leads_releaseEntry index .copyBack) index count

/-- When the releases of a frame's slots all return, every one of those slots is a tombstone. -/
theorem releaseFrom_dead {index count : Nat} {b b' : Bridge σ Obj Arr Pin} {first : Option Fault}
    (h : releaseFrom index count b = .ok first b') :
    ∀ j, index ≤ j → j < index + count → b'.table.get? j = none := by
  induction count generalizing index b first with
  | zero =>
    intro j hj hj'
    omega
  | succ count ih =>
    unfold releaseFrom at h
    obtain ⟨r, b₁, h₁, h⟩ := Op.bind_eq_ok.mp h
    -- the first slot is dead from its release on, the others by the releases that follow
    have hdead₁ : b₁.table.get? index = none := by
      rw [← attempt_eq_ok h₁]
      exact releaseEntry_dead index .copyBack b
    obtain ⟨here, b₂, hthin₂, h⟩ : ∃ here b₂, Thins b₁ b₂ ∧
        (releaseFrom (index + 1) count >>= fun rest => pure (here <|> rest)) b₂ = .ok first b' := by
      dsimp only at h
      split at h
      · obtain ⟨_, _, h₂, h⟩ := Op.bind_eq_ok.mp h
        cases h₂
        exact ⟨_, b₁, Thins.refl b₁, h⟩
      · obtain ⟨_, b₂, h₂, h⟩ := Op.bind_eq_ok.mp h
        obtain ⟨_, _, h₂', h⟩ := Op.bind_eq_ok.mp h
        cases h₂'
        exact ⟨_, b₂, (Rehosts.of_chain ((leads_note ..).of_ok h₂)).thins, h⟩
    obtain ⟨rest, b₃, h₃, h⟩ := Op.bind_eq_ok.mp h
    have hb : b₃ = b' := by
      rw [pure_apply] at h
      injection h
    have hthin₃ : Thins b₂ b₃ := Thins.of_chain ((leads_releaseFrom (index + 1) count).of_ok h₃)
    intro j hj hj'
    rw [← hb]
    rcases Nat.eq_or_lt_of_le hj with rfl | hlt
    · exact hthin₃.dead (hthin₂.dead hdead₁)
    · exact ih (hb ▸ h₃) j hlt (by omega) |> fun hd => hb ▸ hd

end Thinning

/-! ## Entering and exiting calls -/

section Frames

open Op

variable {b : Bridge σ Obj Arr Pin}

theorem CallStack.push_eq_ok {s : CallStack} {mark token : Nat} {r : Nat × CallStack}
    (h : s.push mark token = .ok r) :
    s.depth < s.maxDepth ∧ r = (s.depth + 1, { s with frames := ⟨mark, token⟩ :: s.frames }) := by
  unfold CallStack.push at h
  split at h
  · cases h
  · cases h
    exact ⟨by omega, rfl⟩

/-- When the releases of a frame's slots all return, every slot from the frame's mark on is a
    tombstone: released below the old high-water mark, absent above it. -/
theorem releaseFrom_frame_dead {b b₁ : Bridge σ Obj Arr Pin} {mark : Nat} {first : Option Fault}
    (h₁ : releaseFrom mark (b.hwm - mark) b = .ok first b₁) :
    ∀ i, mark ≤ i → b₁.table.get? i = none := by
  have hthin : Thins b b₁ := Thins.of_chain ((leads_releaseFrom _ _).of_ok h₁)
  intro i hi
  by_cases htop : i < b.hwm
  · exact releaseFrom_dead h₁ i hi (by omega)
  · apply Table.get?_eq_none_of_le
    rw [hthin.table.hwm_eq]
    exact Nat.le_of_not_lt htop

/-- Entering a call relates its ends by any relation that follows the push of the new frame and
    a log record. -/
theorem leads_enterCall_of {r : Bridge σ Obj Arr Pin → Bridge σ Obj Arr Pin → Prop}
    (hnote : ∀ b level target message,
      Leads r b (note level target message : Op (Bridge σ Obj Arr Pin) Unit))
    (token : Nat)
    (hpush : ∀ depth calls, b.calls.push b.hwm token = .ok (depth, calls) → r b { b with calls }) :
    Leads r b (enterCall token) := by
  unfold enterCall
  refine Leads.get_bind (Leads.bind (Leads.of_after (after_ofExcept _ b)) fun p b₁ h₁ => ?_)
  rw [ofExcept_apply] at h₁
  split at h₁
  · next hp =>
    cases h₁
    obtain ⟨depth, calls⟩ := p
    exact Leads.set_bind (hpush depth calls hp) ((hnote ..).bind fun _ _ _ => leads_pure _)
  · cases h₁

theorem leads_enterCall (token : Nat) : Leads Settle b (enterCall token) :=
  leads_enterCall_of (fun _ _ _ _ => (leads_note ..).thins.settles) token fun _ _ hpush => by
    obtain ⟨hroom, hr⟩ := CallStack.push_eq_ok hpush
    cases hr
    exact Settle.enter token hroom rfl rfl rfl

/-- Exiting a call relates its ends by any relation that follows the releases of the frame's
    slots, the truncation and pop after them, and a log record. -/
theorem leads_exitCall_of {r : Bridge σ Obj Arr Pin → Bridge σ Obj Arr Pin → Prop}
    (hnote : ∀ b level target message,
      Leads r b (note level target message : Op (Bridge σ Obj Arr Pin) Unit))
    (hfrom : ∀ index count, Leads r b (releaseFrom index count))
    (hpop : ∀ frame first b₁, b.calls.current = some frame →
      releaseFrom frame.mark (b.hwm - frame.mark) b = .ok first b₁ →
      r b₁ { b₁ with table := b₁.table.truncate frame.mark, calls := b₁.calls.pop.2 }) :
    Leads r b (exitCall : Op (Bridge σ Obj Arr Pin) Unit) := by
  unfold exitCall
  refine Leads.get_bind ?_
  split
  · exact leads_fail _
  · next frame hframe =>
    refine Leads.get_bind ((hfrom ..).bind fun first b₁ h₁ => ?_)
    refine Leads.modify_bind (hpop frame first b₁ hframe h₁) ?_
    refine Leads.get_bind ((hnote ..).bind fun _ _ _ => ?_)
    split
    · exact leads_fail _
    · exact leads_pure _

/-- Once the releases of the innermost frame's slots have returned, truncating the table at its
    mark and popping the frame is an exit move. -/
theorem settle_exit_of_released {frame : Frame} {first : Option Fault} {b₁ : Bridge σ Obj Arr Pin}
    (hframe : b.calls.current = some frame)
    (h₁ : releaseFrom frame.mark (b.hwm - frame.mark) b = .ok first b₁) :
    Settle b₁ { b₁ with table := b₁.table.truncate frame.mark, calls := b₁.calls.pop.2 } := by
  have hthin : Thins b b₁ := Thins.of_chain ((leads_releaseFrom _ _).of_ok h₁)
  -- the releases keep the frames, so the frame exited is still the innermost
  obtain ⟨rest, hrest⟩ : ∃ rest, b₁.calls.frames = frame :: rest := by
    rw [hthin.calls]
    unfold CallStack.current at hframe
    cases hfr : b.calls.frames with
    | nil => rw [hfr] at hframe; cases hframe
    | cons f rest => rw [hfr] at hframe; cases hframe; exact ⟨rest, rfl⟩
  exact Settle.exit frame rest hrest (releaseFrom_frame_dead h₁) (by simp [CallStack.pop, hrest])
    rfl rfl

theorem leads_exitCall : Leads Settle b (exitCall : Op (Bridge σ Obj Arr Pin) Unit) :=
  leads_exitCall_of (fun _ _ _ _ => (leads_note ..).thins.settles)
    (fun _ _ => (leads_releaseFrom _ _).settles) fun _ _ _ hframe h₁ =>
      settle_exit_of_released hframe h₁

/-- Exiting frames one after another relates its ends by any relation each exit does. -/
theorem leads_exitFrames_of {r : Bridge σ Obj Arr Pin → Bridge σ Obj Arr Pin → Prop}
    (hexit : ∀ b, Leads r b exitCall) (count : Nat) : Leads r b (exitFrames count) := by
  induction count generalizing b with
  | zero => exact leads_pure _
  | succ count ih =>
    unfold exitFrames
    refine (hexit b).attempt.bind fun r _ _ => ih.bind fun _ _ _ => ?_
    split
    · exact leads_pure _
    · exact leads_pure _

theorem leads_exitToDepth_of {r : Bridge σ Obj Arr Pin → Bridge σ Obj Arr Pin → Prop}
    (hexit : ∀ b, Leads r b exitCall) (depth : Nat) : Leads r b (exitToDepth depth) := by
  unfold exitToDepth
  refine Leads.get_bind ((leads_exitFrames_of hexit _).bind fun _ _ _ => ?_)
  split
  · exact leads_fail _
  · exact leads_pure _

theorem leads_exitToDepth (depth : Nat) : Leads Settle b (exitToDepth depth) :=
  leads_exitToDepth_of (fun _ => leads_exitCall) depth

end Frames


/-! ## Acquiring -/

section Acquire

open Op

variable {b : Bridge σ Obj Arr Pin}

omit [Host σ Obj Arr Pin] in
theorem onHost_eq_ok {α : Type} {m : Op σ α} {b b' : Bridge σ Obj Arr Pin} {a : α} :
    onHost m b = .ok a b' ↔ ∃ h', m b.host = .ok a h' ∧ b' = { b with host := h' } := by
  simp only [onHost, Op.focus]
  constructor
  · intro h
    cases hm : m b.host with
    | ok a' h' =>
      rw [hm] at h
      cases h
      exact ⟨h', rfl, rfl⟩
    | error e h' =>
      rw [hm] at h
      cases h
  · rintro ⟨h', hm, rfl⟩
    rw [hm]

omit [Host σ Obj Arr Pin] in
theorem onHost_eq_error {α : Type} {m : Op σ α} {b b' : Bridge σ Obj Arr Pin} {e : Stop} :
    onHost m b = .error e b' ↔ ∃ h', m b.host = .error e h' ∧ b' = { b with host := h' } := by
  simp only [onHost, Op.focus]
  constructor
  · intro h
    cases hm : m b.host with
    | ok a' h' =>
      rw [hm] at h
      cases h
    | error e' h' =>
      rw [hm] at h
      cases h
      exact ⟨h', rfl, rfl⟩
  · rintro ⟨h', hm, rfl⟩
    rw [hm]

theorem validate_apply (o : Obj) (operation : String) (b : Bridge σ Obj Arr Pin) :
    validate o operation b =
      if b.config.validateRefs && !Host.isValidRef b.host o then
        .error (.fault (.invalidReference operation)) b
      else .ok () b := by
  unfold validate
  rw [bind_apply]
  dsimp only [get_apply]
  split <;> rfl

/-- Validation lets a reference through when it is off or the reference is valid. -/
theorem validates_iff {v valid : Bool} : (v && !valid) = false ↔ (v = true → valid = true) := by
  cases v <;> cases valid <;> decide

theorem reserveSlot_ok (b : Bridge σ Obj Arr Pin) :
    ∃ b', reserveSlot b = .ok () b' ∧ Rehosts { b with table := b.table.reserve } b' := by
  unfold reserveSlot
  rw [bind_apply]
  dsimp only [get_apply]
  rw [bind_apply]
  dsimp only [set_apply]
  split
  · exact ⟨_, rfl, Rehosts.host _ _⟩
  · exact ⟨_, rfl, ⟨rfl, rfl, rfl, rfl⟩⟩

/-- Answering a cached buffer only keeps log records. -/
theorem leads_reuse_of {r : Bridge σ Obj Arr Pin → Bridge σ Obj Arr Pin → Prop}
    (hnote : ∀ b level target message,
      Leads r b (note level target message : Op (Bridge σ Obj Arr Pin) Unit))
    (o : Obj) (kind : ElemKind) (index : Nat) (e : Entry Obj Arr Pin) :
    Leads r b (reuse o kind index e) := by
  unfold reuse
  refine Leads.get_bind ?_
  dsimp only
  split
  · split
    · exact (leads_fail _).bind fun _ _ _ => (hnote ..).bind fun _ _ _ =>
        (hnote ..).bind fun _ _ _ => leads_pure _
    · exact (hnote ..).bind fun _ _ _ => (hnote ..).bind fun _ _ _ => leads_pure _
  · exact (hnote ..).bind fun _ _ _ => leads_pure _

theorem leads_reuse (o : Obj) (kind : ElemKind) (index : Nat) (e : Entry Obj Arr Pin) :
    Leads Rehosts b (reuse o kind index e) :=
  leads_reuse_of (fun _ _ _ _ => leads_note ..) o kind index e

/-- After a lend has appended its entry, it only describes the object and keeps a record. -/
theorem leads_lendTail_of {r : Bridge σ Obj Arr Pin → Bridge σ Obj Arr Pin → Prop}
    (hnote : ∀ b level target message,
      Leads r b (note level target message : Op (Bridge σ Obj Arr Pin) Unit))
    (hdescribe : ∀ (b : Bridge σ Obj Arr Pin) o, Leads r b (onHost (Host.describe o)))
    (o : Obj) (kind : ElemKind) (index : Nat) (buffer : Buffer Pin) :
    Leads r b (do
      if ← tracing then
        let name ← onHost (Host.describe o)
        let h := (← get).host
        let cls := name.getD "?"
        note .trace mirrorTarget
          s!"addNativeArray(x={Host.showObject h o}, class={cls}, ix={index}, kind={kind.name})"
      pure (buffer.address index)) := by
  refine (Leads.of_after rfl).bind fun t _ _ => ?_
  split
  · exact (hdescribe ..).bind fun _ _ _ => Leads.get_bind ((hnote ..).bind fun _ _ _ =>
      leads_pure _)
  · exact leads_pure _

theorem leads_lendTail (o : Obj) (kind : ElemKind) (index : Nat) (buffer : Buffer Pin) :
    Leads Rehosts b (do
      if ← tracing then
        let name ← onHost (Host.describe o)
        let h := (← get).host
        let cls := name.getD "?"
        note .trace mirrorTarget
          s!"addNativeArray(x={Host.showObject h o}, class={cls}, ix={index}, kind={kind.name})"
      pure (buffer.address index)) :=
  leads_lendTail_of (fun _ _ _ _ => leads_note ..) (fun _ _ => leads_onHost _) o kind index buffer

/-- Lending makes room in the table, then either fails to extract, leaving the table as
    reserved, or appends the extracted entry to it; besides that, only the runtime moves. -/
theorem lend_after (o : Obj) (kind : ElemKind) (b : Bridge σ Obj Arr Pin) :
    Rehosts { b with table := b.table.reserve } ((lend o kind).after b) ∨
      ∃ array buffer, (∃ h h' : σ, Codec.extract o kind h = .ok (array, buffer) h') ∧
        Rehosts { b with table := (b.table.reserve.push ⟨kind, o, array, buffer⟩).2 }
          ((lend o kind).after b) := by
  obtain ⟨b₂, hreserve, hb₂⟩ := reserveSlot_ok b
  have hb₂t : b₂.table = b.table.reserve := hb₂.table
  unfold lend
  rw [after_bind, hreserve]
  dsimp only
  rw [after_bind]
  cases hx : onHost (Codec.extract o kind) b₂ with
  | error err b₃ =>
    have h₃ := Rehosts.of_chain ((leads_onHost _).of_error hx)
    exact Or.inl ⟨h₃.config.trans hb₂.config, h₃.table.trans hb₂t, h₃.calls.trans hb₂.calls,
      h₃.refs.trans hb₂.refs⟩
  | ok p b₃ =>
    obtain ⟨array, buffer⟩ := p
    obtain ⟨h₃, hext, rfl⟩ := onHost_eq_ok.mp hx
    dsimp only
    rw [after_bind]
    dsimp only [get_apply]
    rcases hpush : ({ b₂ with host := h₃ } : Bridge σ Obj Arr Pin).table.push
      ⟨kind, o, array, buffer⟩ with ⟨index, table⟩
    have htable : table = (b.table.reserve.push ⟨kind, o, array, buffer⟩).2 := by
      have h : table = (b₂.table.push ⟨kind, o, array, buffer⟩).2 := (congrArg Prod.snd hpush).symm
      rw [h, hb₂t]
    dsimp only
    rw [after_bind]
    dsimp only [set_apply]
    have hfinal := Rehosts.of_chain (leads_lendTail o kind index buffer
      (b := { b₂ with host := h₃, table }))
    exact Or.inr ⟨array, buffer, ⟨b₂.host, h₃, hext⟩, hfinal.config.trans hb₂.config,
      hfinal.table.trans htable, hfinal.calls.trans hb₂.calls, hfinal.refs.trans hb₂.refs⟩

/-- Lending a buffer either fails before anything is appended, or appends the entry of a
    successful extraction and changes nothing else the bridge owns but the capacity. -/
theorem lend_moves (o : Obj) (kind : ElemKind) (b : Bridge σ Obj Arr Pin) :
    Thins b ((lend o kind).after b) ∨
      ∃ e : Entry Obj Arr Pin, e.object = o ∧ e.kind = kind ∧
        (∃ h h' : σ, Codec.extract e.object e.kind h = .ok (e.array, e.buffer) h') ∧
        ((lend o kind).after b).calls = b.calls ∧ ((lend o kind).after b).config = b.config ∧
        ((lend o kind).after b).table.slots = b.table.slots.push (some e) := by
  rcases lend_after o kind b with hfail | ⟨array, buffer, hext, hput⟩
  · exact Or.inl ((Thins.of_slots (Table.slots_reserve _)).trans hfail.thins)
  · refine Or.inr ⟨⟨kind, o, array, buffer⟩, rfl, rfl, hext, hput.calls, hput.config, ?_⟩
    rw [hput.table]
    simp [Table.push, Table.slots_reserve]

/-- Acquiring either thins the bridge (a cached buffer, or a failure before anything is appended)
    or lends one buffer for the object and kind asked for. -/
theorem acquire_moves (o : Obj) (kind : ElemKind) (b : Bridge σ Obj Arr Pin) :
    Thins b ((acquire o kind).after b) ∨
      ∃ e, e.object = o ∧ e.kind = kind ∧ Lends b ((acquire o kind).after b) e := by
  unfold acquire
  rw [after_bind]
  dsimp only [get_apply]
  by_cases hd : b.depth = 0
  · simp only [hd, if_true]
    exact Or.inl (Thins.refl b)
  simp only [hd, if_false]
  rw [after_bind, validate_apply]
  by_cases hv : (b.config.validateRefs && !Host.isValidRef b.host o) = true
  · rw [if_pos hv]
    exact Or.inl (Thins.refl b)
  rw [if_neg hv]
  dsimp only
  rw [after_bind, lookup_apply]
  dsimp only
  have hlookup : Thins b { b with table := (b.table.find (holds b.host o)).2 } :=
    Thins.of_slots (Table.slots_find _ _)
  cases hfound : (b.table.find (holds b.host o)).1 with
  | some index =>
    dsimp only
    rw [after_bind]
    dsimp only [get_apply]
    obtain ⟨d, hd', _⟩ := Table.find_live hfound
    rw [Table.get?_of_slots (Table.slots_find _ _), hd']
    exact Or.inl (hlookup.trans (Rehosts.of_chain (leads_reuse o kind index d)).thins)
  | none =>
    dsimp only
    rcases lend_moves o kind { b with table := (b.table.find (holds b.host o)).2 } with
      hthin | ⟨e, rfl, rfl, hext, hcalls, hconfig, hslots⟩
    · exact Or.inl (hlookup.trans hthin)
    · refine Or.inr ⟨e, rfl, rfl, hd, ?_, hext, hcalls, hconfig, ?_⟩
      · exact (Table.find_eq_none_iff _ _).mp hfound
      · rw [hslots]
        simp

theorem leads_acquire (o : Obj) (kind : ElemKind) : Leads Move b (acquire o kind) := by
  refine Leads.single ?_
  rcases acquire_moves o kind b with hthin | ⟨e, _, _, hlend⟩
  · exact Or.inl (Settle.thin hthin)
  · exact Or.inr ⟨e, hlend⟩

end Acquire

end Bridge

end ArrayBridge
