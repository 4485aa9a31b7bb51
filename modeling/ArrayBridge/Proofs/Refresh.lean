import ArrayBridge.Proofs.RefCache

/-
  Refreshing one entry from its managed array. The runtime is asked once for the array now behind
  the entry's object, and the handle it answers is handed back at once, before the entry is
  touched; when either call fails, the bridge's tables are as they were. When the answer is the
  array the entry was made from, the array's values are copied into the entry's own storage
  (read through the pin for pinned storage, read as packed bytes and widened for a logical copy),
  and the storage stays in its slot at the same address. When the managed side has replaced the
  array, the slot is tombstoned and the entry finished with `abort`: a pin is handed back unused
  and a logical copy is dropped, so native edits never reach the replaced array. A text entry
  has no array and is left alone.

  `refreshEntry_of_recorded` says once what a refresh does to the bridge in terms of the runtime's
  answers; the codec's part is read off the entry's form (`Entry.Shaped`).

  Main statement: `Reachable.refreshEntry_copies_or_retires`.
-/

namespace ArrayBridge

variable {σ Obj Arr Pin : Type} [Host σ Obj Arr Pin]

open Op

/-! ## The codec on the two forms of storage that have an array -/

theorem ElemKind.cells?_of_passThrough {kind : ElemKind} (h : kind.isPassThrough = true) :
    kind.cells? = some kind.nativeCells := by
  cases kind <;> simp_all [ElemKind.isPassThrough, ElemKind.cells?, ElemKind.nativeCells]

namespace Codec

/-- Refreshing pinned storage of a kind that pins reads the array's elements, as the kind's
    cells, into the pin. -/
theorem refresh_pinned {kind : ElemKind} (hkind : kind.isPassThrough = true) (a : Arr) (p : Pin)
    (n : Nat) (h : σ) :
    refresh kind a (.pinned p n) h =
      match Host.readRegion a kind.nativeCells n h with
      | .ok cells h' => .ok (.pinned p n) (Host.storePinned p cells h')
      | .error s h' => .error s h' := by
  simp only [refresh, bind_apply, ofExcept_apply, pinnedCells_of_cells (ElemKind.cells?_of_passThrough hkind)]
  cases Host.readRegion a kind.nativeCells n h <;> rfl

/-- Refreshing a logical copy reads the array's packed bytes, as many as the copy holds, and
    widens them. -/
theorem refresh_logical (kind : ElemKind) (a : Arr) (w : List Int32) (h : σ) :
    (refresh kind a (.logical w) h : EStateM.Result Stop σ (Buffer Pin)) =
      match Host.readRegion a .raw w.length h with
      | .ok packed h' => .ok (.logical ((packed.region w.length).map widenLogical)) h'
      | .error s h' => .error s h' := by
  simp only [refresh, bind_apply]
  cases Host.readRegion a .raw w.length h <;> rfl

/-- Finishing pinned storage with `abort` hands the pin back unused and reports nothing. -/
theorem release_abort_pinned (kind : ElemKind) (o : Obj) (a : Arr) (p : Pin) (n : Nat) (h : σ) :
    release ⟨kind, o, some a, .pinned p n⟩ .abort h = Host.unpin a kind p .abort h := by
  simp only [release, bind_apply, reduceCtorEq, if_false]
  cases Host.unpin a kind p .abort h <;> rfl

/-- Finishing a logical copy with `abort` drops it with no runtime call. -/
theorem release_abort_logical (kind : ElemKind) (o : Obj) (a : Arr) (w : List Int32) (h : σ) :
    release (⟨kind, o, some a, .logical w⟩ : Entry Obj Arr Pin) .abort h = .ok () h := rfl

end Codec

namespace Bridge

variable {b : Bridge σ Obj Arr Pin}

/-! ## Refreshing one slot -/

/-- A tombstone is skipped. -/
theorem refreshEntry_of_dead {i : Nat} (hi : b.table.get? i = none) : refreshEntry i b = .ok () b := by
  unfold refreshEntry
  rw [bind_apply, get_apply]
  dsimp only
  rw [hi]
  rfl

/-- Refreshing a live entry made from array `a`, in terms of the runtime's answers: the array
    behind the object is looked up and its handle handed back; the same array is copied into the
    entry's storage after a trace record, another one retires the entry after a warning. -/
theorem refreshEntry_of_recorded {i : Nat} {e : Entry Obj Arr Pin} {a : Arr}
    (he : b.table.get? i = some e) (ha : e.array = some a) :
    refreshEntry i b =
      match Host.backingArray e.object e.kind b.host with
      | .error s h₁ => .error s { b with host := h₁ }
      | .ok current h₁ =>
        match Host.releaseArray current h₁ with
        | .error s h₂ => .error s { b with host := h₂ }
        | .ok _ h₂ =>
          if Host.sameArray h₁ current a then
            (onHost (Codec.refresh e.kind a e.buffer) >>= fun buffer =>
              modify fun b => { b with table := b.table.update i fun d => { d with buffer } })
              { b with host := (Host.log .trace mirrorTarget
                  s!"updateNativeArray(x={Host.showObject h₂ e.object}, ix={i}, kind={e.kind.name}): copying data from managed side" h₂) }
          else
            onHost (Codec.release e .abort)
              { b with table := (b.table.take i).2, host := (Host.log .warn mirrorTarget
                  s!"updateNativeArray(x={Host.showObject h₂ e.object}, ix={i}, kind={e.kind.name}): {staleCopy}" h₂) } := by
  unfold refreshEntry
  rw [bind_apply, get_apply]
  dsimp only
  rw [he]
  dsimp only
  rw [ha]
  dsimp only
  rw [bind_apply]
  cases hback : Host.backingArray e.object e.kind b.host with
  | error s h₁ => simp only [onHost, Op.focus, hback]
  | ok current h₁ =>
    simp only [onHost, Op.focus, hback]
    rw [bind_apply, get_apply]
    dsimp only
    rw [bind_apply]
    cases hrel : Host.releaseArray current h₁ with
    | error s h₂ => simp only [Op.focus, hrel]
    | ok u h₂ =>
      simp only [Op.focus, hrel]
      rw [bind_apply, get_apply]
      dsimp only
      -- the slot is read again after the record: it still holds `e`
      split
      · rw [bind_apply, note_apply]
        dsimp only
        rw [bind_apply, get_apply]
        dsimp only
        rw [he]
      · rw [bind_apply, note_apply]
        dsimp only
        rw [bind_apply, get_apply]
        dsimp only
        have htake : b.table.take i = (some e, (b.table.take i).2) := by
          rw [← Table.fst_take] at he
          rw [← he]
        rw [htake]
        rfl

/-- What refreshing the live entry `e` in slot `i` of `b`, made from array `a`, does. -/
structure RefreshOutcome (b : Bridge σ Obj Arr Pin) (i : Nat) (e : Entry Obj Arr Pin) (a : Arr) :
    Prop where
  /-- The storage is pinned or a logical copy. -/
  storage : (∃ p n, e.buffer = .pinned p n) ∨ ∃ w, e.buffer = .logical w
  /-- The runtime cannot say which array is behind the object: only the runtime has moved. -/
  lookup_fails : ∀ s h₁, Host.backingArray e.object e.kind b.host = .error s h₁ →
    refreshEntry i b = .error s { b with host := h₁ }
  /-- The handle looked up cannot be handed back: only the runtime has moved. -/
  handback_fails : ∀ current h₁ s h₂, Host.backingArray e.object e.kind b.host = .ok current h₁ →
    Host.releaseArray current h₁ = .error s h₂ → refreshEntry i b = .error s { b with host := h₂ }
  /-- The array is the one the entry was made from: after a log record, its values are copied
      into the entry's storage, which keeps its address in the slot. -/
  copies : ∀ current h₁ h₂, Host.backingArray e.object e.kind b.host = .ok current h₁ →
    Host.releaseArray current h₁ = .ok () h₂ → Host.sameArray h₁ current a = true →
    ∃ h₃, Host.Logged h₂ h₃ ∧
      (∀ buffer h₄, Codec.refresh e.kind a e.buffer h₃ = .ok buffer h₄ →
        refreshEntry i b =
          .ok () { b with host := h₄, table := b.table.update i fun d => { d with buffer } } ∧
        ∀ slot, buffer.address slot = e.buffer.address slot) ∧
      (∀ s h₄, Codec.refresh e.kind a e.buffer h₃ = .error s h₄ →
        refreshEntry i b = .error s { b with host := h₄ })
  /-- Pinned storage is refreshed by reading the array's elements into the pin. -/
  copy_pinned : ∀ p n, e.buffer = .pinned p n → ∀ h : σ,
    Codec.refresh e.kind a e.buffer h =
      match Host.readRegion a e.kind.nativeCells n h with
      | .ok cells h' => .ok e.buffer (Host.storePinned p cells h')
      | .error s h' => .error s h'
  /-- A logical copy is refreshed by reading the array's packed bytes and widening them. -/
  copy_logical : ∀ w, e.buffer = .logical w → ∀ h : σ,
    Codec.refresh e.kind a e.buffer h =
      match Host.readRegion a .raw w.length h with
      | .ok packed h' => .ok (.logical ((packed.region w.length).map widenLogical)) h'
      | .error s h' => .error s h'
  /-- The managed side has replaced the array: after a warning, the slot is tombstoned and then
      the entry is finished with `abort`. -/
  retires : ∀ current h₁ h₂, Host.backingArray e.object e.kind b.host = .ok current h₁ →
    Host.releaseArray current h₁ = .ok () h₂ → Host.sameArray h₁ current a = false →
    ∃ h₃, Host.Logged h₂ h₃ ∧
      refreshEntry i b = onHost (Codec.release e .abort) { b with table := (b.table.take i).2, host := h₃ }
  /-- Finishing with `abort` hands a pin back unused, with no copy and no report. -/
  abort_pinned : ∀ p n, e.buffer = .pinned p n → ∀ h : σ,
    Codec.release e .abort h = Host.unpin a e.kind p .abort h
  /-- Finishing a logical copy with `abort` makes no runtime call. -/
  abort_logical : ∀ w, e.buffer = .logical w → ∀ h : σ, Codec.release e .abort h = .ok () h

/-- A live entry of one of the three forms, with an array, is refreshed as `RefreshOutcome`
    says. -/
theorem refreshOutcome_of_shaped {i : Nat} {e : Entry Obj Arr Pin} {a : Arr}
    (he : b.table.get? i = some e) (hs : e.Shaped σ) (ha : e.array = some a) :
    RefreshOutcome b i e a := by
  have heq := refreshEntry_of_recorded he ha
  refine ⟨?_, fun s h₁ hback => by rw [heq, hback], fun current h₁ s h₂ hback hrel => by
    rw [heq, hback]; dsimp only; rw [hrel], ?copies, ?_, ?_, ?retires, ?_, ?_⟩
  case copies =>
    intro current h₁ h₂ hback hrel hsame
    obtain ⟨h₃, hlog, hcopy⟩ : ∃ h₃, Host.Logged h₂ h₃ ∧ refreshEntry i b =
        (onHost (Codec.refresh e.kind a e.buffer) >>= fun buffer =>
          modify fun b => { b with table := b.table.update i fun d => { d with buffer } })
          { b with host := h₃ } := by
      rw [heq, hback]
      dsimp only
      rw [hrel]
      dsimp only
      rw [if_pos hsame]
      exact ⟨_, .single ⟨_, _, _, rfl⟩, rfl⟩
    refine ⟨h₃, hlog, fun buffer h₄ hcall => ⟨?_, fun slot => ?_⟩, fun s h₄ hcall => ?_⟩
    · rw [hcopy, onHost_bind_apply, hcall]
      rfl
    · exact ((Codec.refresh_sameStorage hcall).address_eq slot).symm
    · rw [hcopy, onHost_bind_apply, hcall]
  case retires =>
    intro current h₁ h₂ hback hrel hsame
    rw [heq, hback]
    dsimp only
    rw [hrel]
    dsimp only
    rw [if_neg (by rw [hsame]; decide)]
    exact ⟨_, .single ⟨_, _, _, rfl⟩, rfl⟩
  all_goals
    obtain ⟨kind, o, array, buffer⟩ := e
    cases ha
  · cases hs with
    | pinned _ => exact .inl ⟨_, _, rfl⟩
    | logical _ => exact .inr ⟨_, rfl⟩
  · intro p n hbuf h
    cases hbuf
    cases hs with
    | pinned hpass => exact Codec.refresh_pinned hpass a p n h
  · intro w hbuf h
    cases hbuf
    exact Codec.refresh_logical kind a w h
  · intro p n hbuf h
    cases hbuf
    exact Codec.release_abort_pinned kind o a p n h
  · intro w hbuf h
    cases hbuf
    exact Codec.release_abort_logical kind o a w h

end Bridge

namespace Reachable

variable {env : σ → σ → Prop}

open Bridge

/-- In a reachable bridge, refreshing the live entry `e` in slot `i` leaves a text entry alone
    with no runtime call. An entry with an array `a` is pinned storage or a logical copy, and the
    refresh asks the runtime once for the array behind `e`'s object, then hands the answer back
    before touching the entry; if either call fails, only the runtime has moved. The same array
    is copied into `e`'s storage (through the pin, or as packed bytes widened), which stays live
    in slot `i` at the same address; a replaced array retires the entry: the slot is tombstoned
    and `e` finished with `abort`, which hands its pin back unused or drops its logical copy, so
    nothing is read from or written to any array, and nothing is reported. -/
theorem refreshEntry_copies_or_retires {b : Bridge σ Obj Arr Pin} (hb : Reachable env b) {i : Nat}
    {e : Entry Obj Arr Pin} (he : b.table.get? i = some e) :
    (e.array = none → refreshEntry i b = .ok () b) ∧
      ∀ a, e.array = some a → RefreshOutcome b i e a :=
  ⟨refreshEntry_of_text he, fun _ ha => refreshOutcome_of_shaped he (hb.shaped i e he) ha⟩

theorem refreshEntry_copies_or_retires_benchLent :
    Reachable (fun _ _ => True) (benchLent false .default) ∧
      (benchLent false .default).table.get? 0 = some ⟨.integer, ⟨0, 0⟩, some 0, .pinned 0 2⟩ ∧
      ((some 0 : Option Nat) = none → refreshEntry 0 (benchLent false .default) =
        .ok () (benchLent false .default)) ∧
      ∀ a, (some 0 : Option Nat) = some a →
        RefreshOutcome (benchLent false .default) 0 ⟨.integer, ⟨0, 0⟩, some 0, .pinned 0 2⟩ a := by
  have hb := reachable_benchLent false .default rfl (fun _ _ => True)
  have he : (benchLent false .default).table.get? 0 =
      some ⟨.integer, ⟨0, 0⟩, some 0, .pinned 0 2⟩ := by decide +kernel
  exact ⟨hb, he, refreshEntry_copies_or_retires hb he⟩

end Reachable

end ArrayBridge
