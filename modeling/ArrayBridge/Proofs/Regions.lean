import ArrayBridge.Proofs.Shapes

/-
  Region copies on the test bench never mismatch. The bench keeps every array's element type
  and length: a region write or a native store lands only when it fits, and new arrays and
  references are added beside the old ones (`Heap.KeepsArrays`). Over a runtime that keeps its
  arrays too, every live entry fits the array it records (`Entry.Fits`): pinned storage is that
  array itself, of the cell type of the entry's kind and as long as the pin said, and a logical
  copy is as long as its byte array.

  So pushing back, refreshing or finishing a live entry through its array fails only where the
  bench injects a failure, never with a region mismatch (`Reachable.regions_fit`), and with the
  shapes of `Shapes` this gives `live_entries_shaped`.

  The relation `Bridge.Fitting` (the runtime keeps its arrays, and fitting entries still fit)
  is calm, so every request moves by it, as the pin ledger's `Accounts` does.
-/

namespace ArrayBridge

open Op

/-! ## Heaps that keep their arrays -/

namespace Heap

/-- `heap'` still has every array of `heap`, with its element type and length. -/
def KeepsArrays (heap heap' : Heap) : Prop :=
  ∀ a c, heap.cells? a = some c →
    ∃ c', heap'.cells? a = some c' ∧ c'.cellType = c.cellType ∧ c'.length = c.length

theorem KeepsArrays.refl (heap : Heap) : heap.KeepsArrays heap :=
  fun _ c hc => ⟨c, hc, rfl, rfl⟩

theorem KeepsArrays.trans {h₁ h₂ h₃ : Heap} (h₁₂ : h₁.KeepsArrays h₂) (h₂₃ : h₂.KeepsArrays h₃) :
    h₁.KeepsArrays h₃ := by
  intro a c hc
  obtain ⟨c₂, hc₂, ht₂, hl₂⟩ := h₁₂ a c hc
  obtain ⟨c₃, hc₃, ht₃, hl₃⟩ := h₂₃ a c₂ hc₂
  exact ⟨c₃, hc₃, ht₃.trans ht₂, hl₃.trans hl₂⟩

theorem keepsArrays_of_arrays {heap heap' : Heap} (h : heap'.arrays = heap.arrays) :
    heap.KeepsArrays heap' := by
  intro a c hc
  refine ⟨c, ?_, rfl, rfl⟩
  simp only [cells?, h]
  exact hc

/-- Overwriting an array with a run of its own type and length. -/
theorem keepsArrays_setCells {heap : Heap} {a : Nat} {c cells : Cells} (hc : heap.cells? a = some c)
    (htype : cells.cellType = c.cellType) (hlen : cells.length = c.length) :
    heap.KeepsArrays (heap.setCells a cells) := by
  intro a' c' hc'
  have ha : a < heap.arrays.size := (Array.getElem?_eq_some_iff.mp hc).1
  by_cases heq : a = a'
  · subst heq
    rw [hc] at hc'
    cases hc'
    exact ⟨cells, by simp [cells?, setCells, ha], htype, hlen⟩
  · exact ⟨c', by simpa [cells?, setCells, heq] using hc', rfl, rfl⟩

end Heap

namespace Bench

theorem fits_eq_true {c cells : Cells} :
    fits c cells = true ↔ cells.cellType = c.cellType ∧ cells.length = c.length := by
  rw [fits, Bool.and_eq_true, beq_iff_eq, beq_iff_eq, eq_comm, @eq_comm Nat]

/-- Reading the first `n` cells of a run of type `t` and length `n` as type `t` reads it all. -/
theorem view_self {c : Cells} {t : CellType} {n : Nat} (htype : c.cellType = t)
    (hlen : c.length = n) : view c t n = c := by
  subst htype hlen
  cases c <;> simp [view, Cells.cellType, Cells.length]

/-- From `h` to `h'` the heap keeps its arrays. -/
def KeepsArrays (h h' : Bench) : Prop := h.heap.KeepsArrays h'.heap

theorem KeepsArrays.of_heap {h h' : Bench} (e : h'.heap = h.heap) : KeepsArrays h h' := by
  unfold KeepsArrays
  rw [e]
  exact Heap.KeepsArrays.refl _

theorem KeepsArrays.of_chain {h h' : Bench} (hc : Relation.ReflTransGen KeepsArrays h h') :
    KeepsArrays h h' := by
  induction hc with
  | refl => exact KeepsArrays.of_heap rfl
  | tail _ hstep ih => exact Heap.KeepsArrays.trans ih hstep

/-! ### Every bench call keeps the arrays -/

variable {h : Bench}

theorem leads_record (c : HostCall) : Leads KeepsArrays h (record c) :=
  Leads.single (KeepsArrays.of_heap rfl)

theorem leads_gate (operation : String) : Leads KeepsArrays h (gate operation) := by
  unfold gate
  refine Leads.get_bind ?_
  split
  · exact (leads_record _).bind fun _ _ _ => leads_fail _
  · exact leads_pure _

/-- A call that records itself and may fail on purpose before anything else. -/
theorem leads_recorded {α : Type} (c : HostCall) (operation : String) {m : Op Bench α}
    (hm : ∀ h, Leads KeepsArrays h m) :
    Leads KeepsArrays h (record c >>= fun _ => gate operation >>= fun _ => m) :=
  (leads_record c).bind fun _ _ _ => (leads_gate operation).bind fun _ _ _ => hm _

theorem leads_backingArray (o : Handle) (kind : ElemKind) :
    Leads KeepsArrays h (backingArray o kind) := by
  refine leads_recorded _ _ fun _ => Leads.get_bind (Leads.of_after ?_)
  dsimp only
  split
  · split
    · split <;> rfl
    · rfl
  · rfl

theorem leads_releaseArray (a : Nat) : Leads KeepsArrays h (releaseArray a) := by
  unfold releaseArray
  refine Leads.get_bind ?_
  split
  · exact (leads_record _).bind fun _ _ _ => leads_gate _
  · exact leads_pure _

theorem leads_arrayLength (a : Nat) : Leads KeepsArrays h (arrayLength a) :=
  leads_recorded _ _ fun _ => Leads.get_bind (leads_pure _)

theorem leads_pin (a : Nat) (kind : ElemKind) : Leads KeepsArrays h (pin a kind) := by
  refine leads_recorded _ _ fun _ => Leads.get_bind (Leads.of_after ?_)
  split
  · split <;> rfl
  · rfl

theorem leads_unpin (a : Nat) (kind : ElemKind) (p : Nat) (mode : ReleaseMode) :
    Leads KeepsArrays h (unpin a kind p mode) :=
  (leads_record _).bind fun _ _ _ => leads_gate _

theorem leads_readRegion (a : Nat) (t : CellType) (n : Nat) :
    Leads KeepsArrays h (readRegion a t n) := by
  refine leads_recorded _ _ fun _ => Leads.get_bind (Leads.of_after ?_)
  split
  · split <;> rfl
  · rfl

/-- A region write lands only when it fits the array. -/
theorem leads_writeRegion (a : Nat) (cells : Cells) : Leads KeepsArrays h (writeRegion a cells) := by
  refine leads_recorded _ _ fun _ => Leads.get_bind ?_
  split
  · next c hc =>
    split
    · next hfit =>
      obtain ⟨htype, hlen⟩ := fits_eq_true.mp hfit
      exact Leads.single (Heap.keepsArrays_setCells hc htype hlen)
    · exact leads_fail _
  · exact leads_fail _

theorem leads_text (o : Handle) : Leads KeepsArrays h (text o) := by
  refine leads_recorded _ _ fun _ => Leads.get_bind (Leads.of_after ?_)
  split <;> rfl

theorem leads_markConversion (o : Handle) (complete : Bool) :
    Leads KeepsArrays h (markConversion o complete) :=
  (leads_record _).bind fun _ _ _ => leads_gate _

/-- A new reference names an old object: the arrays are untouched. -/
theorem leads_newGlobalRef (o : Handle) : Leads KeepsArrays h (newGlobalRef o) :=
  leads_recorded _ _ fun _ => Leads.get_bind (Leads.set_bind
    (Heap.keepsArrays_of_arrays rfl) (leads_pure _))

theorem leads_deleteGlobalRef (o : Handle) : Leads KeepsArrays h (deleteGlobalRef o) :=
  (leads_record _).bind fun _ _ _ => leads_gate _

theorem leads_describe (o : Handle) : Leads KeepsArrays h (Host.describe o : Op Bench _) := by
  refine Leads.get_bind (Leads.of_after ?_)
  split <;> rfl

theorem keepsArrays_storePinned (a : Nat) (cells : Cells) (h : Bench) :
    KeepsArrays h (storePinned a cells h) := by
  unfold storePinned
  split
  · next c hc =>
    split
    · next hfit =>
      obtain ⟨htype, hlen⟩ := fits_eq_true.mp hfit
      exact Heap.keepsArrays_setCells hc htype hlen
    · exact KeepsArrays.of_heap rfl
  · exact KeepsArrays.of_heap rfl

/-! ### The codec keeps the arrays -/

theorem leads_extract (o : Handle) (kind : ElemKind) :
    Leads KeepsArrays h (Codec.extract o kind : Op Bench _) := by
  cases kind with
  | logical =>
    exact (leads_backingArray ..).bind fun _ _ _ => (leads_arrayLength _).bind fun _ _ _ =>
      (leads_readRegion ..).bind fun _ _ _ => leads_pure _
  | char =>
    refine (leads_text _).bind fun bytes _ _ => ?_
    cases bytes.idxOf? 0 with
    | some _ => exact leads_fail _
    | none => exact leads_pure _
  | _ =>
    exact (leads_backingArray ..).bind fun _ _ _ => (leads_pin ..).bind fun _ _ _ => leads_pure _

theorem leads_pushBack (kind : ElemKind) (o : Handle) (array : Option Nat) (buffer : Buffer Nat) :
    Leads KeepsArrays h (Codec.pushBack kind o array buffer) := by
  cases buffer with
  | text _ => exact leads_pure _
  | pinned p n =>
    cases array with
    | some a =>
      exact Leads.bind (Leads.of_after (after_ofExcept _ h)) fun _ _ _ =>
        Leads.get_bind ((leads_writeRegion ..).bind fun _ _ _ => leads_markConversion ..)
    | none => exact leads_fail _
  | logical cells =>
    cases array with
    | some a => exact (leads_writeRegion ..).bind fun _ _ _ => leads_markConversion ..
    | none => exact leads_fail _

theorem leads_refresh (kind : ElemKind) (a : Nat) (buffer : Buffer Nat) :
    Leads KeepsArrays h (Codec.refresh kind a buffer : Op Bench _) := by
  cases buffer with
  | text _ => exact leads_pure _
  | pinned p n =>
    exact Leads.bind (Leads.of_after (after_ofExcept _ h)) fun _ _ _ =>
      (leads_readRegion ..).bind fun _ _ _ =>
        Leads.modify_bind (keepsArrays_storePinned _ _ _) (leads_pure _)
  | logical cells => exact (leads_readRegion ..).bind fun _ _ _ => leads_pure _

theorem leads_release (e : Entry Handle Nat Nat) (mode : ReleaseMode) :
    Leads KeepsArrays h (Codec.release e mode) := by
  obtain ⟨kind, o, array, buffer⟩ := e
  cases buffer with
  | text _ => exact leads_pure _
  | pinned p n =>
    cases array with
    | some a =>
      refine (leads_unpin ..).bind fun _ _ _ => ?_
      split
      · exact leads_markConversion ..
      · exact leads_pure _
    | none => exact leads_fail _
  | logical cells =>
    cases array with
    | some a =>
      dsimp only [Codec.release]
      split
      · exact leads_pure _
      · exact (leads_writeRegion ..).bind fun _ _ _ => leads_markConversion ..
    | none => exact leads_fail _

end Bench

/-! ## Entries that fit their arrays -/

/-- A live entry fits the array it records: pinned storage is that array, of the cell type of
    the entry's kind and as long as the pin said; a logical copy is as long as its byte array.
    A text copy fits whatever it records. -/
inductive Entry.Fits (heap : Heap) : Entry Handle Nat Nat → Prop
  | pinned {kind : ElemKind} {o : Handle} {a n : Nat} {c : Cells} :
      heap.cells? a = some c → kind.cells? = some c.cellType → c.length = n →
      Entry.Fits heap ⟨kind, o, some a, .pinned a n⟩
  | logical {kind : ElemKind} {o : Handle} {a : Nat} {cells : List Int32} {c : Cells} :
      heap.cells? a = some c → c.cellType = .raw → c.length = cells.length →
      Entry.Fits heap ⟨kind, o, some a, .logical cells⟩
  | text {kind : ElemKind} {o : Handle} {array : Option Nat} {bytes : List UInt8} :
      Entry.Fits heap ⟨kind, o, array, .text bytes⟩

namespace Entry.Fits

variable {heap heap' : Heap} {e e' : Entry Handle Nat Nat}

/-- An entry fits as long as the runtime keeps its arrays. -/
theorem mono (hf : e.Fits heap) (hk : heap.KeepsArrays heap') : e.Fits heap' := by
  cases hf with
  | pinned hc hkind hlen =>
    obtain ⟨c', hc', htype, hlen'⟩ := hk _ _ hc
    exact .pinned hc' (htype ▸ hkind) (hlen'.trans hlen)
  | logical hc hraw hlen =>
    obtain ⟨c', hc', htype, hlen'⟩ := hk _ _ hc
    exact .logical hc' (htype.trans hraw) (hlen'.trans hlen)
  | text => exact .text

/-- An entry fits while its element values change. -/
theorem kept (hf : e.Fits heap) (hk : e.Kept e') : e'.Fits heap := by
  obtain ⟨kind', o', array', buffer'⟩ := e'
  obtain ⟨hkind, hobject, harray, hstorage⟩ := hk
  cases hf with
  | pinned hc hcells hlen =>
    cases hkind
    cases harray
    cases buffer' with
    | pinned p' n' =>
      obtain ⟨rfl, rfl⟩ := hstorage
      exact .pinned hc hcells hlen
    | logical _ => exact hstorage.elim
    | text _ => exact hstorage.elim
  | logical hc hraw hlen =>
    cases harray
    cases buffer' with
    | logical cells' =>
      have hsame : _ = cells'.length := hstorage
      exact .logical hc hraw (hlen.trans hsame)
    | pinned _ _ => exact hstorage.elim
    | text _ => exact hstorage.elim
  | text =>
    cases buffer' with
    | text _ => exact .text
    | pinned _ _ => exact hstorage.elim
    | logical _ => exact hstorage.elim

end Entry.Fits

/-! ## What the bench answers -/

namespace Bench

theorem record_apply (c : HostCall) (h : Bench) :
    record c h = .ok () { h with calls := h.calls.push c } := rfl

/-- Recording a call leaves the heap alone. -/
theorem heap_record (c : HostCall) (h : Bench) :
    ({ h with calls := h.calls.push c } : Bench).heap = h.heap := rfl

/-- A call that goes through the gate leaves the bench as it was. -/
theorem gate_eq_ok {operation : String} {h h' : Bench} {u : Unit}
    (hg : gate operation h = .ok u h') : h' = h := by
  unfold gate at hg
  obtain ⟨_, _, hget, hg⟩ := bind_eq_ok.mp hg
  cases hget
  split at hg
  · obtain ⟨_, _, -, hg⟩ := bind_eq_ok.mp hg
    cases hg
  · cases hg
    rfl

/-- A call that records itself and passes the gate then runs on a bench with the same heap. -/
theorem recorded_eq_ok {α : Type} {c : HostCall} {operation : String} {m : Op Bench α}
    {h h' : Bench} {a : α} (hr : (record c >>= fun _ => gate operation >>= fun _ => m) h = .ok a h') :
    m { h with calls := h.calls.push c } = .ok a h' := by
  obtain ⟨_, h₁, hrec, hr⟩ := bind_eq_ok.mp hr
  cases hrec
  obtain ⟨_, h₂, hgate, hr⟩ := bind_eq_ok.mp hr
  cases gate_eq_ok hgate
  exact hr

theorem pinnable_cells {c : Cells} {kind : ElemKind} (h : pinnable c kind = true) :
    kind.cells? = some c.cellType := by
  unfold pinnable at h
  split at h
  all_goals first | rfl | cases h

/-- A pin is the array itself, of the cell type of the kind, as long as the array. -/
theorem pin_eq_ok {a : Nat} {kind : ElemKind} {h h' : Bench} {p n : Nat}
    (hp : pin a kind h = .ok (p, n) h') :
    p = a ∧ ∃ c, h'.heap.cells? a = some c ∧ kind.cells? = some c.cellType ∧ c.length = n := by
  have hp := recorded_eq_ok hp
  obtain ⟨_, _, hget, hp⟩ := bind_eq_ok.mp hp
  cases hget
  rw [heap_record] at hp
  cases hc : h.heap.cells? a with
  | none =>
    rw [hc] at hp
    cases hp
  | some c =>
    rw [hc] at hp
    dsimp only at hp
    by_cases hpin : pinnable c kind = true
    · rw [if_pos hpin] at hp
      cases hp
      exact ⟨rfl, c, hc, pinnable_cells hpin, rfl⟩
    · rw [if_neg hpin] at hp
      cases hp

/-- A region read answers the whole array, of the type and length asked for. -/
theorem readRegion_eq_ok {a : Nat} {t : CellType} {n : Nat} {h h' : Bench} {c : Cells}
    (hr : readRegion a t n h = .ok c h') :
    h'.heap.cells? a = some c ∧ c.cellType = t ∧ c.length = n := by
  have hr := recorded_eq_ok hr
  obtain ⟨_, _, hget, hr⟩ := bind_eq_ok.mp hr
  cases hget
  rw [heap_record] at hr
  cases hc : h.heap.cells? a with
  | none =>
    rw [hc] at hr
    cases hr
  | some c' =>
    rw [hc] at hr
    dsimp only at hr
    by_cases hfit : (c'.cellType == t && c'.length == n) = true
    · rw [if_pos hfit] at hr
      cases hr
      simp only [Bool.and_eq_true, beq_iff_eq] at hfit
      exact ⟨hc, hfit⟩
    · rw [if_neg hfit] at hr
      cases hr

end Bench

/-- Extraction on the bench makes an entry that fits the heap it leaves. -/
theorem Codec.extract_fits {o : Handle} {kind : ElemKind} {h h' : Bench} {array : Option Nat}
    {buffer : Buffer Nat} (hx : Codec.extract o kind h = .ok (array, buffer) h') :
    Entry.Fits h'.heap ⟨kind, o, array, buffer⟩ := by
  cases kind with
  | logical =>
    obtain ⟨a, h₁, -, hx⟩ := bind_eq_ok.mp hx
    obtain ⟨len, h₂, -, hx⟩ := bind_eq_ok.mp hx
    obtain ⟨packed, h₃, hread, hx⟩ := bind_eq_ok.mp hx
    cases hx
    obtain ⟨hc, htype, hlen⟩ := Bench.readRegion_eq_ok hread
    refine .logical hc htype ?_
    rw [List.length_map, Cells.length_region]
    exact hlen
  | char =>
    obtain ⟨bytes, h₁, -, hx⟩ := bind_eq_ok.mp hx
    cases hpos : bytes.idxOf? 0 with
    | some position =>
      rw [hpos] at hx
      cases hx
    | none =>
      rw [hpos] at hx
      cases hx
      exact .text
  | _ =>
    obtain ⟨a, h₁, -, hx⟩ := bind_eq_ok.mp hx
    obtain ⟨⟨p, n⟩, h₂, hpin, hx⟩ := bind_eq_ok.mp hx
    cases hx
    obtain ⟨rfl, c, hc, hkind, hlen⟩ := Bench.pin_eq_ok hpin
    exact .pinned hc hkind hlen

/-! ## Bridges whose entries fit -/

namespace Bridge

/-- Every live entry fits the array it records, in the runtime's current heap. -/
def Fitted (b : Bridge Bench Handle Nat Nat) : Prop :=
  ∀ i e, b.table.get? i = some e → e.Fits b.host.heap

/-- From `b` to `b'` the runtime keeps its arrays, and a bridge whose entries fit still does. -/
structure Fitting (b b' : Bridge Bench Handle Nat Nat) : Prop where
  keeps : b.host.heap.KeepsArrays b'.host.heap
  fitted : b.Fitted → b'.Fitted

theorem Fitting.refl (b : Bridge Bench Handle Nat Nat) : Fitting b b :=
  ⟨Heap.KeepsArrays.refl _, id⟩

theorem Fitting.trans {b₁ b₂ b₃ : Bridge Bench Handle Nat Nat} (h₁ : Fitting b₁ b₂)
    (h₂ : Fitting b₂ b₃) : Fitting b₁ b₃ :=
  ⟨h₁.keeps.trans h₂.keeps, h₂.fitted ∘ h₁.fitted⟩

theorem Fitting.of_chain {b b' : Bridge Bench Handle Nat Nat}
    (h : Relation.ReflTransGen Fitting b b') : Fitting b b' := by
  induction h with
  | refl => exact Fitting.refl b
  | tail _ hstep ih => exact ih.trans hstep

/-- A move whose live entries were live before, with the same storage, over a runtime that kept
    its arrays. -/
theorem Fitting.of_within {b b' : Bridge Bench Handle Nat Nat}
    (hk : b.host.heap.KeepsArrays b'.host.heap) (hw : b.table.Within Entry.Kept b'.table) :
    Fitting b b' where
  keeps := hk
  fitted hb i e' he' := by
    obtain ⟨e, he, hkept⟩ := hw.live i e' he'
    exact ((hb i e he).kept hkept).mono hk

variable {b : Bridge Bench Handle Nat Nat}

theorem fitting_onHost {α : Type} {m : Op Bench α} (hm : Leads Bench.KeepsArrays b.host m) :
    Leads Fitting b (onHost m) :=
  Leads.single (by
    rw [after_onHost]
    exact Fitting.of_within (Bench.KeepsArrays.of_chain hm)
      (Table.Within.of_slots Entry.Kept.refl rfl))

/-- Records on the bench are dropped, so noting one changes nothing. -/
theorem calm_fitting : Calm Fitting where
  note _ _ _ _ := Leads.of_after rfl
  slots _ _ hs := Fitting.of_within (Heap.KeepsArrays.refl _) (Table.Within.of_slots Entry.Kept.refl hs)
  cache _ _ := Fitting.of_within (Heap.KeepsArrays.refl _) (Table.Within.of_slots Entry.Kept.refl rfl)
  newRef _ o := fitting_onHost (Bench.leads_newGlobalRef o)
  deleteRef _ o := fitting_onHost (Bench.leads_deleteGlobalRef o)
  pushBack _ _ e _ := fitting_onHost (Bench.leads_pushBack e.kind e.object e.array e.buffer)

/-- Tombstoning a slot keeps the other entries where they are. -/
theorem fitting_take (b : Bridge Bench Handle Nat Nat) (index : Nat) :
    Fitting b { b with table := (b.table.take index).2 } :=
  Fitting.of_within (Heap.KeepsArrays.refl _) (Table.within_take Entry.Kept.refl _ _)

theorem fitting_releaseEntry (index : Nat) (mode : ReleaseMode) :
    Leads Fitting b (releaseEntry index mode) :=
  leads_releaseEntry_of calm_fitting.note index mode (fun _ _ => fitting_take b index)
    fun _ e => fitting_onHost (Bench.leads_release e mode)

theorem fitting_refreshEntry (index : Nat) : Leads Fitting b (refreshEntry index) := by
  refine leads_refreshEntry_of calm_fitting.quiet
    (fun _ o kind => fitting_onHost (Bench.leads_backingArray o kind))
    (fun _ a => fitting_onHost (Bench.leads_releaseArray a))
    (fun _ _ _ _ kind array => fitting_onHost (Bench.leads_refresh kind array _)) ?_
    (fun b index _ _ => Leads.set_bind (fitting_take b index)
      (fitting_onHost (Bench.leads_release _ _))) index
  intro b index live kind array buffer h' hlive hcall
  refine Fitting.of_within (Heap.KeepsArrays.refl _)
    (Table.within_update Entry.Kept.refl _ index _ fun d hd => ?_)
  change b.table.get? index = some d at hd
  rw [hlive] at hd
  cases hd
  exact ⟨rfl, rfl, rfl, Codec.refresh_sameStorage hcall⟩

theorem fitting_exitCall : Leads Fitting b exitCall := by
  refine leads_exitCall_of calm_fitting.note
    (calm_fitting.releaseFrom fun _ i => fitting_releaseEntry i .copyBack)
    fun frame _ b₁ _ _ => ⟨Heap.KeepsArrays.refl _, fun hb i e he => ?_⟩
  change (b₁.table.truncate frame.mark).get? i = some e at he
  rw [Table.get?_truncate] at he
  split at he
  · exact hb i e he
  · cases he

theorem fitting_enterCall (token : Nat) : Leads Fitting b (enterCall token) :=
  leads_enterCall_of calm_fitting.note token fun _ _ _ =>
    Fitting.of_within (Heap.KeepsArrays.refl _) (Table.Within.of_slots Entry.Kept.refl rfl)

/-- A lend appends an entry that fits the heap its extraction left. -/
theorem fitting_lend (o : Handle) (kind : ElemKind) : Leads Fitting b (lend o kind) := by
  unfold lend
  refine (calm_fitting.reserveSlot b).bind fun _ b₂ _ => ?_
  have hextract := fitting_onHost (b := b₂) (Bench.leads_extract o kind)
  unfold Leads
  rw [after_bind]
  cases hx : onHost (Codec.extract o kind) b₂ with
  | error err b₃ => exact hextract.of_error hx
  | ok p b₃ =>
    obtain ⟨array, buffer⟩ := p
    have hmove := hextract.of_ok hx
    obtain ⟨h₃, hext, rfl⟩ := onHost_eq_ok.mp hx
    dsimp only
    rw [after_bind]
    dsimp only [get_apply]
    rcases hpush : ({ b₂ with host := h₃ } : Bridge Bench Handle Nat Nat).table.push
      ⟨kind, o, array, buffer⟩ with ⟨index, table⟩
    have htable : table = (b₂.table.push ⟨kind, o, array, buffer⟩).2 :=
      (congrArg Prod.snd hpush).symm
    dsimp only
    rw [after_bind]
    dsimp only [set_apply]
    have happend : Fitting { b₂ with host := h₃ } { b₂ with host := h₃, table := table } := by
      refine ⟨Heap.KeepsArrays.refl _, fun hb i e he => ?_⟩
      change table.get? i = some e at he
      rw [htable, Table.get?_push] at he
      split at he
      · cases he
        exact Codec.extract_fits hext
      · exact hb i e he
    refine hmove.trans (.head happend ?_)
    exact leads_lendTail_of calm_fitting.note (fun _ o => fitting_onHost (Bench.leads_describe o))
      o kind index buffer

theorem fitting_acquire (o : Handle) (kind : ElemKind) : Leads Fitting b (acquire o kind) := by
  unfold acquire
  refine Leads.get_bind ?_
  dsimp only
  split
  · exact Leads.of_after rfl
  · refine Leads.bind (Leads.of_after (after_validate o _)) fun _ _ _ =>
      (calm_fitting.lookup _ o).bind fun found _ _ => ?_
    split
    · refine Leads.get_bind ?_
      split
      · exact leads_reuse_of calm_fitting.note ..
      · exact fitting_lend o kind
    · exact fitting_lend o kind

end Bridge

open Bridge

/-- Every request keeps the runtime's arrays, and entries that fit them still do. -/
theorem Request.fitting {b : Bridge Bench Handle Nat Nat} (r : Request Handle) :
    Leads Fitting b r.run := by
  have drop : ∀ {α : Type} {m : Op (Bridge Bench Handle Nat Nat) α},
      Leads Fitting b m → Leads Fitting b (m >>= fun _ => pure ()) :=
    fun h => h.bind fun _ _ _ => leads_pure _
  cases r with
  | enterCall token => exact drop (fitting_enterCall token)
  | exitCall => exact fitting_exitCall
  | exitToDepth depth => exact leads_exitToDepth_of (fun _ => fitting_exitCall) depth
  | recoveryPoint => exact drop leads_recoveryPoint
  | acquire o kind => exact drop (fitting_acquire o kind)
  | invalidate o =>
    exact drop (calm_fitting.invalidate (fun _ i => fitting_releaseEntry i .copyBack) o)
  | releaseEntry index mode => exact drop (fitting_releaseEntry index mode)
  | refresh o => exact drop (calm_fitting.refresh (fun _ => fitting_refreshEntry) o)
  | refreshAll => exact leads_refreshAll_of fun _ => fitting_refreshEntry
  | pushToManaged o => exact drop (calm_fitting.pushToManaged o)
  | pushBackAll => exact calm_fitting.pushBackAll
  | createRef o permanent => exact drop (calm_fitting.createRef o permanent)
  | findRef o => exact drop (calm_fitting.findRef o)
  | checkRef o => exact drop (calm_fitting.checkRef o)
  | releaseRef o => exact drop (calm_fitting.releaseRef o)

/-! ## Failures of region calls -/

namespace Bench

/-- Every way `m` can fail from `h` is a failure the bench injected. -/
def FailsInjected {α : Type} (m : Op Bench α) (h : Bench) : Prop :=
  ∀ s h', m h = .error s h' → ∃ operation, s = .fault (.host operation "injected failure")

variable {α β : Type} {h : Bench}

theorem failsInjected_of_ok {m : Op Bench α} {a : α} {h' : Bench} (hm : m h = .ok a h') :
    FailsInjected m h := by
  intro s h'' he
  rw [hm] at he
  cases he

theorem FailsInjected.bind {m : Op Bench α} {f : α → Op Bench β} (hm : FailsInjected m h)
    (hf : ∀ a h', m h = .ok a h' → FailsInjected (f a) h') : FailsInjected (m >>= f) h := by
  intro s h'' he
  rw [bind_apply] at he
  cases hms : m h with
  | ok a h' =>
    rw [hms] at he
    exact hf a h' hms s h'' he
  | error e h' =>
    rw [hms] at he
    cases he
    exact hm _ _ hms

theorem failsInjected_gate (operation : String) (h : Bench) :
    FailsInjected (gate operation) h := by
  unfold gate
  refine (failsInjected_of_ok rfl).bind fun _ _ hget => ?_
  cases hget
  split
  · intro s h' he
    cases he
    exact ⟨operation, rfl⟩
  · exact failsInjected_of_ok rfl

/-- A call that records itself and passes the gate runs on a bench with the same heap. -/
theorem failsInjected_recorded (c : HostCall) (operation : String) {m : Op Bench α}
    (hm : ∀ h', h'.heap = h.heap → FailsInjected m h') :
    FailsInjected (record c >>= fun _ => gate operation >>= fun _ => m) h :=
  (failsInjected_of_ok (record_apply c h)).bind fun _ _ hrec => by
    cases hrec
    exact (failsInjected_gate operation _).bind fun _ _ hgate => by
      cases gate_eq_ok hgate
      exact hm _ rfl

theorem failsInjected_unpin (a : Nat) (kind : ElemKind) (p : Nat) (mode : ReleaseMode) (h : Bench) :
    FailsInjected (unpin a kind p mode) h :=
  (failsInjected_of_ok (record_apply _ h)).bind fun _ _ _ => failsInjected_gate _ _

theorem failsInjected_markConversion (o : Handle) (complete : Bool) (h : Bench) :
    FailsInjected (markConversion o complete) h :=
  (failsInjected_of_ok (record_apply _ h)).bind fun _ _ _ => failsInjected_gate _ _

/-- A region read of an array's own type and length fails only on purpose. -/
theorem failsInjected_readRegion {a : Nat} {c : Cells} (hc : h.heap.cells? a = some c) :
    FailsInjected (readRegion a c.cellType c.length) h :=
  failsInjected_recorded _ _ fun h' hheap => by
    refine (failsInjected_of_ok rfl).bind fun _ _ hget => ?_
    cases hget
    rw [hheap, hc]
    dsimp only
    rw [if_pos (by simp)]
    exact failsInjected_of_ok rfl

/-- A region write of a run that fits the array fails only on purpose. -/
theorem failsInjected_writeRegion {a : Nat} {c cells : Cells} (hc : h.heap.cells? a = some c)
    (htype : cells.cellType = c.cellType) (hlen : cells.length = c.length) :
    FailsInjected (writeRegion a cells) h :=
  failsInjected_recorded _ _ fun h' hheap => by
    refine (failsInjected_of_ok rfl).bind fun _ _ hget => ?_
    cases hget
    rw [hheap, hc]
    dsimp only
    rw [if_pos (fits_eq_true.mpr ⟨htype, hlen⟩)]
    exact failsInjected_of_ok rfl

end Bench

theorem Codec.pinnedCells_of_cells {kind : ElemKind} {t : CellType} (hkind : kind.cells? = some t) :
    Codec.pinnedCells kind = .ok t := by
  unfold Codec.pinnedCells
  rw [hkind]

theorem length_narrowLogicals (cells : List Int32) : (narrowLogicals cells).1.length = cells.length := by
  simp [narrowLogicals]

namespace Entry.Fits

open Bench

variable {e : Entry Handle Nat Nat} {h : Bench}

/-- Narrowing a logical copy into its byte array fails only on purpose. -/
theorem failsInjected_narrow {a : Nat} {c : Cells} {cells : List Int32}
    (hc : h.heap.cells? a = some c) (hraw : c.cellType = .raw) (hlen : c.length = cells.length)
    (o : Handle) :
    FailsInjected (do
      Host.writeRegion a (Cells.raw (narrowLogicals cells).1)
      Host.markConversion o (narrowLogicals cells).2 : Op Bench Unit) h := by
  have htype : (Cells.raw (narrowLogicals cells).1).cellType = c.cellType := hraw.symm
  have hbytes : (Cells.raw (narrowLogicals cells).1).length = c.length :=
    (length_narrowLogicals cells).trans hlen.symm
  exact (failsInjected_writeRegion hc htype hbytes).bind fun _ _ _ =>
    failsInjected_markConversion _ _ _

/-- Pushing a fitting entry back fails only on purpose. -/
theorem pushBack_injected (hf : e.Fits h.heap) :
    FailsInjected (Codec.pushBack e.kind e.object e.array e.buffer) h := by
  cases hf with
  | pinned hc hkind hlen =>
    dsimp only [Codec.pushBack]
    rw [Codec.pinnedCells_of_cells hkind]
    refine (failsInjected_of_ok rfl).bind fun _ _ ht => ?_
    cases ht
    refine (failsInjected_of_ok rfl).bind fun _ _ hget => ?_
    cases hget
    -- the values read through the pin are the array's own, so they fit it
    simp only [hc, view_self rfl hlen]
    exact (failsInjected_writeRegion hc rfl rfl).bind fun _ _ _ => failsInjected_markConversion _ _ _
  | logical hc hraw hlen => exact failsInjected_narrow hc hraw hlen _
  | text => exact failsInjected_of_ok rfl

/-- Refreshing a fitting entry from its array fails only on purpose. -/
theorem refresh_injected (hf : e.Fits h.heap) {a : Nat} (ha : e.array = some a) :
    FailsInjected (Codec.refresh e.kind a e.buffer) h := by
  cases hf with
  | pinned hc hkind hlen =>
    cases ha
    subst hlen
    dsimp only [Codec.refresh]
    rw [Codec.pinnedCells_of_cells hkind]
    refine (failsInjected_of_ok rfl).bind fun _ _ ht => ?_
    cases ht
    exact (failsInjected_readRegion hc).bind fun _ _ _ => failsInjected_of_ok rfl
  | logical hc hraw hlen =>
    cases ha
    dsimp only [Codec.refresh]
    rw [← hraw, ← hlen]
    exact (failsInjected_readRegion hc).bind fun _ _ _ => failsInjected_of_ok rfl
  | text => exact failsInjected_of_ok rfl

/-- Finishing a fitting entry fails only on purpose. -/
theorem release_injected (hf : e.Fits h.heap) (mode : ReleaseMode) :
    FailsInjected (Codec.release e mode) h := by
  cases hf with
  | pinned hc hkind hlen =>
    dsimp only [Codec.release]
    refine (failsInjected_unpin _ _ _ _ _).bind fun _ _ _ => ?_
    split
    · exact failsInjected_markConversion _ _ _
    · exact failsInjected_of_ok rfl
  | logical hc hraw hlen =>
    dsimp only [Codec.release]
    split
    · exact failsInjected_of_ok rfl
    · exact failsInjected_narrow hc hraw hlen _
  | text => exact failsInjected_of_ok rfl

end Entry.Fits

section Runs

variable {env : Bench → Bench → Prop} (henv : ∀ h h', env h h' → h.heap.KeepsArrays h'.heap)
include henv

/-- Every step keeps entries fitting: requests do, the runtime keeps its arrays, and a native
    store into a logical buffer keeps its length. -/
theorem Step.fitted {b b' : Bridge Bench Handle Nat Nat} (hs : Step env b b') (hb : b.Fitted) :
    b'.Fitted := by
  cases hs with
  | request r => exact (Fitting.of_chain (Request.fitting r)).fitted hb
  | runtime hrun =>
    rename_i h
    have hmove : Fitting b { b with host := h } :=
      Fitting.of_within (henv _ _ hrun) (Table.Within.of_slots Entry.Kept.refl rfl)
    exact hmove.fitted hb
  | store cells he hbuf hlen =>
    rename_i i e old
    have hmove : Fitting b
        { b with table := b.table.update i fun d => { d with buffer := .logical cells } } :=
      Fitting.of_within (Heap.KeepsArrays.refl _) (store_thins he hbuf hlen).table
    exact hmove.fitted hb

theorem Reachable.fitted {b : Bridge Bench Handle Nat Nat} (hb : Reachable env b) : b.Fitted := by
  induction hb with
  | start hnew =>
    obtain ⟨_, rfl⟩ := Bridge.new_eq_ok hnew
    intro i e he
    simp at he
  | step _ hs ih => exact hs.fitted henv ih

/-- Over a runtime that keeps its arrays, pushing back, refreshing or finishing a live entry
    through its array fails only where the bench injects a failure. -/
theorem Reachable.regions_fit {b : Bridge Bench Handle Nat Nat} (hb : Reachable env b) {i : Nat}
    {e : Entry Handle Nat Nat} (he : b.table.get? i = some e) :
    Bench.FailsInjected (Codec.pushBack e.kind e.object e.array e.buffer) b.host ∧
      (∀ a, e.array = some a → Bench.FailsInjected (Codec.refresh e.kind a e.buffer) b.host) ∧
      ∀ mode, Bench.FailsInjected (Codec.release e mode) b.host := by
  have hfit := hb.fitted henv i e he
  exact ⟨hfit.pushBack_injected, fun _ ha => hfit.refresh_injected ha, hfit.release_injected⟩

end Runs

/-- Every live entry of a reachable bridge, over any runtime, has one of the three forms: the
    codec's branches for storage without an array and for pinned storage of a kind that is never
    pinned are never taken, and a char entry is finished, pushed back and refreshed with no
    runtime call. On the bench, over a runtime that keeps each array's element type and length,
    pushing back, refreshing or finishing a live entry through its array fails only where the
    bench injects a failure, never with a region mismatch. -/
theorem live_entries_shaped :
    (∀ {σ Obj Arr Pin : Type} [Host σ Obj Arr Pin] {env : σ → σ → Prop}
        {b : Bridge σ Obj Arr Pin}, Reachable env b → ∀ i e, b.table.get? i = some e →
      e.Shaped σ ∧ (e.array = none → ∃ bytes, e.buffer = .text bytes) ∧
        (∀ p n, e.buffer = .pinned p n → ∃ t, Codec.pinnedCells e.kind = .ok t) ∧
        (e.kind = .char → (∀ mode (h : σ), Codec.release e mode h = .ok () h) ∧
          (∀ h : σ, Codec.pushBack e.kind e.object e.array e.buffer h = .ok () h) ∧
          refreshEntry i b = .ok () b)) ∧
    ∀ {env : Bench → Bench → Prop}, (∀ h h', env h h' → h.heap.KeepsArrays h'.heap) →
      ∀ {b : Bridge Bench Handle Nat Nat}, Reachable env b → ∀ i e, b.table.get? i = some e →
        Bench.FailsInjected (Codec.pushBack e.kind e.object e.array e.buffer) b.host ∧
        (∀ a, e.array = some a → Bench.FailsInjected (Codec.refresh e.kind a e.buffer) b.host) ∧
        ∀ mode, Bench.FailsInjected (Codec.release e mode) b.host := by
  refine ⟨fun hb i e he => ?_, fun henv _ hb _ _ he => hb.regions_fit henv he⟩
  have hs := hb.shaped i e he
  refine ⟨hs, hs.text_of_array_none, fun _ _ hp => hs.pinnedCells_ok hp, fun hchar => ?_⟩
  exact ⟨hs.release_text hchar, hs.pushBack_text hchar,
    refreshEntry_of_text he (hs.of_char hchar).1⟩

/-- The bench bridge that has lent `[1, 2]` as integers, over a runtime that does not change,
    holds the vector's pinned storage in slot 0. -/
theorem live_entries_shaped_benchLent :
    Reachable (fun h h' : Bench => h' = h) (Reachable.benchLent false .default) ∧
      (Reachable.benchLent false .default).table.get? 0 = some ⟨.integer, ⟨0, 0⟩, some 0, .pinned 0 2⟩ ∧
      (∀ h h' : Bench, h' = h → h.heap.KeepsArrays h'.heap) ∧
      (⟨.integer, ⟨0, 0⟩, some 0, .pinned 0 2⟩ : Entry Handle Nat Nat).Shaped Bench ∧
      Bench.FailsInjected (Codec.pushBack .integer ⟨0, 0⟩ (some 0) (.pinned 0 2))
        (Reachable.benchLent false .default).host ∧
      ∀ mode, Bench.FailsInjected (Codec.release ⟨.integer, ⟨0, 0⟩, some 0, .pinned 0 2⟩ mode)
        (Reachable.benchLent false .default).host := by
  have hb := Reachable.reachable_benchLent false .default rfl (fun h h' : Bench => h' = h)
  have he : (Reachable.benchLent false .default).table.get? 0 =
      some ⟨.integer, ⟨0, 0⟩, some 0, .pinned 0 2⟩ := by decide +kernel
  have henv : ∀ h h' : Bench, h' = h → h.heap.KeepsArrays h'.heap := fun h _ hh =>
    hh ▸ Heap.KeepsArrays.refl h.heap
  obtain ⟨hpush, -, hrelease⟩ := live_entries_shaped.2 henv hb 0 _ he
  exact ⟨hb, he, henv, (live_entries_shaped.1 hb 0 _ he).1, hpush, hrelease⟩

end ArrayBridge
