import ArrayBridge.Proofs.Moves

/-
  A ledger of pins. `Ledgered σ Pin` is a runtime `σ` together with a record of the pins it has
  handed the bridge (the answer of every successful `pin` call) and of the pins the bridge has
  handed back (every `unpin` call, with its mode, recorded before the runtime acts on it, so a
  call that then fails still counts). Every runtime call goes through to `σ` unchanged: the
  ledger only watches. A pin is outstanding while it has been handed out more often than handed
  back. The ledger also notes a stray access: an `unpin`, or a native read or store through a pin,
  made while the pin was not outstanding.

  `PinLedger.Balances l t` says that the ledger and a table agree: every pin handed out is the
  pin of one live entry of the table or was handed back once, nothing stray happened, and every
  live pinned entry still has the array it was pinned from.

  Main statements: what the codec's operations write in the ledger (`extract_ledger_ok`,
  `refresh_ledger`, `pushBack_ledger`, `release_ledger`) and how the table operations keep the
  balance (`Balances.retire`, `Balances.push`, `Balances.update`, `Balances.truncate`).
-/

namespace ArrayBridge

/-- The pins a runtime has handed the bridge and had back. -/
structure PinLedger (Pin : Type) where
  /-- Answers of successful pin calls, latest first. -/
  handed : List Pin
  /-- Pins passed to unpin, with the mode, latest first. -/
  returned : List (Pin × ReleaseMode)
  /-- Whether a pin was handed back, read or stored through while it was not outstanding. -/
  stray : Bool

namespace PinLedger

variable {Pin : Type}

/-- The ledger of a runtime that has handed out nothing. -/
def empty : PinLedger Pin := ⟨[], [], false⟩

/-- Record a pin handed out. -/
def hand (l : PinLedger Pin) (p : Pin) : PinLedger Pin := { l with handed := p :: l.handed }

/-- Record the pin of a buffer just made, if it is pinned storage. -/
def handOf (l : PinLedger Pin) (buffer : Buffer Pin) : PinLedger Pin :=
  match buffer.pin? with
  | some p => l.hand p
  | none => l

@[simp] theorem returned_handOf (l : PinLedger Pin) (buffer : Buffer Pin) :
    (l.handOf buffer).returned = l.returned := by
  unfold handOf
  split <;> rfl

@[simp] theorem stray_handOf (l : PinLedger Pin) (buffer : Buffer Pin) :
    (l.handOf buffer).stray = l.stray := by
  unfold handOf
  split <;> rfl

variable [DecidableEq Pin]

/-- Whether `p` has been handed out more often than handed back. -/
def outstanding (l : PinLedger Pin) (p : Pin) : Bool :=
  (l.returned.map Prod.fst).count p < l.handed.count p

/-- Record a pin handed back in a mode; handing back a pin that is not outstanding is stray. -/
def giveBack (l : PinLedger Pin) (p : Pin) (mode : ReleaseMode) : PinLedger Pin :=
  { l with returned := (p, mode) :: l.returned, stray := l.stray || !l.outstanding p }

/-- Record a native read or store through a pin; going through one that is not outstanding is
    stray. -/
def touch (l : PinLedger Pin) (p : Pin) : PinLedger Pin :=
  { l with stray := l.stray || !l.outstanding p }

/-- What finishing an entry writes in the ledger: the pin of pinned storage with its array is
    handed back in the mode of the release. -/
def release {Obj Arr : Type} (l : PinLedger Pin) (e : Entry Obj Arr Pin) (mode : ReleaseMode) :
    PinLedger Pin :=
  match e.buffer, e.array with
  | .pinned p _, some _ => l.giveBack p mode
  | _, _ => l

theorem touch_of_outstanding {l : PinLedger Pin} {p : Pin} (h : l.outstanding p = true) :
    l.touch p = l := by
  simp [touch, h]

/-- Finishing an entry hands back at most its own pin, in the mode of the release. -/
theorem release_returned {Obj Arr : Type} (l : PinLedger Pin) (e : Entry Obj Arr Pin)
    (mode : ReleaseMode) :
    ∃ new, (l.release e mode).returned = new ++ l.returned ∧ ∀ x ∈ new, x.2 = mode := by
  unfold release
  split
  · exact ⟨[(_, mode)], rfl, by simp⟩
  · exact ⟨[], rfl, by simp⟩

end PinLedger

/-! ## The pins of a table -/

namespace Table

variable {Obj Arr Pin : Type}

/-- The pins of the live pinned entries, in slot order. -/
def livePins (t : Table (Entry Obj Arr Pin)) : List Pin :=
  t.slots.toList.filterMap fun slot => slot.bind fun e => e.buffer.pin?

/-- Overwriting one element with one that `g` drops takes that element's image out. -/
theorem filterMap_set_perm {α β : Type} (g : α → Option β) {y : α} (hy : g y = none) :
    ∀ {l : List α} {i : Nat} {x : α}, l[i]? = some x →
      (l.filterMap g).Perm ((g x).toList ++ (l.set i y).filterMap g)
  | [], _, _, h => by simp at h
  | a :: l, 0, x, h => by
    obtain rfl : a = x := by simpa using h
    cases hx : g a <;> simp [hx, hy]
  | a :: l, i + 1, x, h => by
    have ih := filterMap_set_perm g hy (l := l) (i := i) (by simpa using h)
    rw [List.set_cons_succ]
    cases ha : g a with
    | none => simpa [List.filterMap_cons, ha] using ih
    | some b =>
      simp only [List.filterMap_cons, ha]
      exact (ih.cons b).trans List.perm_middle.symm

/-- Changing one element in a way `g` does not see keeps the images. -/
theorem filterMap_modify {α β : Type} (g : α → Option β) (f : α → α) :
    ∀ {l : List α} {i : Nat}, (∀ x, l[i]? = some x → g (f x) = g x) →
      (l.modify i f).filterMap g = l.filterMap g
  | [], _, _ => by simp
  | a :: l, 0, h => by
    rw [List.modify_zero_cons]
    simp [List.filterMap_cons, h a rfl]
  | a :: l, i + 1, h => by
    rw [List.modify_succ_cons]
    simp only [List.filterMap_cons,
      filterMap_modify g f (l := l) (i := i) fun x hx => h x (by simpa using hx)]

theorem livePins_of_slots {t t' : Table (Entry Obj Arr Pin)} (h : t'.slots = t.slots) :
    t'.livePins = t.livePins := by
  simp only [livePins, h]

@[simp] theorem livePins_withCapacity (c : Nat) :
    (withCapacity c : Table (Entry Obj Arr Pin)).livePins = [] := rfl

/-- Tombstoning a live slot takes its entry's pin out of the table. -/
theorem livePins_take {t : Table (Entry Obj Arr Pin)} {i : Nat} {e : Entry Obj Arr Pin}
    (he : t.get? i = some e) : t.livePins.Perm (e.buffer.pin?.toList ++ (t.take i).2.livePins) := by
  have hslot : t.slots.toList[i]? = some (some e) := by
    rw [Array.getElem?_toList]
    exact (get?_eq_some_iff t i e).mp he
  unfold take livePins
  rw [he]
  dsimp only
  rw [Array.toList_setIfInBounds]
  exact filterMap_set_perm _ (y := none) rfl hslot

theorem livePins_update {t : Table (Entry Obj Arr Pin)} {i : Nat} {f : Entry Obj Arr Pin → Entry Obj Arr Pin}
    (hf : ∀ e, t.get? i = some e → (f e).buffer.pin? = e.buffer.pin?) :
    (t.update i f).livePins = t.livePins := by
  unfold livePins update
  rw [Array.toList_modify]
  refine filterMap_modify _ _ fun slot hslot => ?_
  cases slot with
  | none => rfl
  | some e =>
    rw [Array.getElem?_toList] at hslot
    exact hf e ((get?_eq_some_iff t i e).mpr hslot)

/-- An appended entry's pin joins the table's, last. -/
theorem livePins_push (t : Table (Entry Obj Arr Pin)) (e : Entry Obj Arr Pin) :
    (t.push e).2.livePins = t.livePins ++ e.buffer.pin?.toList := by
  unfold livePins push
  rw [Array.toList_push, slots_reserve, List.filterMap_append]
  cases hp : e.buffer.pin? <;> simp [hp]

/-- Truncating a table whose slots from `n` on are tombstones loses no pin. -/
theorem livePins_truncate {t : Table (Entry Obj Arr Pin)} {n : Nat}
    (hdead : ∀ i, n ≤ i → t.get? i = none) : (t.truncate n).livePins = t.livePins := by
  have hrest : (t.slots.toList.drop n).filterMap (fun slot => slot.bind fun e => e.buffer.pin?)
      = [] := by
    refine List.filterMap_eq_nil_iff.mpr fun slot hslot => ?_
    obtain ⟨j, hj, rfl⟩ := List.mem_drop_iff_getElem.mp hslot
    cases hs : t.slots.toList[n + j] with
    | none => rfl
    | some e =>
      have hlive : t.get? (n + j) = some e := by
        rw [get?_eq_some_iff, ← Array.getElem?_toList, List.getElem?_eq_getElem (by omega), hs]
      rw [hdead (n + j) (Nat.le_add_right n j)] at hlive
      cases hlive
  unfold livePins truncate
  rw [Array.toList_extract, List.extract_eq_take_drop, List.drop_zero, Nat.sub_zero,
    ← List.take_append_drop n t.slots.toList, List.filterMap_append, hrest, List.append_nil,
    List.take_append_drop]

theorem livePins_eq_nil {t : Table (Entry Obj Arr Pin)} (h : t.hwm = 0) : t.livePins = [] := by
  unfold livePins
  rw [Array.toList_eq_nil_iff.mpr (Array.size_eq_zero_iff.mp h)]
  rfl

theorem mem_livePins {t : Table (Entry Obj Arr Pin)} {i : Nat} {e : Entry Obj Arr Pin} {p : Pin}
    (he : t.get? i = some e) (hp : e.buffer.pin? = some p) : p ∈ t.livePins :=
  (livePins_take he).mem_iff.mpr (by simp [hp])

end Table

/-- A runtime together with the ledger of its pins. -/
structure Ledgered (σ Pin : Type) where
  host : σ
  ledger : PinLedger Pin

namespace Ledgered

variable {σ Obj Arr Pin α : Type} [Host σ Obj Arr Pin]

/-- A runtime that has handed out no pin yet. -/
def fresh (host : σ) : Ledgered σ Pin := ⟨host, .empty⟩

/-- A runtime call that neither hands out nor takes back a pin. -/
def lift (m : Op σ α) : Op (Ledgered σ Pin) α :=
  Op.focus (·.host) (fun h t => { t with host := h }) m

/-- Pin an array, recording the pin handed out. -/
def pin (a : Arr) (kind : ElemKind) : Op (Ledgered σ Pin) (Pin × Nat) := fun t =>
  match Host.pin a kind t.host with
  | .ok (p, n) h => .ok (p, n) ⟨h, t.ledger.hand p⟩
  | .error e h => .error e ⟨h, t.ledger⟩

/-- The runtime changes between requests that `env` allows; they hand out and take back no
    pin. -/
def runtime (env : σ → σ → Prop) (t t' : Ledgered σ Pin) : Prop :=
  env t.host t'.host ∧ t'.ledger = t.ledger

/-! ## What the runtime's calls write in the ledger -/

theorem lift_apply (m : Op σ α) (t : Ledgered σ Pin) :
    lift m t = match m t.host with
      | .ok a h => .ok a { t with host := h }
      | .error e h => .error e { t with host := h } := rfl

theorem ledger_lift_ok {m : Op σ α} {t t' : Ledgered σ Pin} {a : α} (h : lift m t = .ok a t') :
    t'.ledger = t.ledger := by
  rw [lift_apply] at h
  split at h <;> cases h
  rfl

theorem ledger_lift_error {m : Op σ α} {t t' : Ledgered σ Pin} {e : Stop}
    (h : lift m t = .error e t') : t'.ledger = t.ledger := by
  rw [lift_apply] at h
  split at h <;> cases h
  rfl

theorem ledger_lift_after (m : Op σ α) (t : Ledgered σ Pin) :
    ((lift m).after t).ledger = t.ledger := by
  unfold Op.after
  rw [lift_apply]
  cases m t.host <;> rfl

theorem ledger_pin_ok {a : Arr} {kind : ElemKind} {t t' : Ledgered σ Pin} {p : Pin} {n : Nat}
    (h : pin a kind t = .ok (p, n) t') : t'.ledger = t.ledger.hand p := by
  unfold pin at h
  split at h <;> cases h
  rfl

theorem ledger_pin_error {a : Arr} {kind : ElemKind} {t t' : Ledgered σ Pin} {e : Stop}
    (h : pin a kind t = .error e t') : t'.ledger = t.ledger := by
  unfold pin at h
  split at h <;> cases h
  rfl

variable [DecidableEq Pin]

/-- Hand a pin back, recording it before the runtime acts on it. -/
def unpin (a : Arr) (kind : ElemKind) (p : Pin) (mode : ReleaseMode) :
    Op (Ledgered σ Pin) Unit := fun t =>
  lift (Host.unpin a kind p mode) { t with ledger := t.ledger.giveBack p mode }

/-- The runtime, watched by its ledger. -/
instance ledgeredHost : Host (Ledgered σ Pin) Obj Arr Pin where
  sameObject t := Host.sameObject t.host
  sameArray t := Host.sameArray t.host
  isValidRef t := Host.isValidRef t.host
  backingArray o kind := lift (Host.backingArray o kind)
  releaseArray a := lift (Host.releaseArray a)
  arrayLength a := lift (Host.arrayLength a)
  pin := pin
  unpin := unpin
  readRegion a t n := lift (Host.readRegion a t n)
  writeRegion a cells := lift (Host.writeRegion a cells)
  text o := lift (Host.text o)
  markConversion o complete := lift (Host.markConversion o complete)
  newGlobalRef o := lift (Host.newGlobalRef o)
  deleteGlobalRef o := lift (Host.deleteGlobalRef o)
  describe o := lift (Host.describe o)
  fatalError message := lift (Host.fatalError message)
  loadPinned t := Host.loadPinned t.host
  storePinned p cells t := ⟨Host.storePinned p cells t.host, t.ledger.touch p⟩
  readPinned p t n s := .ok (Host.loadPinned s.host p t n) { s with ledger := s.ledger.touch p }
  showObject t := Host.showObject t.host
  showAddress t := Host.showAddress t.host
  stamp t := Host.stamp t.host
  logs t := Host.logs t.host
  log level target message t := { t with host := Host.log level target message t.host }

/-! ## What the codec writes in the ledger -/

/-- From `t` to `t'` a ledger equal to `l` stays `l`. -/
def Keeps (l : PinLedger Pin) (t t' : Ledgered σ Pin) : Prop := t.ledger = l → t'.ledger = l

omit [Host σ Obj Arr Pin] [DecidableEq Pin] in
theorem Keeps.of_chain {l : PinLedger Pin} {t t' : Ledgered σ Pin}
    (h : Relation.ReflTransGen (Keeps l) t t') : Keeps l t t' := by
  induction h with
  | refl => exact id
  | tail _ hstep ih => exact hstep ∘ ih

omit [DecidableEq Pin] in
/-- An operation that keeps every ledger keeps the one it starts from. -/
theorem ledger_after_of_keeps {m : Op (Ledgered σ Pin) α} {t : Ledgered σ Pin}
    (h : Op.Leads (Keeps t.ledger) t m) : (m.after t).ledger = t.ledger :=
  Keeps.of_chain h rfl

omit [DecidableEq Pin] in
theorem keeps_lift (l : PinLedger Pin) (m : Op σ α) (t : Ledgered σ Pin) :
    Op.Leads (Keeps l) t (lift m) :=
  Op.Leads.single fun hl => (ledger_lift_after m t).trans hl

/-- Extracting a buffer records its pin when it lends pinned storage, and a pinned buffer comes
    with its array. -/
theorem extract_ledger_ok {o : Obj} {kind : ElemKind} {t t' : Ledgered σ Pin} {array : Option Arr}
    {buffer : Buffer Pin} (h : Codec.extract o kind t = .ok (array, buffer) t') :
    t'.ledger = t.ledger.handOf buffer ∧ ∀ p, buffer.pin? = some p → array.isSome := by
  cases kind with
  | integer | real | raw =>
    simp only [Codec.extract, Op.bind_apply] at h
    split at h
    · next a t₁ hb =>
      split at h
      · next pn t₂ hp =>
        obtain ⟨p, n⟩ := pn
        cases h
        refine ⟨?_, fun _ _ => rfl⟩
        rw [ledger_pin_ok hp, ledger_lift_ok hb]
        rfl
      · cases h
    · cases h
  | logical =>
    simp only [Codec.extract, Op.bind_apply] at h
    split at h
    · next a t₁ hb =>
      split at h
      · next len t₂ hl =>
        split at h
        · next packed t₃ hr =>
          cases h
          refine ⟨?_, fun _ hp => by cases hp⟩
          rw [ledger_lift_ok hr, ledger_lift_ok hl, ledger_lift_ok hb]
          rfl
        · cases h
      · cases h
    · cases h
  | char =>
    simp only [Codec.extract, Op.bind_apply] at h
    split at h
    · next bytes t₁ ht =>
      cases hnul : bytes.idxOf? 0 with
      | some position =>
        rw [hnul] at h
        cases h
      | none =>
        rw [hnul] at h
        cases h
        refine ⟨?_, fun _ hp => by cases hp⟩
        rw [ledger_lift_ok ht]
        rfl
    · cases h

/-- A failed extraction hands out no pin. -/
theorem extract_ledger_error {o : Obj} {kind : ElemKind} {t t' : Ledgered σ Pin} {e : Stop}
    (h : Codec.extract o kind t = .error e t') : t'.ledger = t.ledger := by
  cases kind with
  | integer | real | raw =>
    simp only [Codec.extract, Op.bind_apply] at h
    split at h
    · next a t₁ hb =>
      split at h
      · cases h
      · next e' t₂ hp =>
        cases h
        rw [ledger_pin_error hp, ledger_lift_ok hb]
    · next e' t₁ hb =>
      cases h
      exact ledger_lift_error hb
  | logical =>
    rw [← Op.after_of_error h]
    exact ledger_after_of_keeps ((keeps_lift _ _ _).bind fun _ _ _ =>
      (keeps_lift _ _ _).bind fun _ _ _ => (keeps_lift _ _ _).bind fun _ _ _ => Op.leads_pure _)
  | char =>
    rw [← Op.after_of_error h]
    refine ledger_after_of_keeps ((keeps_lift _ _ _).bind fun bytes _ _ => ?_)
    cases bytes.idxOf? 0 with
    | some _ => exact Op.leads_fail _
    | none => exact Op.leads_pure _

theorem ledger_unpin_after (a : Arr) (kind : ElemKind) (p : Pin) (mode : ReleaseMode)
    (t : Ledgered σ Pin) : ((unpin a kind p mode).after t).ledger = t.ledger.giveBack p mode :=
  ledger_lift_after _ _

/-- Pushing native contents back records at most a native read through the buffer's pin. -/
theorem pushBack_ledger (kind : ElemKind) (o : Obj) (array : Option Arr) (buffer : Buffer Pin)
    (t : Ledgered σ Pin) :
    ((Codec.pushBack kind o array buffer).after t).ledger = t.ledger ∨
      ∃ p, buffer.pin? = some p ∧
        ((Codec.pushBack kind o array buffer).after t).ledger = t.ledger.touch p := by
  cases buffer with
  | text _ => exact Or.inl rfl
  | pinned pin len =>
    cases array with
    | some a =>
      cases hc : Codec.pinnedCells kind with
      | error f =>
        refine Or.inl ?_
        simp only [Codec.pushBack]
        rw [Op.after_bind, Op.ofExcept_apply, hc]
      | ok cells =>
        refine Or.inr ⟨pin, rfl, ?_⟩
        simp only [Codec.pushBack]
        rw [Op.after_bind, Op.ofExcept_apply, hc]
        dsimp only
        rw [Op.after_bind]
        exact ledger_after_of_keeps ((keeps_lift _ _ _).bind fun _ _ _ => keeps_lift _ _ _)
    | none => exact Or.inl rfl
  | logical cells =>
    cases array with
    | some a =>
      exact Or.inl (ledger_after_of_keeps ((keeps_lift _ _ _).bind fun _ _ _ => keeps_lift _ _ _))
    | none => exact Or.inl rfl

/-- Refreshing a buffer records at most a native store through its pin. -/
theorem refresh_ledger (kind : ElemKind) (array : Arr) (buffer : Buffer Pin) (t : Ledgered σ Pin) :
    ((Codec.refresh kind array buffer).after t).ledger = t.ledger ∨
      ∃ p, buffer.pin? = some p ∧
        ((Codec.refresh kind array buffer).after t).ledger = t.ledger.touch p := by
  cases buffer with
  | text _ => exact Or.inl rfl
  | logical cells =>
    exact Or.inl (ledger_after_of_keeps ((keeps_lift _ _ _).bind fun _ _ _ => Op.leads_pure _))
  | pinned pin len =>
    cases hc : Codec.pinnedCells kind with
    | error f =>
      refine Or.inl ?_
      simp only [Codec.refresh]
      rw [Op.after_bind, Op.ofExcept_apply, hc]
    | ok cells =>
      simp only [Codec.refresh]
      rw [Op.after_bind, Op.ofExcept_apply, hc]
      dsimp only
      rw [Op.after_bind]
      cases hr : (Host.readRegion array cells len : Op (Ledgered σ Pin) Cells) t with
      | ok read t₁ =>
        refine Or.inr ⟨pin, rfl, ?_⟩
        change t₁.ledger.touch pin = _
        rw [ledger_lift_ok hr]
      | error _ t₁ => exact Or.inl (ledger_lift_error hr)

/-- Finishing an entry hands its pin back, in the mode of the release, when it is pinned
    storage with its array; it records nothing else. -/
theorem release_ledger (e : Entry Obj Arr Pin) (mode : ReleaseMode) (t : Ledgered σ Pin) :
    ((Codec.release e mode).after t).ledger = t.ledger.release e mode := by
  obtain ⟨kind, object, array, buffer⟩ := e
  cases buffer with
  | text _ => rfl
  | pinned pin len =>
    cases array with
    | some a =>
      simp only [Codec.release]
      rw [Op.after_bind]
      -- the pin is recorded as handed back before the runtime acts, so a failed unpin counts
      have hunpin := ledger_unpin_after a kind pin mode t
      cases hu : (Host.unpin a kind pin mode : Op (Ledgered σ Pin) Unit) t with
      | ok _ t₁ =>
        have hl : t₁.ledger = t.ledger.giveBack pin mode := by
          rwa [show (unpin a kind pin mode : Op (Ledgered σ Pin) Unit).after t = t₁ from
            Op.after_of_ok hu] at hunpin
        dsimp only
        split
        · exact (ledger_lift_after _ _).trans hl
        · exact hl
      | error _ t₁ =>
        rwa [show (unpin a kind pin mode : Op (Ledgered σ Pin) Unit).after t = t₁ from
          Op.after_of_error hu] at hunpin
    | none => rfl
  | logical cells =>
    cases array with
    | some a =>
      simp only [Codec.release]
      split
      · rfl
      · exact ledger_after_of_keeps ((keeps_lift _ _ _).bind fun _ _ _ => keeps_lift _ _ _)
    | none => rfl

end Ledgered

/-! ## A ledger that accounts for a table -/

namespace PinLedger

variable {Obj Arr Pin : Type}

/-- The ledger accounts for the table's pins: every pin handed out is the pin of one live entry
    or was handed back once, nothing stray happened, and every live pinned entry still has the
    array it was pinned from. -/
structure Balances (l : PinLedger Pin) (t : Table (Entry Obj Arr Pin)) : Prop where
  pins : l.handed.Perm (t.livePins ++ l.returned.map Prod.fst)
  clean : l.stray = false
  arrays : ∀ i e p, t.get? i = some e → e.buffer.pin? = some p → e.array.isSome

theorem balances_empty (c : Nat) :
    (empty : PinLedger Pin).Balances (Table.withCapacity c : Table (Entry Obj Arr Pin)) where
  pins := by simp [empty]
  clean := rfl
  arrays _ _ _ he := by simp at he

variable {l : PinLedger Pin} {t : Table (Entry Obj Arr Pin)}

theorem Balances.of_slots (h : l.Balances t) {t' : Table (Entry Obj Arr Pin)}
    (hs : t'.slots = t.slots) : l.Balances t' where
  pins := by rw [Table.livePins_of_slots hs]; exact h.pins
  clean := h.clean
  arrays i e p he := h.arrays i e p (by rwa [← Table.get?_of_slots hs])

/-- Appending the entry of a successful extraction keeps the balance: a pinned buffer's pin was
    handed out and is now the table's. -/
theorem Balances.push (h : l.Balances t) (kind : ElemKind) (o : Obj) {array : Option Arr}
    {buffer : Buffer Pin} (harr : ∀ p, buffer.pin? = some p → array.isSome) :
    (l.handOf buffer).Balances (t.push ⟨kind, o, array, buffer⟩).2 := by
  have harrays : ∀ j d p, (t.push ⟨kind, o, array, buffer⟩).2.get? j = some d →
      d.buffer.pin? = some p → d.array.isSome := by
    intro j d p hd hp
    rw [Table.get?_push] at hd
    split at hd
    · cases hd
      exact harr p hp
    · exact h.arrays j d p hd hp
  unfold handOf
  split
  · next p hp =>
    refine ⟨?_, h.clean, harrays⟩
    rw [Table.livePins_push]
    simp only [hp, Option.toList_some, hand, List.append_assoc, List.singleton_append]
    exact (h.pins.cons p).trans List.perm_middle.symm
  · next hp =>
    refine ⟨?_, h.clean, harrays⟩
    simpa [Table.livePins_push, hp] using h.pins

/-- Changing a live entry's values in the same storage keeps the balance. -/
theorem Balances.update (h : l.Balances t) {i : Nat}
    {f : Entry Obj Arr Pin → Entry Obj Arr Pin} (hf : ∀ e, t.get? i = some e → e.Kept (f e)) :
    l.Balances (t.update i f) where
  pins := by
    rw [Table.livePins_update fun e he => ((hf e he).storage.pin?_eq).symm]
    exact h.pins
  clean := h.clean
  arrays j d p hd hp := by
    rw [Table.get?_update] at hd
    split at hd
    · next hij =>
      subst hij
      obtain ⟨e, he, rfl⟩ := Option.map_eq_some_iff.mp hd
      have hk := hf e he
      rw [hk.array]
      exact h.arrays _ e p he (by rw [hk.storage.pin?_eq, hp])
    · exact h.arrays j d p hd hp

/-- Truncating the table where every slot from the mark on is a tombstone keeps the balance. -/
theorem Balances.truncate (h : l.Balances t) {n : Nat} (hdead : ∀ i, n ≤ i → t.get? i = none) :
    l.Balances (t.truncate n) where
  pins := by rw [Table.livePins_truncate hdead]; exact h.pins
  clean := h.clean
  arrays j d p hd hp := by
    rw [Table.get?_truncate] at hd
    split at hd
    · exact h.arrays j d p hd hp
    · cases hd

variable [DecidableEq Pin]

/-- The pin of a live entry is outstanding. -/
theorem Balances.outstanding (h : l.Balances t) {i : Nat} {e : Entry Obj Arr Pin} {p : Pin}
    (he : t.get? i = some e) (hp : e.buffer.pin? = some p) : l.outstanding p = true := by
  have hlive : 0 < t.livePins.count p := List.count_pos_iff.mpr (Table.mem_livePins he hp)
  have hcount := h.pins.count_eq p
  rw [List.count_append] at hcount
  simp only [PinLedger.outstanding, decide_eq_true_eq]
  omega

/-- Tombstoning a live entry and finishing it keeps the balance: a pinned entry's pin moves
    from the table to the pins handed back. -/
theorem Balances.retire (h : l.Balances t) {i : Nat} {e : Entry Obj Arr Pin}
    (he : t.get? i = some e) (mode : ReleaseMode) : (l.release e mode).Balances (t.take i).2 := by
  have harrays : ∀ j d p, (t.take i).2.get? j = some d → d.buffer.pin? = some p →
      d.array.isSome := by
    intro j d p hd hp
    rw [Table.get?_take] at hd
    split at hd
    · cases hd
    · exact h.arrays j d p hd hp
  obtain ⟨kind, object, array, buffer⟩ := e
  cases buffer with
  | pinned p n =>
    cases array with
    | some a =>
      refine ⟨?_, ?_, harrays⟩
      · have hmove := (Table.livePins_take he).append_right (l.returned.map Prod.fst)
        exact (h.pins.trans hmove).trans List.perm_middle.symm
      · simp [release, giveBack, h.clean, h.outstanding he rfl]
    | none => exact absurd (h.arrays i _ p he rfl) (by simp)
  | logical cells =>
    refine ⟨?_, h.clean, harrays⟩
    simpa [release, Buffer.pin?] using h.pins.trans ((Table.livePins_take he).append_right _)
  | text bytes =>
    refine ⟨?_, h.clean, harrays⟩
    simpa [release, Buffer.pin?] using h.pins.trans ((Table.livePins_take he).append_right _)

end PinLedger

end ArrayBridge
