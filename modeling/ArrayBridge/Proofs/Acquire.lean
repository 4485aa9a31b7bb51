import ArrayBridge.Proofs.Logical
import ArrayBridge.Proofs.Pins

/-
  A failed acquire changes nothing the bridge owns but the capacity. `acquire` has four exits
  before it commits: no call in flight, an invalid reference (with validation on), a cached entry
  of another element width, and a failed extraction of a new buffer (`AcquireFailure`). Room for
  a new slot is made before the extraction, so only on that last exit has the table grown; its
  slots, the frames, the reference cache and the configuration are as before on every exit, and
  only the lookup's last hit and the runtime move. The runtime is asked for a class name only
  after the entry is appended, and that question is answered (`Host.DescribeTotal`), so nothing
  fails after the commit.

  A lend on a miss appends exactly one live entry for the object and kind at the old high-water
  mark, holding what the extraction answered; the room made first is the only growth. Watched by
  its pin ledger (`Ledgered`), the runtime has handed out no pin on a failed acquire, and on a
  lend the one pin it handed out is the pin of the appended entry.

  Main statement: `acquire_fails_atomically`.
-/

namespace ArrayBridge

variable {σ Obj Arr Pin : Type} [Host σ Obj Arr Pin]

/-- The runtime answers every request for an object's class name, with a name or with none: the
    question never fails. -/
def Host.DescribeTotal (σ : Type) {Obj Arr Pin : Type} [Host σ Obj Arr Pin] : Prop :=
  ∀ (o : Obj) (h : σ), ∃ name h', (Host.describe o h : EStateM.Result Stop σ (Option String)) = .ok name h'

theorem Bench.describeTotal : Host.DescribeTotal Bench := by
  intro o h
  cases hchecks : h.checks with
  | true => exact ⟨some s!"object {o.object}", h, by
      simp only [Host.describe, Op.bind_apply, Op.get_apply, hchecks, if_true, Op.pure_apply]⟩
  | false => exact ⟨none, h, by
      simp only [Host.describe, Op.bind_apply, Op.get_apply, hchecks, Bool.false_eq_true, if_false,
        Op.pure_apply]⟩

theorem Ledgered.describeTotal [DecidableEq Pin] (hdesc : Host.DescribeTotal σ) :
    Host.DescribeTotal (Ledgered σ Pin) := by
  intro o t
  obtain ⟨name, h', hd⟩ := hdesc o t.host
  exact ⟨name, { t with host := h' }, by
    change Ledgered.lift (Host.describe o) t = _
    rw [Ledgered.lift_apply, hd]⟩

namespace Table

variable {ε : Type}

/-- Making room grows a full table by its capacity, and at least by one. -/
theorem capacity_reserve (t : Table ε) :
    t.reserve.capacity = if t.hwm = t.capacity then t.capacity + max 1 t.capacity else t.capacity := by
  unfold reserve
  split <;> rfl

/-- Once room is made, making room again changes nothing: the append after it does not grow
    the table a second time. -/
theorem reserve_reserve (t : Table ε) : t.reserve.reserve = t.reserve := by
  unfold reserve
  by_cases hfull : t.hwm = t.capacity
  · have hroom : ¬ ({ t with capacity := t.capacity + max 1 t.capacity } : Table ε).hwm =
        t.capacity + max 1 t.capacity := by
      change ¬ t.hwm = _
      omega
    rw [if_pos hfull, if_neg hroom]
  · rw [if_neg hfull, if_neg hfull]

theorem capacity_push_reserve (t : Table ε) (e : ε) : (t.reserve.push e).2.capacity = t.reserve.capacity := by
  simp [push, reserve_reserve]

end Table

/-- The position `idxOf?` answers for the nul byte is the first one. -/
theorem idxOf?_zero_eq_some_iff (bytes : List UInt8) (p : Nat) :
    bytes.idxOf? 0 = some p ↔ bytes[p]? = some 0 ∧ ∀ k < p, bytes[k]? ≠ some 0 := by
  rw [List.idxOf?_eq_some_iff]
  constructor
  · rintro ⟨hp, hzero, hbefore⟩
    refine ⟨by rw [List.getElem?_eq_getElem hp, hzero], fun k hk => ?_⟩
    rw [List.getElem?_eq_getElem (by omega)]
    exact fun h => hbefore k hk (Option.some.inj h)
  · rintro ⟨hzero, hbefore⟩
    obtain ⟨hp, hzero⟩ := List.getElem?_eq_some_iff.mp hzero
    refine ⟨hp, hzero, fun k hk h => hbefore k hk ?_⟩
    rw [List.getElem?_eq_getElem (by omega), h]

/-- Extracting text fails exactly when the runtime cannot answer its bytes, or with the position
    of the first nul byte among them. -/
theorem Codec.extract_char_error_iff (o : Obj) (h h' : σ) (s : Stop) :
    Codec.extract o .char h = .error s h' ↔
      Host.text o h = .error s h' ∨ ∃ bytes p, Host.text o h = .ok bytes h' ∧
        s = .fault (.interiorNul p) ∧ bytes[p]? = some 0 ∧ ∀ k < p, bytes[k]? ≠ some 0 := by
  simp only [Codec.extract, Op.bind_apply]
  cases htext : Host.text o h with
  | error s' h'' => simp
  | ok bytes h'' =>
    dsimp only
    cases hnul : bytes.idxOf? 0 with
    | none =>
      constructor
      · intro hx
        cases hx
      · rintro (hx | ⟨bytes', p, hbytes, -, hzero, hbefore⟩)
        · cases hx
        · cases hbytes
          rw [(idxOf?_zero_eq_some_iff bytes p).mpr ⟨hzero, hbefore⟩] at hnul
          cases hnul
    | some p =>
      simp only [Op.fail_apply, EStateM.Result.error.injEq, reduceCtorEq, false_or]
      constructor
      · rintro ⟨rfl, rfl⟩
        exact ⟨bytes, p, rfl, rfl, (idxOf?_zero_eq_some_iff bytes p).mp hnul⟩
      · rintro ⟨bytes', p', hbytes, rfl, hfirst⟩
        cases hbytes
        rw [(idxOf?_zero_eq_some_iff bytes p').mpr hfirst] at hnul
        cases hnul
        exact ⟨rfl, rfl⟩

namespace Bridge

variable {b : Bridge σ Obj Arr Pin} {o : Obj} {kind : ElemKind}

open Op

/-! ## The exits of `acquire` -/

theorem acquire_of_idle (hd : b.depth = 0) :
    acquire o kind b = .error (.fault (.noActiveCall "acquire")) b := by
  unfold acquire
  rw [bind_apply, get_apply]
  dsimp only
  rw [if_pos hd]
  rfl

/-- Past the checks, an object with no live entry is lent a new buffer. -/
theorem acquire_of_miss (hd : b.depth ≠ 0)
    (hvalid : (b.config.validateRefs && !Host.isValidRef b.host o) = false)
    (hn : (b.table.find (holds b.host o)).1 = none) : acquire o kind b = lend o kind b := by
  unfold acquire
  rw [bind_apply, get_apply]
  dsimp only
  rw [if_neg hd, bind_apply, validate_apply, if_neg (Bool.eq_false_iff.mp hvalid)]
  dsimp only
  rw [bind_apply, lookup_apply]
  dsimp only
  rw [hn, Table.snd_find_of_none hn]

/-! ## Lending -/

/-- Making room keeps at most a record of the growth. -/
theorem reserveSlot_logged (b : Bridge σ Obj Arr Pin) :
    ∃ h₀, Host.Logged b.host h₀ ∧
      reserveSlot b = .ok () { b with table := b.table.reserve, host := h₀ } := by
  unfold reserveSlot
  rw [bind_apply, get_apply]
  dsimp only
  rw [bind_apply, set_apply]
  dsimp only
  split
  · exact ⟨_, .single ⟨_, _, _, rfl⟩, rfl⟩
  · exact ⟨_, .refl, rfl⟩

/-- Once its entry is appended, a lend answers: describing the object never fails. -/
theorem lendTail_ok (hdesc : Host.DescribeTotal σ) (o : Obj) (kind : ElemKind) (index : Nat)
    (buffer : Buffer Pin) (c : Bridge σ Obj Arr Pin) :
    ∃ c', (do
      if ← tracing then
        let name ← onHost (Host.describe o)
        let h := (← get).host
        let cls := name.getD "?"
        note .trace mirrorTarget
          s!"addNativeArray(x={Host.showObject h o}, class={cls}, ix={index}, kind={kind.name})"
      pure (buffer.address index) : Op (Bridge σ Obj Arr Pin) (Address Pin)) c =
        .ok (buffer.address index) c' := by
  rw [bind_apply]
  simp only [tracing, bind_apply, get_apply, pure_apply]
  split
  · obtain ⟨name, h', hd⟩ := hdesc o c.host
    rw [onHost_bind_apply, hd]
    exact ⟨_, rfl⟩
  · exact ⟨c, rfl⟩

/-- A lend makes room, keeping at most a record, then extracts a buffer: a failed extraction is
    the lend's failure, with the table grown and nothing appended; a successful one is appended
    at the old high-water mark, and then the lend answers its address, only describing the object
    and keeping a record, moves that any relation closed under them follows. -/
theorem lend_extracts (hdesc : Host.DescribeTotal σ) (o : Obj) (kind : ElemKind)
    (b : Bridge σ Obj Arr Pin) :
    ∃ h₀, Host.Logged b.host h₀ ∧
      (∀ s h', Codec.extract o kind h₀ = .error s h' →
        lend o kind b = .error s { b with table := b.table.reserve, host := h' }) ∧
      ∀ array buffer h', Codec.extract o kind h₀ = .ok (array, buffer) h' →
        ∃ b', lend o kind b = .ok (buffer.address b.hwm) b' ∧
          ∀ r : Bridge σ Obj Arr Pin → Bridge σ Obj Arr Pin → Prop,
            (∀ c level target message, Leads r c (note level target message : Op _ Unit)) →
            (∀ c o, Leads r c (onHost (Host.describe o) : Op (Bridge σ Obj Arr Pin) _)) →
            Relation.ReflTransGen r
              { b with table := (b.table.reserve.push ⟨kind, o, array, buffer⟩).2, host := h' } b' := by
  obtain ⟨h₀, hlog, hreserve⟩ := reserveSlot_logged b
  refine ⟨h₀, hlog, ?_⟩
  unfold lend
  rw [bind_apply, hreserve]
  dsimp only
  rw [onHost_bind_apply]
  dsimp only
  refine ⟨fun s h' hx => by rw [hx], fun array buffer h' hx => ?_⟩
  rw [hx]
  dsimp only
  rw [bind_apply, get_apply]
  dsimp only
  rw [bind_apply, set_apply]
  dsimp only
  have hindex : (b.table.reserve.push ⟨kind, o, array, buffer⟩).1 = b.hwm := by
    rw [Table.fst_push, Table.hwm_reserve]
    rfl
  obtain ⟨b', hb'⟩ := lendTail_ok hdesc o kind (b.table.reserve.push ⟨kind, o, array, buffer⟩).1
    buffer { b with table := (b.table.reserve.push ⟨kind, o, array, buffer⟩).2, host := h' }
  refine ⟨b', ?_, fun r hnote hdescribe => ?_⟩
  · rw [hb', hindex]
  · exact (leads_lendTail_of hnote hdescribe o kind _ buffer).of_ok hb'

/-! ## Failing -/

/-- The ways `acquire o kind` fails from `b`, each with the failure and the state it leaves. -/
inductive AcquireFailure (b : Bridge σ Obj Arr Pin) (o : Obj) (kind : ElemKind) :
    Stop → Bridge σ Obj Arr Pin → Prop
  /-- No call is in flight: nothing has changed. -/
  | idle : b.depth = 0 → AcquireFailure b o kind (.fault (.noActiveCall "acquire")) b
  /-- Validation is on and the reference is invalid: nothing has changed. -/
  | invalid : b.depth ≠ 0 → (b.config.validateRefs && !Host.isValidRef b.host o) = true →
      AcquireFailure b o kind (.fault (.invalidReference "acquire")) b
  /-- The object's live entry is of another element width: the mismatch names both kinds, and
      only the lookup's last hit has moved. -/
  | width {i : Nat} {e : Entry Obj Arr Pin} : b.depth ≠ 0 →
      (b.config.validateRefs && !Host.isValidRef b.host o) = false →
      (b.table.find (holds b.host o)).1 = some i → b.table.get? i = some e →
      e.kind.width ≠ kind.width →
      AcquireFailure b o kind (.fault (.unexpectedKind
        s!"{kindMismatch}: {Host.showObject b.host o} cached as {e.kind.name}, requested as {kind.name}"))
        { b with table := (b.table.find (holds b.host o)).2 }
  /-- The object has no live entry, room is made, and extracting its buffer fails: the table has
      grown, the runtime has moved, and nothing is appended. -/
  | extract {h₀ h' : σ} {s : Stop} : b.depth ≠ 0 →
      (b.config.validateRefs && !Host.isValidRef b.host o) = false →
      (b.table.find (holds b.host o)).1 = none → Host.Logged b.host h₀ →
      Codec.extract o kind h₀ = .error s h' →
      AcquireFailure b o kind s { b with table := b.table.reserve, host := h' }

/-- When describing an object never fails, `acquire` fails only at one of its exits. -/
theorem acquire_failure (hdesc : Host.DescribeTotal σ) {s : Stop} {b' : Bridge σ Obj Arr Pin}
    (h : acquire o kind b = .error s b') : AcquireFailure b o kind s b' := by
  by_cases hd : b.depth = 0
  · rw [acquire_of_idle hd] at h
    cases h
    exact .idle hd
  cases hv : (b.config.validateRefs && !Host.isValidRef b.host o) with
  | true =>
    rw [acquire_of_invalid kind hd hv] at h
    cases h
    exact .invalid hd hv
  | false =>
    cases hfind : (b.table.find (holds b.host o)).1 with
    | some i =>
      -- a hit fails only on a width mismatch
      obtain ⟨e, he, -⟩ := Table.find_live hfind
      rw [acquire_of_find kind hd hv hfind he] at h
      by_cases hw : e.kind.width = kind.width
      · obtain ⟨h', hok, -⟩ := reuse_of_width_eq o i { b with table := (b.table.find (holds b.host o)).2 } hw
        rw [hok] at h
        cases h
      · rw [reuse_of_width_ne o i _ hw] at h
        cases h
        exact .width hd hv hfind he hw
    | none =>
      rw [acquire_of_miss hd hv hfind] at h
      obtain ⟨h₀, hlog, herror, hok⟩ := lend_extracts hdesc o kind b
      cases hx : Codec.extract o kind h₀ with
      | error s' h' =>
        rw [herror s' h' hx] at h
        cases h
        exact .extract hd hv hfind hlog hx
      | ok ab h' =>
        obtain ⟨b₁, hlend, -⟩ := hok ab.1 ab.2 h' hx
        rw [hlend] at h
        cases h

/-- A failed acquire leaves the table's slots, the frames, the reference cache and the
    configuration as they were; the capacity has grown by `reserve` only when the object had no
    live entry. -/
theorem AcquireFailure.keeps {s : Stop} {b' : Bridge σ Obj Arr Pin}
    (h : AcquireFailure b o kind s b') :
    b'.table.slots = b.table.slots ∧ b'.calls = b.calls ∧ b'.refs = b.refs ∧
      b'.config = b.config ∧
      (b'.table.capacity = b.table.capacity ∨
        (b.table.find (holds b.host o)).1 = none ∧ b'.table.capacity = b.table.reserve.capacity) := by
  cases h with
  | idle => exact ⟨rfl, rfl, rfl, rfl, .inl rfl⟩
  | invalid => exact ⟨rfl, rfl, rfl, rfl, .inl rfl⟩
  | width => exact ⟨Table.slots_find _ _, rfl, rfl, rfl, .inl (Table.capacity_find _ _)⟩
  | extract _ _ hfind => exact ⟨Table.slots_reserve _, rfl, rfl, rfl, .inr ⟨hfind, rfl⟩⟩

/-! ## Lending on a miss -/

/-- On a miss, a successful acquire is a lend whose extraction answered: the rest only
    describes the object and keeps records. -/
theorem acquire_of_lent (hdesc : Host.DescribeTotal σ) {addr : Address Pin}
    {b' : Bridge σ Obj Arr Pin} (hn : (b.table.find (holds b.host o)).1 = none)
    (h : acquire o kind b = .ok addr b') :
    ∃ h₀ array buffer h', Host.Logged b.host h₀ ∧ Codec.extract o kind h₀ = .ok (array, buffer) h' ∧
      addr = buffer.address b.hwm ∧
      ∀ r : Bridge σ Obj Arr Pin → Bridge σ Obj Arr Pin → Prop,
        (∀ c level target message, Leads r c (note level target message : Op _ Unit)) →
        (∀ c o, Leads r c (onHost (Host.describe o) : Op (Bridge σ Obj Arr Pin) _)) →
        Relation.ReflTransGen r
          { b with table := (b.table.reserve.push ⟨kind, o, array, buffer⟩).2, host := h' } b' := by
  have hd : b.depth ≠ 0 := fun hd => by
    rw [acquire_of_idle hd] at h
    cases h
  have hv : (b.config.validateRefs && !Host.isValidRef b.host o) = false := by
    cases hv : (b.config.validateRefs && !Host.isValidRef b.host o) with
    | true =>
      rw [acquire_of_invalid kind hd hv] at h
      cases h
    | false => rfl
  rw [acquire_of_miss hd hv hn] at h
  obtain ⟨h₀, hlog, herror, hok⟩ := lend_extracts hdesc o kind b
  cases hx : Codec.extract o kind h₀ with
  | error s h' =>
    rw [herror s h' hx] at h
    cases h
  | ok ab h' =>
    obtain ⟨array, buffer⟩ := ab
    obtain ⟨b₁, hlend, hchain⟩ := hok array buffer h' hx
    rw [hlend] at h
    cases h
    exact ⟨h₀, array, buffer, h', hlog, hx, rfl, hchain⟩

/-- On a miss, a successful acquire has appended exactly one live entry for the object as the
    kind asked for, at the old high-water mark, holding what the extraction answered; the table
    has grown once, as `reserve` grows it, and the frames, the reference cache and the
    configuration are as they were. -/
theorem acquire_lends (hdesc : Host.DescribeTotal σ) {addr : Address Pin} {b' : Bridge σ Obj Arr Pin}
    (hn : (b.table.find (holds b.host o)).1 = none) (h : acquire o kind b = .ok addr b') :
    ∃ array buffer, (∃ h₀ h₁ : σ, Codec.extract o kind h₀ = .ok (array, buffer) h₁) ∧
      b'.table.slots = b.table.slots.push (some ⟨kind, o, array, buffer⟩) ∧
      b'.table.capacity = b.table.reserve.capacity ∧ addr = buffer.address b.hwm ∧
      b'.calls = b.calls ∧ b'.refs = b.refs ∧ b'.config = b.config := by
  obtain ⟨h₀, array, buffer, h', -, hx, haddr, hchain⟩ := acquire_of_lent hdesc hn h
  have hrest := Rehosts.of_chain (hchain Rehosts (fun _ _ _ _ => leads_note ..)
    (fun _ _ => leads_onHost _))
  refine ⟨array, buffer, ⟨h₀, h', hx⟩, ?_, ?_, haddr, hrest.calls, hrest.refs, hrest.config⟩
  · rw [hrest.table]
    simp [Table.push, Table.slots_reserve]
  · rw [hrest.table]
    exact Table.capacity_push_reserve _ _

/-! ## Pins of a watched runtime -/

section Ledger

variable [DecidableEq Pin]

/-- Log records leave the ledger as it was. -/
theorem ledger_of_logged {t t' : Ledgered σ Pin} (h : Host.Logged t t') : t'.ledger = t.ledger := by
  induction h with
  | refl => rfl
  | tail _ hstep ih =>
    obtain ⟨_, _, _, rfl⟩ := hstep
    exact ih

omit [Host σ Obj Arr Pin] [DecidableEq Pin] in
theorem ledger_of_chain {c c' : Bridge (Ledgered σ Pin) Obj Arr Pin}
    (h : Relation.ReflTransGen (fun c c' : Bridge (Ledgered σ Pin) Obj Arr Pin =>
      c'.host.ledger = c.host.ledger) c c') : c'.host.ledger = c.host.ledger := by
  induction h with
  | refl => rfl
  | tail _ hstep ih => exact hstep.trans ih

/-- A failed acquire hands out no pin. -/
theorem AcquireFailure.ledger {b b' : Bridge (Ledgered σ Pin) Obj Arr Pin} {s : Stop}
    (h : AcquireFailure b o kind s b') : b'.host.ledger = b.host.ledger := by
  cases h with
  | idle => rfl
  | invalid => rfl
  | width => rfl
  | extract _ _ _ hlog hx => exact (Ledgered.extract_ledger_error hx).trans (ledger_of_logged hlog)

/-- On a miss, a successful acquire hands out at most the pin of the entry it appends. -/
theorem acquire_ledger_of_miss (hdesc : Host.DescribeTotal σ) {b b' : Bridge (Ledgered σ Pin) Obj Arr Pin}
    {addr : Address Pin} (hn : (b.table.find (holds b.host o)).1 = none)
    (h : acquire o kind b = .ok addr b') :
    ∃ e, b'.table.get? b.hwm = some e ∧ b'.host.ledger = b.host.ledger.handOf e.buffer := by
  obtain ⟨h₀, array, buffer, h', hlog, hx, -, hchain⟩ :=
    acquire_of_lent (Ledgered.describeTotal hdesc) hn h
  have htable := (Rehosts.of_chain (hchain Rehosts (fun _ _ _ _ => leads_note ..)
    (fun _ _ => leads_onHost _))).table
  refine ⟨⟨kind, o, array, buffer⟩, ?_, ?_⟩
  · rw [htable, Table.get?_push]
    exact if_pos (Table.hwm_reserve b.table).symm
  · have hrest := ledger_of_chain (hchain _ (fun c _ _ _ => Leads.single rfl)
      (fun c o => Leads.single (by
        rw [after_onHost]
        exact Ledgered.ledger_lift_after _ c.host)))
    rw [hrest]
    change h'.ledger = _
    rw [(Ledgered.extract_ledger_ok hx).1, ledger_of_logged hlog]

end Ledger

end Bridge

/-! ## Acquiring, failed or lent -/

open Bridge in
/-- What acquiring does over runtimes `σ` that always answer a request for a class name, also
    when watched by their pin ledger. -/
structure AcquireContract (σ Obj Arr Pin : Type) [Host σ Obj Arr Pin] [DecidableEq Pin] :
    Prop where
  /-- Every failure is one of the exits of `AcquireFailure`. -/
  exits : ∀ (b : Bridge σ Obj Arr Pin) o kind s b', acquire o kind b = .error s b' →
    AcquireFailure b o kind s b'
  /-- A failure leaves the slots, and so the high-water mark, the frames, the reference cache
      and the configuration as they were; the capacity has grown only on a miss, as `reserve`
      grows it (by the capacity, at least by one, when the table is full). -/
  atomic : ∀ (b : Bridge σ Obj Arr Pin) o kind s b', acquire o kind b = .error s b' →
    b'.table.slots = b.table.slots ∧ b'.calls = b.calls ∧ b'.refs = b.refs ∧
      b'.config = b.config ∧
      (b'.table.capacity = b.table.capacity ∨
        (b.table.find (holds b.host o)).1 = none ∧ b'.table.capacity = b.table.reserve.capacity)
  /-- A text is refused for its bytes exactly at the position of their first nul byte. -/
  interiorNul : ∀ (o : Obj) (h h' : σ) s, Codec.extract o .char h = .error s h' ↔
    Host.text o h = .error s h' ∨ ∃ bytes p, Host.text o h = .ok bytes h' ∧
      s = .fault (.interiorNul p) ∧ bytes[p]? = some 0 ∧ ∀ k < p, bytes[k]? ≠ some 0
  /-- A success on a miss appends exactly one live entry, for the object as the kind asked for,
      at the old high-water mark, holding what the extraction answered; the room made before
      the extraction is the only growth. -/
  lends : ∀ (b : Bridge σ Obj Arr Pin) o kind addr b', (b.table.find (holds b.host o)).1 = none →
    acquire o kind b = .ok addr b' →
    ∃ array buffer, (∃ h₀ h₁ : σ, Codec.extract o kind h₀ = .ok (array, buffer) h₁) ∧
      b'.table.slots = b.table.slots.push (some ⟨kind, o, array, buffer⟩) ∧
      b'.table.capacity = b.table.reserve.capacity ∧ addr = buffer.address b.hwm ∧
      b'.calls = b.calls ∧ b'.refs = b.refs ∧ b'.config = b.config
  /-- Watched by its ledger, the runtime has handed out no pin when an acquire fails. -/
  noPin : ∀ (b : Bridge (Ledgered σ Pin) Obj Arr Pin) o kind s b', acquire o kind b = .error s b' →
    b'.host.ledger = b.host.ledger
  /-- On a lend, the only pin handed out is the pin of the entry appended. -/
  pinRecorded : ∀ (b : Bridge (Ledgered σ Pin) Obj Arr Pin) o kind addr b',
    (b.table.find (holds b.host o)).1 = none → acquire o kind b = .ok addr b' →
    ∃ e, b'.table.get? b.hwm = some e ∧ b'.host.ledger = b.host.ledger.handOf e.buffer

open Bridge in
/-- Over a runtime that always answers a request for a class name, a failed acquire, at any of
    its exits, leaves the table's slots and high-water mark, the frames, the reference cache and
    the configuration as they were, and has taken no pin; only the lookup's last hit, the runtime
    and, on a miss, the capacity move. A lend on a miss appends exactly one live entry for the
    object and kind, and records the one pin it took. -/
theorem acquire_fails_atomically [DecidableEq Pin] (hdesc : Host.DescribeTotal σ) :
    AcquireContract σ Obj Arr Pin where
  exits _ _ _ _ _ h := acquire_failure hdesc h
  atomic _ _ _ _ _ h := (acquire_failure hdesc h).keeps
  interiorNul := Codec.extract_char_error_iff
  lends _ _ _ _ _ hn h := acquire_lends hdesc hn h
  noPin _ _ _ _ _ h := (acquire_failure (Ledgered.describeTotal hdesc) h).ledger
  pinRecorded _ _ _ _ _ hn h := acquire_ledger_of_miss hdesc hn h

theorem acquire_fails_atomically_bench :
    Host.DescribeTotal Bench ∧ AcquireContract Bench Handle Nat Nat :=
  ⟨Bench.describeTotal, acquire_fails_atomically Bench.describeTotal⟩

end ArrayBridge
