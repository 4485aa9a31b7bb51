import ArrayBridge.Proofs.Ledger
import ArrayBridge.Proofs.Frames

/-
  Every pin is handed back once. Run over a runtime watched by a pin ledger (`Ledgered`), a
  bridge keeps the ledger balanced against its table in every state it reaches from a new
  bridge, whatever the runtime answers and wherever a call fails: every pin the runtime has
  handed out is the pin of one live entry or has been handed back exactly once, no pin has been
  handed back or stored through while it was not outstanding, and every live pinned entry has
  the array it was pinned from. Each request hands pins back only in its own mode: `copyBack`
  for exiting calls and invalidating, `abort` for a stale refresh, the caller's mode for
  releasing an entry, and none at all for the other requests.

  Every operation moves the bridge by `Accounts` moves. Only finishing an entry hands a pin back,
  and it tombstones the entry's slot in the same move; only a lend takes a pin, and it appends
  the entry in the same move; exiting a call truncates tombstones only.

  Main statement: `pins_handed_back_once`.
-/

namespace ArrayBridge

namespace Bridge

open Op

variable {σ Obj Arr Pin : Type} [Host σ Obj Arr Pin] [DecidableEq Pin]

/-- From `b` to `b'`: a ledger that balances against the table still does, and every pin handed
    back meanwhile was handed back in mode `mode` (with `none`, no pin was handed back). -/
structure Accounts (mode : Option ReleaseMode) (b b' : Bridge (Ledgered σ Pin) Obj Arr Pin) :
    Prop where
  balanced : b.host.ledger.Balances b.table → b'.host.ledger.Balances b'.table
  returned : ∃ new, b'.host.ledger.returned = new ++ b.host.ledger.returned ∧
    ∀ x ∈ new, some x.2 = mode

variable {mode : Option ReleaseMode} {b : Bridge (Ledgered σ Pin) Obj Arr Pin}

omit [Host σ Obj Arr Pin] [DecidableEq Pin] in
theorem Accounts.refl (b : Bridge (Ledgered σ Pin) Obj Arr Pin) : Accounts mode b b :=
  ⟨id, [], rfl, by simp⟩

omit [Host σ Obj Arr Pin] [DecidableEq Pin] in
theorem Accounts.trans {b₁ b₂ b₃ : Bridge (Ledgered σ Pin) Obj Arr Pin}
    (h₁ : Accounts mode b₁ b₂) (h₂ : Accounts mode b₂ b₃) : Accounts mode b₁ b₃ := by
  obtain ⟨new₁, hr₁, hm₁⟩ := h₁.returned
  obtain ⟨new₂, hr₂, hm₂⟩ := h₂.returned
  refine ⟨h₂.balanced ∘ h₁.balanced, new₂ ++ new₁, by rw [hr₂, hr₁, List.append_assoc], ?_⟩
  intro x hx
  rcases List.mem_append.mp hx with hx | hx
  · exact hm₂ x hx
  · exact hm₁ x hx

omit [Host σ Obj Arr Pin] [DecidableEq Pin] in
theorem Accounts.of_chain {b' : Bridge (Ledgered σ Pin) Obj Arr Pin}
    (h : Relation.ReflTransGen (Accounts mode) b b') : Accounts mode b b' := by
  induction h with
  | refl => exact Accounts.refl b
  | tail _ hstep ih => exact ih.trans hstep

omit [Host σ Obj Arr Pin] [DecidableEq Pin] in
/-- A move that keeps the table's slots and the ledger. -/
theorem Accounts.quiet {b' : Bridge (Ledgered σ Pin) Obj Arr Pin}
    (hslots : b'.table.slots = b.table.slots) (hledger : b'.host.ledger = b.host.ledger) :
    Accounts mode b b' := by
  refine ⟨fun hb => ?_, [], by rw [hledger]; rfl, by simp⟩
  rw [hledger]
  exact hb.of_slots hslots

omit [Host σ Obj Arr Pin] [DecidableEq Pin] in
theorem accounts_onHost {α : Type} {m : Op (Ledgered σ Pin) α}
    (h : (m.after b.host).ledger = b.host.ledger) : Leads (Accounts mode) b (onHost m) :=
  Leads.single (by
    rw [after_onHost]
    exact Accounts.quiet rfl h)

omit [Host σ Obj Arr Pin] in
/-- A runtime operation that records at most a native access through the pin of a live entry
    keeps the balance: that pin is outstanding. -/
theorem accounts_of_touch {α : Type} {m : Op (Ledgered σ Pin) α} {i : Nat}
    {e : Entry Obj Arr Pin} (he : b.table.get? i = some e)
    (hm : (m.after b.host).ledger = b.host.ledger ∨
      ∃ p, e.buffer.pin? = some p ∧ (m.after b.host).ledger = b.host.ledger.touch p) :
    Leads (Accounts mode) b (onHost m) := by
  rcases hm with hl | ⟨p, hp, hl⟩
  · exact accounts_onHost hl
  · refine Leads.single ⟨fun hb => ?_, [], ?_, by simp⟩
    · rw [after_onHost]
      change (m.after b.host).ledger.Balances b.table
      rw [hl, PinLedger.touch_of_outstanding (hb.outstanding he hp)]
      exact hb
    · rw [after_onHost]
      change (m.after b.host).ledger.returned = [] ++ b.host.ledger.returned
      rw [hl]
      rfl

theorem calm_accounts (mode : Option ReleaseMode) :
    Calm (Accounts mode : Bridge (Ledgered σ Pin) Obj Arr Pin → _ → Prop) where
  note _ _ _ _ := Leads.single (Accounts.quiet rfl rfl)
  slots _ _ hs := Accounts.quiet hs rfl
  cache _ _ := Accounts.quiet rfl rfl
  newRef _ _ := accounts_onHost (Ledgered.ledger_lift_after _ _)
  deleteRef _ _ := accounts_onHost (Ledgered.ledger_lift_after _ _)
  pushBack b _ e he := accounts_of_touch he (Ledgered.pushBack_ledger e.kind e.object e.array e.buffer b.host)

/-! ## Finishing an entry -/

/-- Tombstoning a live slot and finishing its entry, on a runtime with the same ledger, is one
    move: the entry's pin leaves the table and is handed back in the mode of the release. -/
theorem accounts_retire {i : Nat} {e : Entry Obj Arr Pin} (he : b.table.get? i = some e)
    (release : ReleaseMode) {h : Ledgered σ Pin} (hl : h.ledger = b.host.ledger) :
    Accounts (some release) b
      { b with table := (b.table.take i).2, host := (Codec.release e release).after h } := by
  have hledger : ((Codec.release e release).after h).ledger = b.host.ledger.release e release := by
    rw [Ledgered.release_ledger, hl]
  obtain ⟨new, hnew, hmode⟩ := PinLedger.release_returned b.host.ledger e release
  refine ⟨fun hb => ?_, new, by rw [hledger, hnew], fun x hx => by rw [hmode x hx]⟩
  change ((Codec.release e release).after h).ledger.Balances (b.table.take i).2
  rw [hledger]
  exact hb.retire he release

theorem accounts_releaseEntry (index : Nat) (release : ReleaseMode) :
    Leads (Accounts (some release)) b (releaseEntry index release) := by
  unfold releaseEntry
  refine Leads.get_bind ?_
  split
  · next e table htake =>
    have he : b.table.get? index = some e := by rw [← Table.fst_take, htake]
    have htable : table = (b.table.take index).2 := by rw [htake]
    refine Leads.single ?_
    rw [after_bind]
    dsimp only [set_apply]
    rw [after_bind, note_apply]
    dsimp only
    rw [after_bind_pure, after_onHost, htable]
    exact accounts_retire he release rfl
  · exact leads_pure _

/-! ## Refreshing an entry -/

/-- Refreshing the buffer of a live entry records nothing when the ledger balances: its pin is
    outstanding. -/
theorem accounts_refresh {index : Nat} {live : Entry Obj Arr Pin}
    (hlive : b.table.get? index = some live) (kind : ElemKind) (array : Arr) :
    Leads (Accounts mode) b (onHost (Codec.refresh kind array live.buffer)) :=
  accounts_of_touch hlive (Ledgered.refresh_ledger kind array live.buffer b.host)

theorem accounts_refreshEntry (index : Nat) :
    Leads (Accounts (some .abort)) b (refreshEntry index) := by
  refine leads_refreshEntry_of (calm_accounts _).quiet
    (fun _ _ _ => accounts_onHost (Ledgered.ledger_lift_after _ _))
    (fun _ _ => accounts_onHost (Ledgered.ledger_lift_after _ _))
    (fun _ _ _ hlive => accounts_refresh hlive) ?_ ?_ index
  · intro b index live kind array buffer h' hlive hcall
    refine ⟨fun hb => hb.update fun d hd => ?_, [], rfl, by simp⟩
    change b.table.get? index = some d at hd
    rw [hlive] at hd
    cases hd
    exact ⟨rfl, rfl, rfl, Codec.refresh_sameStorage hcall⟩
  · -- a stale buffer is tombstoned and finished without copying, in one move
    intro b index stale hstale
    refine Leads.single ?_
    rw [after_bind]
    dsimp only [set_apply]
    rw [after_onHost]
    exact accounts_retire hstale .abort rfl

/-! ## Frames -/

theorem accounts_exitCall : Leads (Accounts (some .copyBack)) b exitCall :=
  leads_exitCall_of (calm_accounts _).note
    ((calm_accounts _).releaseFrom fun _ i => accounts_releaseEntry i .copyBack)
    -- every slot from the frame's mark on is a tombstone, so truncating loses no pin
    fun _ _ _ _ h₁ => ⟨fun hb => hb.truncate (releaseFrom_frame_dead h₁), [], rfl, by simp⟩

theorem accounts_enterCall (mode : Option ReleaseMode) (token : Nat) :
    Leads (Accounts mode) b (enterCall token) :=
  leads_enterCall_of (calm_accounts mode).note token fun _ _ _ => Accounts.quiet rfl rfl

/-! ## Acquiring -/

/-- A lend takes a pin only when it appends the entry holding it, in the same move. -/
theorem accounts_lend (mode : Option ReleaseMode) (o : Obj) (kind : ElemKind) :
    Leads (Accounts mode) b (lend o kind) := by
  have hcalm : Calm (Accounts mode : Bridge (Ledgered σ Pin) Obj Arr Pin → _ → Prop) :=
    calm_accounts _
  unfold lend
  refine (hcalm.reserveSlot b).bind fun _ b₂ _ => ?_
  unfold Leads
  rw [after_bind]
  cases hx : onHost (Codec.extract o kind) b₂ with
  | error err b₃ =>
    obtain ⟨h₃, hext, rfl⟩ := onHost_eq_error.mp hx
    exact .single (Accounts.quiet rfl (Ledgered.extract_ledger_error hext))
  | ok p b₃ =>
    obtain ⟨array, buffer⟩ := p
    obtain ⟨h₃, hext, rfl⟩ := onHost_eq_ok.mp hx
    obtain ⟨hl, harr⟩ := Ledgered.extract_ledger_ok hext
    dsimp only
    rw [after_bind]
    dsimp only [get_apply]
    rcases hpush : ({ b₂ with host := h₃ } : Bridge (Ledgered σ Pin) Obj Arr Pin).table.push
      ⟨kind, o, array, buffer⟩ with ⟨index, table⟩
    have htable : table = (b₂.table.push ⟨kind, o, array, buffer⟩).2 :=
      (congrArg Prod.snd hpush).symm
    dsimp only
    rw [after_bind]
    dsimp only [set_apply]
    refine .head ⟨fun hb => ?_, [], by rw [hl]; simp, by simp⟩
      (leads_lendTail_of hcalm.note (fun _ _ => accounts_onHost (Ledgered.ledger_lift_after _ _))
        o kind index buffer)
    change h₃.ledger.Balances table
    rw [hl, htable]
    exact hb.push kind o harr

theorem accounts_acquire (mode : Option ReleaseMode) (o : Obj) (kind : ElemKind) :
    Leads (Accounts mode) b (acquire o kind) := by
  have hcalm : Calm (Accounts mode : Bridge (Ledgered σ Pin) Obj Arr Pin → _ → Prop) :=
    calm_accounts _
  unfold acquire
  refine Leads.get_bind ?_
  dsimp only
  split
  · exact Leads.of_after rfl
  · refine Leads.bind (Leads.of_after (after_validate o _)) fun _ _ _ =>
      (hcalm.lookup _ o).bind fun found _ _ => ?_
    split
    · refine Leads.get_bind ?_
      split
      · exact leads_reuse_of hcalm.note ..
      · exact accounts_lend mode o kind
    · exact accounts_lend mode o kind

end Bridge

/-! ## Requests and runs -/

/-- The mode in which a request hands back the pins of the entries it finishes: `copyBack` when
    exiting calls and invalidating, `abort` when refreshing (a stale buffer), the caller's mode
    when releasing an entry; none for a request that finishes no entry. -/
def Request.releaseMode {Obj : Type} : Request Obj → Option ReleaseMode
  | .exitCall | .exitToDepth _ | .invalidate _ => some .copyBack
  | .releaseEntry _ mode => some mode
  | .refresh _ | .refreshAll => some .abort
  | _ => none

open Op Bridge

variable {σ Obj Arr Pin : Type} [Host σ Obj Arr Pin]

/-- What a relation for each release mode must allow for every request to move by the relation
    of its own mode: the calm moves in every mode, releasing an entry in the mode asked for,
    refreshing an entry in `abort` mode, exiting a call in `copyBack` mode, and entering a call
    and acquiring a buffer with no mode. -/
structure Request.ModeMoves
    (r : Option ReleaseMode → Bridge σ Obj Arr Pin → Bridge σ Obj Arr Pin → Prop) : Prop where
  calm : ∀ mode, Calm (r mode)
  releaseEntry : ∀ (b : Bridge σ Obj Arr Pin) index mode,
    Leads (r (some mode)) b (Bridge.releaseEntry index mode)
  refreshEntry : ∀ (b : Bridge σ Obj Arr Pin) index,
    Leads (r (some .abort)) b (Bridge.refreshEntry index)
  exitCall : ∀ b : Bridge σ Obj Arr Pin, Leads (r (some .copyBack)) b Bridge.exitCall
  enterCall : ∀ (b : Bridge σ Obj Arr Pin) token, Leads (r none) b (Bridge.enterCall token)
  acquire : ∀ (b : Bridge σ Obj Arr Pin) o kind, Leads (r none) b (Bridge.acquire o kind)

/-- Every request moves by the relation of its own release mode. -/
theorem Request.leads_of
    {r : Option ReleaseMode → Bridge σ Obj Arr Pin → Bridge σ Obj Arr Pin → Prop}
    (hr : Request.ModeMoves r) {b : Bridge σ Obj Arr Pin} (req : Request Obj) :
    Leads (r req.releaseMode) b req.run := by
  have drop : ∀ {α : Type} {mode : Option ReleaseMode} {m : Op (Bridge σ Obj Arr Pin) α},
      Leads (r mode) b m → Leads (r mode) b (m >>= fun _ => pure ()) :=
    fun h => h.bind fun _ _ _ => leads_pure _
  cases req with
  | enterCall token => exact drop (hr.enterCall b token)
  | exitCall => exact hr.exitCall b
  | exitToDepth depth => exact leads_exitToDepth_of hr.exitCall depth
  | recoveryPoint => exact drop leads_recoveryPoint
  | acquire o kind => exact drop (hr.acquire b o kind)
  | invalidate o =>
    exact drop ((hr.calm _).invalidate (fun b i => hr.releaseEntry b i .copyBack) o)
  | releaseEntry index mode => exact drop (hr.releaseEntry b index mode)
  | refresh o => exact drop ((hr.calm _).refresh hr.refreshEntry o)
  | refreshAll => exact leads_refreshAll_of hr.refreshEntry
  | pushToManaged o => exact drop ((hr.calm _).pushToManaged o)
  | pushBackAll => exact (hr.calm _).pushBackAll
  | createRef o permanent => exact drop ((hr.calm _).createRef o permanent)
  | findRef o => exact drop ((hr.calm _).findRef o)
  | checkRef o => exact drop ((hr.calm _).checkRef o)
  | releaseRef o => exact drop ((hr.calm _).releaseRef o)

variable [DecidableEq Pin]

/-- Every request keeps the ledger balanced and hands pins back only in its own mode. -/
theorem Request.accounts {b : Bridge (Ledgered σ Pin) Obj Arr Pin} (r : Request Obj) :
    Leads (Accounts r.releaseMode) b r.run :=
  Request.leads_of ⟨calm_accounts, fun _ index mode => accounts_releaseEntry index mode,
    fun _ => accounts_refreshEntry, fun _ => accounts_exitCall,
    fun _ => accounts_enterCall none, fun _ => accounts_acquire none⟩ r

/-- Every step keeps the ledger balanced: requests account for their pins, the runtime hands
    out and takes back none between requests, and native stores into logical buffers touch no
    pin. -/
theorem Step.balances {env : σ → σ → Prop} {b b' : Bridge (Ledgered σ Pin) Obj Arr Pin}
    (hs : Step (Ledgered.runtime env) b b') (hb : b.host.ledger.Balances b.table) :
    b'.host.ledger.Balances b'.table := by
  cases hs with
  | request r => exact (Accounts.of_chain (Request.accounts r)).balanced hb
  | runtime henv =>
    rw [henv.2]
    exact hb
  | store cells he hbuf hlen =>
    refine hb.update fun d hd => ?_
    rw [he] at hd
    cases hd
    refine ⟨rfl, rfl, rfl, ?_⟩
    rw [hbuf]
    exact hlen.symm

/-- Over any runtime, in every state a run reaches from a new bridge, whatever the runtime
    answered and wherever a call failed: every pin the runtime has handed out is the pin of one
    live entry or was handed back exactly once; no pin was handed back or stored through while
    it was not outstanding; no pin is outstanding when no call is in flight; and the next
    request, whichever it is, hands pins back only in its own mode. -/
theorem pins_handed_back_once {env : σ → σ → Prop} {host : σ} {config : Config}
    {b₀ b : Bridge (Ledgered σ Pin) Obj Arr Pin}
    (hnew : Bridge.new (Ledgered.fresh host) config = .ok b₀)
    (hrun : Relation.ReflTransGen (Step (Ledgered.runtime env)) b₀ b) :
    b.host.ledger.handed.Perm (b.table.livePins ++ b.host.ledger.returned.map Prod.fst) ∧
      b.host.ledger.stray = false ∧
      (b.depth = 0 → b.host.ledger.handed.Perm (b.host.ledger.returned.map Prod.fst)) ∧
      ∀ r : Request Obj, ∃ new,
        ((r.run : Op (Bridge (Ledgered σ Pin) Obj Arr Pin) Unit).after b).host.ledger.returned =
          new ++ b.host.ledger.returned ∧ ∀ x ∈ new, some x.2 = r.releaseMode := by
  have hstart : b₀.host.ledger.Balances b₀.table := by
    obtain ⟨_, rfl⟩ := Bridge.new_eq_ok hnew
    exact PinLedger.balances_empty _
  have hb : b.host.ledger.Balances b.table := by
    induction hrun with
    | refl => exact hstart
    | tail _ hstep ih => exact hstep.balances ih
  have hidle : b.depth = 0 → b.table.livePins = [] := fun hdepth =>
    Table.livePins_eq_nil (((Reachable.start hnew).of_run hrun).stacked.idle hdepth)
  refine ⟨hb.pins, hb.clean, fun hdepth => ?_, fun r => (Accounts.of_chain (Request.accounts r)).returned⟩
  simpa [hidle hdepth] using hb.pins

/-- The plain test bench holding the vector `[1, 2]`, watched by a fresh pin ledger. -/
def Ledgered.benchHost : Ledgered Bench Nat :=
  Ledgered.fresh { Bench.new false with heap := (Heap.empty.addArray (.int [1, 2])).2 }

/-- A new bridge over the watched bench, with the default settings. -/
def Ledgered.benchStart : Bridge (Ledgered Bench Nat) Handle Nat Nat :=
  { host := Ledgered.benchHost, config := .default, table := .withCapacity 64, calls := .new 16,
    refs := .withCapacity 64 }

/-- The watched bench bridge inside one call, after lending the vector as integers. -/
def Ledgered.benchLent : Bridge (Ledgered Bench Nat) Handle Nat Nat :=
  (Request.acquire ⟨0, 0⟩ .integer).run.after ((Request.enterCall 1).run.after benchStart)

/- The lend took pin 0 and the table holds it. -/
example : Ledgered.benchLent.host.ledger.handed = [0] ∧ Ledgered.benchLent.table.livePins = [0] := by
  decide +kernel

end ArrayBridge
