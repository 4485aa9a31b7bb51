import ArrayBridge.Bridge.Refs
import ArrayBridge.Heap.Bench
import ArrayBridge.Proofs.Moves

/-
  The states a bridge can reach. A bridge is made by `Bridge.new` from a configuration that passes
  its check; from then on native code asks it for any of its operations (`Request`), each of which
  may answer or fail part way, any runtime call included; between requests the managed runtime
  may change in any way, and native code may write the logical scratch buffers it was lent.

  Every request moves the bridge by a chain of the moves of `Moves`: the lifecycle and reference
  operations only thin it, and every request but `acquire` settles. `Reachable.invariant` turns a
  property kept by the four moves into a property of every reachable state.
-/

namespace ArrayBridge

namespace Bridge

open Op

variable {σ Obj Arr Pin : Type} [Host σ Obj Arr Pin] {b : Bridge σ Obj Arr Pin}

/-! ## Operations built from others

Each operation below only sequences the table operations it calls between calm moves, so any
calm relation that those table operations move by relates its start and its end. All but the
ones that add a reference need only a quiet relation, which also sees the capacities. -/

section Composite

variable {r : Bridge σ Obj Arr Pin → Bridge σ Obj Arr Pin → Prop}

theorem Quiet.invalidateEach (hr : Quiet r)
    (hentry : ∀ b index, Leads r b (releaseEntry index .copyBack)) (o : Obj) (indices : List Nat) :
    Leads r b (invalidateEach o indices) := by
  induction indices generalizing b with
  | nil => exact leads_pure _
  | cons index rest ih =>
    unfold Bridge.invalidateEach
    exact Leads.get_bind ((hr.note ..).bind fun _ _ _ =>
      (hentry _ index).bind fun _ _ _ => ih)

theorem Calm.invalidateEach (hr : Calm r)
    (hentry : ∀ b index, Leads r b (releaseEntry index .copyBack)) (o : Obj) (indices : List Nat) :
    Leads r b (invalidateEach o indices) :=
  hr.quiet.invalidateEach hentry o indices

theorem Quiet.invalidate (hr : Quiet r)
    (hentry : ∀ b index, Leads r b (releaseEntry index .copyBack)) (o : Obj) :
    Leads r b (invalidate o) := by
  unfold Bridge.invalidate
  refine Leads.bind (Leads.of_after (after_validate o _)) fun _ _ _ => Leads.get_bind ?_
  dsimp only
  split
  · exact (hr.note ..).bind fun _ _ _ => leads_pure _
  · exact (hr.invalidateEach hentry o _).bind fun _ _ _ => leads_pure _

theorem Calm.invalidate (hr : Calm r)
    (hentry : ∀ b index, Leads r b (releaseEntry index .copyBack)) (o : Obj) :
    Leads r b (invalidate o) :=
  hr.quiet.invalidate hentry o

theorem Quiet.refresh (hr : Quiet r) (hentry : ∀ b index, Leads r b (refreshEntry index))
    (o : Obj) : Leads r b (refresh o) := by
  unfold Bridge.refresh
  refine Leads.bind (Leads.of_after (after_currentMark _ b)) fun mark _ _ =>
    Leads.bind (hr.lookup _ o) fun found _ _ => ?_
  split
  · exact leads_pure _
  · dsimp only
    split
    · exact Leads.bind (leads_fail _) fun _ _ _ => Leads.bind (hentry _ _) fun _ _ _ =>
        leads_pure _
    · exact Leads.bind (hentry _ _) fun _ _ _ => leads_pure _

theorem Calm.refresh (hr : Calm r) (hentry : ∀ b index, Leads r b (refreshEntry index))
    (o : Obj) : Leads r b (refresh o) :=
  hr.quiet.refresh hentry o

theorem leads_refreshFrom_of (hentry : ∀ b index, Leads r b (refreshEntry index))
    (index count : Nat) : Leads r b (refreshFrom index count) := by
  induction count generalizing index b with
  | zero => exact leads_pure _
  | succ count ih =>
    unfold refreshFrom
    exact (hentry _ index).bind fun _ _ _ => ih (index + 1)

theorem leads_refreshAll_of (hentry : ∀ b index, Leads r b (refreshEntry index)) :
    Leads r b (refreshAll : Op (Bridge σ Obj Arr Pin) Unit) := by
  unfold refreshAll
  exact Leads.bind (Leads.of_after (after_currentMark _ b)) fun _ _ _ =>
    Leads.get_bind (leads_refreshFrom_of hentry _ _)

theorem Quiet.pushToManaged (hr : Quiet r) (o : Obj) : Leads r b (pushToManaged o) := by
  unfold Bridge.pushToManaged
  refine (hr.lookup _ o).bind fun found _ _ => ?_
  split
  · exact leads_pure _
  · exact (hr.pushEntry _ _).bind fun _ _ _ => leads_pure _

theorem Calm.pushToManaged (hr : Calm r) (o : Obj) : Leads r b (pushToManaged o) :=
  hr.quiet.pushToManaged o

theorem Quiet.pushFrom (hr : Quiet r) (index count : Nat) : Leads r b (pushFrom index count) := by
  induction count generalizing index b with
  | zero => exact leads_pure _
  | succ count ih =>
    unfold Bridge.pushFrom
    exact (hr.pushEntry _ index).bind fun _ _ _ => ih (index + 1)

theorem Calm.pushFrom (hr : Calm r) (index count : Nat) : Leads r b (pushFrom index count) :=
  hr.quiet.pushFrom index count

theorem Quiet.pushBackAll (hr : Quiet r) :
    Leads r b (pushBackAll : Op (Bridge σ Obj Arr Pin) Unit) := by
  unfold Bridge.pushBackAll
  exact Leads.bind (Leads.of_after (after_currentMark _ b)) fun _ _ _ =>
    Leads.get_bind (hr.pushFrom _ _)

theorem Calm.pushBackAll (hr : Calm r) :
    Leads r b (pushBackAll : Op (Bridge σ Obj Arr Pin) Unit) :=
  hr.quiet.pushBackAll

omit [Host σ Obj Arr Pin] in
theorem leads_recoveryPoint : Leads r b (recoveryPoint : Op (Bridge σ Obj Arr Pin) Nat) := by
  unfold recoveryPoint
  refine Leads.get_bind ?_
  split
  · exact leads_pure _
  · exact leads_fail _

/-! ### The reference operations leave frames and table alone -/

theorem Quiet.findRef (hr : Quiet r) (o : Obj) : Leads r b (findRef o) := by
  unfold Bridge.findRef
  refine Leads.get_bind ?_
  split
  · split
    · exact (hr.note ..).bind fun _ _ _ => leads_pure _
    · exact leads_pure _
  · exact leads_pure _

theorem Calm.findRef (hr : Calm r) (o : Obj) : Leads r b (findRef o) :=
  hr.quiet.findRef o

theorem Quiet.checkRef (hr : Quiet r) (o : Obj) : Leads r b (checkRef o) :=
  (hr.findRef o).bind fun _ _ _ => leads_pure _

theorem Calm.checkRef (hr : Calm r) (o : Obj) : Leads r b (checkRef o) :=
  hr.quiet.checkRef o

theorem Calm.addRef (hr : Calm r) (o : Obj) (permanent : Bool) :
    Leads r b (addRef o permanent) := by
  unfold Bridge.addRef
  refine Leads.get_bind ?_
  dsimp only
  split
  · refine Leads.set_bind (hr.cache _ _) ((hr.note ..).bind fun _ _ _ =>
      (hr.newRef _ _).bind fun _ _ _ => Leads.get_bind ?_)
    exact Leads.set_bind (hr.cache _ _) ((hr.note ..).bind fun _ _ _ => leads_pure _)
  · refine (hr.newRef _ _).bind fun _ _ _ => Leads.get_bind ?_
    exact Leads.set_bind (hr.cache _ _) ((hr.note ..).bind fun _ _ _ => leads_pure _)

theorem Calm.createRef (hr : Calm r) (o : Obj) (permanent : Bool) :
    Leads r b (createRef o permanent) := by
  unfold Bridge.createRef
  refine Leads.bind (Leads.of_after (after_validate o _)) fun _ _ _ =>
    (hr.findRef o).bind fun found _ _ => ?_
  split
  · exact leads_pure _
  · exact hr.addRef o permanent

theorem Quiet.releaseRefsFrom (hr : Quiet r) (o : Obj) (index count : Nat) :
    Leads r b (releaseRefsFrom o index count) := by
  induction count generalizing index b with
  | zero => exact leads_pure _
  | succ count ih =>
    unfold Bridge.releaseRefsFrom
    refine Leads.get_bind ?_
    dsimp only
    have rest : ∀ (here : Nat) (b' : Bridge σ Obj Arr Pin),
        Leads r b' (releaseRefsFrom o (index + 1) count >>= fun rest => pure (here + rest)) :=
      fun _ _ => (ih (index + 1)).bind fun _ _ _ => leads_pure _
    split
    · split
      · exact (hr.note ..).bind fun _ _ _ => Leads.modify_bind
          (hr.cache _ _ (Table.hwm_take _ _) (Table.capacity_take _ _))
          ((hr.deleteRef _ _).bind fun _ _ _ => (leads_pure _).bind fun _ _ _ => rest _ _)
      · exact (leads_pure _).bind fun _ _ _ => rest _ _
    · exact (leads_pure _).bind fun _ _ _ => rest _ _

theorem Calm.releaseRefsFrom (hr : Calm r) (o : Obj) (index count : Nat) :
    Leads r b (releaseRefsFrom o index count) :=
  hr.quiet.releaseRefsFrom o index count

theorem Quiet.releaseRef (hr : Quiet r) (o : Obj) : Leads r b (releaseRef o) :=
  Leads.get_bind (hr.releaseRefsFrom o 0 _)

theorem Calm.releaseRef (hr : Calm r) (o : Obj) : Leads r b (releaseRef o) :=
  hr.quiet.releaseRef o

end Composite

/-! ## Refreshing an entry -/

/-- Refreshing an entry relates its ends by a quiet relation that the runtime calls it makes,
    copying managed values into the entry's storage, and retiring a stale entry do. -/
theorem leads_refreshEntry_of {r : Bridge σ Obj Arr Pin → Bridge σ Obj Arr Pin → Prop}
    (hr : Quiet r)
    (hbacking : ∀ (b : Bridge σ Obj Arr Pin) o kind, Leads r b (onHost (Host.backingArray o kind)))
    (hreleaseArray : ∀ (b : Bridge σ Obj Arr Pin) a, Leads r b (onHost (Host.releaseArray a)))
    (hrefresh : ∀ (b : Bridge σ Obj Arr Pin) index live, b.table.get? index = some live →
      ∀ kind array, Leads r b (onHost (Codec.refresh kind array live.buffer)))
    (hcopy : ∀ (b : Bridge σ Obj Arr Pin) index live kind array buffer h',
      b.table.get? index = some live → Codec.refresh kind array live.buffer b.host = .ok buffer h' →
      r { b with host := h' }
        { b with host := h', table := b.table.update index fun d => { d with buffer } })
    (hretire : ∀ (b : Bridge σ Obj Arr Pin) index stale, b.table.get? index = some stale →
      Leads r b (set { b with table := (b.table.take index).2 } >>= fun _ =>
        onHost (Codec.release stale .abort)))
    (index : Nat) : Leads r b (refreshEntry index) := by
  unfold refreshEntry
  refine Leads.get_bind ?_
  split
  · exact leads_pure _
  · next e he =>
    split
    · exact leads_pure _
    · next recorded hrecorded =>
      refine (hbacking ..).bind fun current b₁ _ => Leads.get_bind ((hreleaseArray ..).bind
        fun _ b₂ _ => Leads.get_bind ?_)
      split
      · refine (hr.note ..).bind fun _ b₃ _ => Leads.get_bind ?_
        split
        · next live hlive =>
          refine (hrefresh _ _ _ hlive ..).bind fun buffer b₄ h₄ => Leads.single ?_
          obtain ⟨h', hcall, rfl⟩ := onHost_eq_ok.mp h₄
          exact hcopy _ _ _ _ _ _ _ hlive hcall
        · exact leads_pure _
      · refine (hr.note ..).bind fun _ b₃ _ => Leads.get_bind ?_
        split
        · next stale table htake =>
          have hstale : b₃.table.get? index = some stale := by rw [← Table.fst_take, htake]
          have htable : table = (b₃.table.take index).2 := by rw [htake]
          rw [htable]
          exact hretire _ _ _ hstale
        · exact leads_pure _

/-- Refreshing an entry either copies values into its buffer, keeping its storage, or retires
    it. -/
theorem leads_refreshEntry (index : Nat) : Leads Thins b (refreshEntry index) := by
  refine leads_refreshEntry_of calm_thins.quiet (fun _ _ _ => (leads_onHost _).thins)
    (fun _ _ => (leads_onHost _).thins) (fun _ _ _ _ _ _ => (leads_onHost _).thins) ?_ ?_ index
  · intro b index live kind array buffer h' hlive hcall
    refine ⟨rfl, rfl, Table.within_update Entry.Kept.refl _ index _ fun d hd => ?_⟩
    change b.table.get? index = some d at hd
    rw [hlive] at hd
    cases hd
    exact ⟨rfl, rfl, rfl, Codec.refresh_sameStorage hcall⟩
  · intro b index stale _
    exact Leads.set_bind ⟨rfl, rfl, Table.within_take Entry.Kept.refl _ index⟩
      (leads_onHost _).thins

end Bridge

/-! ## Requests and reachable states -/

/-- The operations a native program can ask of the bridge. -/
inductive Request (Obj : Type) where
  | enterCall (token : Nat)
  | exitCall
  | exitToDepth (depth : Nat)
  | recoveryPoint
  | acquire (o : Obj) (kind : ElemKind)
  | invalidate (o : Obj)
  | releaseEntry (index : Nat) (mode : ReleaseMode)
  | refresh (o : Obj)
  | refreshAll
  | pushToManaged (o : Obj)
  | pushBackAll
  | createRef (o : Obj) (permanent : Bool)
  | findRef (o : Obj)
  | checkRef (o : Obj)
  | releaseRef (o : Obj)

namespace Request

variable {σ Obj Arr Pin : Type} [Host σ Obj Arr Pin]

/-- The bridge operation a request runs, its answer dropped. -/
def run : Request Obj → Op (Bridge σ Obj Arr Pin) Unit
  | enterCall token => Bridge.enterCall token >>= fun _ => pure ()
  | exitCall => Bridge.exitCall
  | exitToDepth depth => Bridge.exitToDepth depth
  | recoveryPoint => Bridge.recoveryPoint >>= fun _ => pure ()
  | acquire o kind => Bridge.acquire o kind >>= fun _ => pure ()
  | invalidate o => Bridge.invalidate o >>= fun _ => pure ()
  | releaseEntry index mode => Bridge.releaseEntry index mode >>= fun _ => pure ()
  | refresh o => Bridge.refresh o >>= fun _ => pure ()
  | refreshAll => Bridge.refreshAll
  | pushToManaged o => Bridge.pushToManaged o >>= fun _ => pure ()
  | pushBackAll => Bridge.pushBackAll
  | createRef o permanent => Bridge.createRef o permanent >>= fun _ => pure ()
  | findRef o => Bridge.findRef o >>= fun _ => pure ()
  | checkRef o => Bridge.checkRef o >>= fun _ => pure ()
  | releaseRef o => Bridge.releaseRef o >>= fun _ => pure ()

open Op Bridge

/-- Every request but `acquire` settles: it adds no entry. -/
theorem leads_settle {b : Bridge σ Obj Arr Pin} (r : Request Obj)
    (hr : ∀ o kind, r ≠ .acquire o kind) : Leads Settle b r.run := by
  have thin : ∀ {α : Type} {m : Op (Bridge σ Obj Arr Pin) α}, Leads Thins b m →
      Leads Settle b (m >>= fun _ => pure ()) :=
    fun h => h.settles.bind fun _ _ _ => leads_pure _
  cases r with
  | enterCall token => exact (leads_enterCall token).bind fun _ _ _ => leads_pure _
  | exitCall => exact leads_exitCall
  | exitToDepth depth => exact leads_exitToDepth depth
  | recoveryPoint => exact thin leads_recoveryPoint
  | acquire o kind => exact absurd rfl (hr o kind)
  | invalidate o => exact thin (calm_thins.invalidate (fun _ i => leads_releaseEntry i _) o)
  | releaseEntry index mode => exact thin (leads_releaseEntry index mode)
  | refresh o => exact thin (calm_thins.refresh (fun _ => leads_refreshEntry) o)
  | refreshAll => exact (leads_refreshAll_of fun _ => leads_refreshEntry).settles
  | pushToManaged o => exact thin (calm_thins.pushToManaged o)
  | pushBackAll => exact calm_thins.pushBackAll.settles
  | createRef o permanent => exact thin (calm_thins.createRef o permanent)
  | findRef o => exact thin (calm_thins.findRef o)
  | checkRef o => exact thin (calm_thins.checkRef o)
  | releaseRef o => exact thin (calm_thins.releaseRef o)

theorem leads_move {b : Bridge σ Obj Arr Pin} (r : Request Obj) : Leads Move b r.run := by
  cases r with
  | acquire o kind => exact (leads_acquire o kind).bind fun _ _ _ => leads_pure _
  | _ => exact (leads_settle _ (by intro _ _ h; cases h)).mono fun _ _ => Move.of_settle

end Request

/-- A new bridge has a configuration that passed its check, an empty table and cache, and no
    frames. -/
theorem Bridge.new_eq_ok {σ Obj Arr Pin : Type} {host : σ} {config : Config}
    {b : Bridge σ Obj Arr Pin} (h : Bridge.new host config = .ok b) :
    config.check = .ok () ∧
      b = { host, config, table := .withCapacity config.tableCapacity,
            calls := .new config.maxCallDepth, refs := .withCapacity config.refCapacity } := by
  unfold Bridge.new at h
  cases hc : config.check with
  | error f =>
    rw [hc] at h
    cases h
  | ok u =>
    rw [hc] at h
    cases h
    exact ⟨rfl, rfl⟩

theorem Bridge.new_of_check {σ Obj Arr Pin : Type} {host : σ} {config : Config}
    (h : config.check = .ok ()) :
    (Bridge.new host config : Except Fault (Bridge σ Obj Arr Pin)) =
      .ok { host, config, table := .withCapacity config.tableCapacity,
            calls := .new config.maxCallDepth, refs := .withCapacity config.refCapacity } := by
  unfold Bridge.new
  rw [h]
  rfl

variable {σ Obj Arr Pin : Type} [Host σ Obj Arr Pin]

/-- What can happen to a bridge between two moments native code sees it: a request of native
    code, answered or failed; a change of the managed runtime that `env` allows; or native code
    writing values of the same length into a logical buffer it was lent. -/
inductive Step (env : σ → σ → Prop) : Bridge σ Obj Arr Pin → Bridge σ Obj Arr Pin → Prop
  | request {b} (r : Request Obj) : Step env b (r.run.after b)
  | runtime {b} {h : σ} : env b.host h → Step env b { b with host := h }
  | store {b} {i : Nat} {e : Entry Obj Arr Pin} {old : List Int32} (cells : List Int32) :
      b.table.get? i = some e → e.buffer = .logical old → cells.length = old.length →
      Step env b { b with table := b.table.update i fun d => { d with buffer := .logical cells } }

/-- The states a bridge can be in: made by `Bridge.new`, then moved by any steps, the runtime
    changing as `env` allows. -/
inductive Reachable (env : σ → σ → Prop) : Bridge σ Obj Arr Pin → Prop
  | start {host : σ} {config : Config} {b} : Bridge.new host config = .ok b → Reachable env b
  | step {b b'} : Reachable env b → Step env b b' → Reachable env b'

omit [Host σ Obj Arr Pin] in
/-- A native write into a logical buffer keeps the table's entries and their storage. -/
theorem Bridge.store_thins {b : Bridge σ Obj Arr Pin} {i : Nat} {e : Entry Obj Arr Pin}
    {old cells : List Int32} (he : b.table.get? i = some e) (hbuf : e.buffer = .logical old)
    (hlen : cells.length = old.length) :
    Thins b { b with table := b.table.update i fun d => { d with buffer := .logical cells } } := by
  refine ⟨rfl, rfl, Table.within_update Entry.Kept.refl _ i _ fun d hd => ?_⟩
  rw [he] at hd
  cases hd
  refine ⟨rfl, rfl, rfl, ?_⟩
  rw [hbuf]
  exact hlen.symm

open Bridge

/-- Every step is a chain of moves; the runtime's and native code's steps only thin. -/
theorem Step.moves {env : σ → σ → Prop} {b b' : Bridge σ Obj Arr Pin} (hs : Step env b b') :
    Relation.ReflTransGen Move b b' := by
  cases hs with
  | request r => exact Request.leads_move r
  | runtime _ => exact .single (Move.of_settle (Settle.thin (Thins.host _ _)))
  | store cells he hbuf hlen =>
    exact .single (Move.of_settle (Settle.thin (store_thins he hbuf hlen)))

/-- A step that leaves a live slot live keeps its entry: a lend only appends, and nothing else
    fills a slot. -/
theorem Step.kept {env : σ → σ → Prop} {b b' : Bridge σ Obj Arr Pin} (hs : Step env b b')
    {i : Nat} {d d' : Entry Obj Arr Pin} (hd : b.table.get? i = some d)
    (hd' : b'.table.get? i = some d') : d.Kept d' := by
  cases hs with
  | request r =>
    cases r with
    | acquire o kind =>
      change ((acquire o kind >>= fun _ => pure ()).after b).table.get? i = some d' at hd'
      rw [Op.after_bind_pure] at hd'
      rcases acquire_moves o kind b with hthin | ⟨e, _, _, hl⟩
      · obtain ⟨d₀, hd₀, hk⟩ := hthin.table.live i d' hd'
        rw [hd] at hd₀
        cases hd₀
        exact hk
      · have hi : i ≠ b.table.hwm := Nat.ne_of_lt (Table.lt_hwm_of_get? hd)
        rw [hl.get?_eq, if_neg hi, hd] at hd'
        cases hd'
        exact Entry.Kept.refl d
    | _ =>
      obtain ⟨d₀, hd₀, hk⟩ := Settle.live_of_chain (Request.leads_settle _ (by intro _ _ h; cases h)) hd'
      rw [hd] at hd₀
      cases hd₀
      exact hk
  | runtime _ =>
    change b.table.get? i = some d' at hd'
    rw [hd] at hd'
    cases hd'
    exact Entry.Kept.refl d
  | store cells he hbuf hlen =>
    obtain ⟨d₀, hd₀, hk⟩ := (store_thins he hbuf hlen).table.live i d' hd'
    rw [hd] at hd₀
    cases hd₀
    exact hk

namespace Reachable

variable {env : σ → σ → Prop}

/-- A property of a new bridge that every move keeps holds in every reachable state. -/
theorem invariant {I : Bridge σ Obj Arr Pin → Prop}
    (start : ∀ (host : σ) config b, Bridge.new host config = .ok b → I b)
    (settle : ∀ b b', I b → Settle b b' → I b')
    (lend : ∀ b b' e, I b → Lends b b' e → I b')
    {b : Bridge σ Obj Arr Pin} (h : Reachable env b) : I b := by
  have move : ∀ b b', I b → Move b b' → I b' := by
    rintro b b' hb (hs | ⟨e, hl⟩)
    · exact settle b b' hb hs
    · exact lend b b' e hb hl
  -- a step is a chain of moves, each keeping the property
  have chain : ∀ b b', Relation.ReflTransGen Move b b' → I b → I b' := by
    intro b b' hchain hb
    induction hchain with
    | refl => exact hb
    | tail _ hstep ih => exact move _ _ ih hstep
  induction h with
  | start hnew => exact start _ _ _ hnew
  | step _ hs ih => exact chain _ _ hs.moves ih

/-- A run from a reachable bridge reaches only reachable states. -/
theorem of_run {b₀ b : Bridge σ Obj Arr Pin} (h₀ : Reachable env b₀)
    (hrun : Relation.ReflTransGen (Step env) b₀ b) : Reachable env b := by
  induction hrun with
  | refl => exact h₀
  | tail _ hstep ih => exact ih.step hstep

/-- The bridge a run over the plain test bench starts from, with the default settings. -/
def benchStart : Bridge Bench Handle Nat Nat :=
  { host := Bench.new false, config := .default, table := .withCapacity 64, calls := .new 16,
    refs := .withCapacity 64 }

theorem new_benchStart : Bridge.new (Bench.new false) Config.default = .ok benchStart := rfl

/-- A bench bridge inside one call that has lent, as integers, the vector `[1, 2]` of the one
    object of its heap, named by reference 0. -/
def benchLent (checks : Bool) (config : Config) : Bridge Bench Handle Nat Nat :=
  (Request.acquire ⟨0, 0⟩ .integer).run.after ((Request.enterCall 1).run.after
    { host := { Bench.new checks with heap := (Heap.empty.addArray (.int [1, 2])).2 }, config,
      table := .withCapacity config.tableCapacity, calls := .new config.maxCallDepth,
      refs := .withCapacity config.refCapacity })

theorem reachable_benchLent (checks : Bool) (config : Config) (hconfig : config.check = .ok ())
    (env : Bench → Bench → Prop) : Reachable env (benchLent checks config) :=
  ((Reachable.start (Bridge.new_of_check hconfig)).step (.request _)).step (.request _)

/-- The plain bench bridge of `benchLent` inside a second call nested in the first: the frames
    are marked 1 and 0, and the lent buffer belongs to the outer one. -/
def benchNested : Bridge Bench Handle Nat Nat :=
  (Request.enterCall 2).run.after (benchLent false .default)

theorem reachable_benchNested (env : Bench → Bench → Prop) : Reachable env benchNested :=
  (reachable_benchLent false .default rfl env).step (.request _)

end Reachable

end ArrayBridge
