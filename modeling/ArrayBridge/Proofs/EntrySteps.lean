import ArrayBridge.Proofs.Pins

/-
  What a request does to the table's entries and to the runtime, said once. Every request moves
  the bridge by `EntryStep`s of its own release mode, each labelled by what it does to the
  entries: it keeps them, it appends one inside a call, or it takes a live one out of its slot
  and finishes it with `Codec.release` in the request's mode, in the same step. The runtime
  changes in no other way than by a `Chore`: a log record, or a runtime call that reads or
  copies contents, makes a buffer, or makes or deletes a long-lived reference. So an entry is
  finished only as it is taken out of the table, and `release` touches no other entry.

  Main statement: `Request.entryMoves`.
-/

namespace ArrayBridge

namespace Bridge

open Op

variable {σ Obj Arr Pin : Type} [Host σ Obj Arr Pin]

/-- The runtime work of requests other than finishing an entry: a log record, or one runtime
    call that reads the array behind an object, drops an array reference, makes a buffer,
    describes an object, pushes a buffer's contents back or refreshes it, or makes or deletes a
    long-lived reference. -/
inductive Chore : σ → σ → Prop
  | log (level : Level) (target message : String) (h : σ) :
      Chore h (Host.log level target message h)
  | backingArray (o : Obj) (kind : ElemKind) (h : σ) :
      Chore h ((Host.backingArray o kind : Op σ Arr).after h)
  | releaseArray (a : Arr) (h : σ) : Chore h ((Host.releaseArray a : Op σ Unit).after h)
  | extract (o : Obj) (kind : ElemKind) (h : σ) :
      Chore h ((Codec.extract o kind : Op σ (Option Arr × Buffer Pin)).after h)
  | describe (o : Obj) (h : σ) : Chore h ((Host.describe o : Op σ (Option String)).after h)
  | pushBack (kind : ElemKind) (o : Obj) (array : Option Arr) (buffer : Buffer Pin) (h : σ) :
      Chore h ((Codec.pushBack kind o array buffer : Op σ Unit).after h)
  | refresh (kind : ElemKind) (array : Arr) (buffer : Buffer Pin) (h : σ) :
      Chore h ((Codec.refresh kind array buffer : Op σ (Buffer Pin)).after h)
  | newGlobalRef (o : Obj) (h : σ) : Chore h ((Host.newGlobalRef o : Op σ Obj).after h)
  | deleteGlobalRef (o : Obj) (h : σ) : Chore h ((Host.deleteGlobalRef o : Op σ Unit).after h)

/-- What one step of a request does to the table's entries. -/
inductive EntryEvent (Obj Arr Pin : Type) where
  /-- Every live entry stays, kept. -/
  | other
  /-- An entry is appended at the high-water mark. -/
  | lent (e : Entry Obj Arr Pin)
  /-- The live entry of slot `slot` is taken out and finished in mode `mode`. -/
  | finished (slot : Nat) (e : Entry Obj Arr Pin) (mode : ReleaseMode)

/-- One step of a request that finishes entries in mode `mode` (and finishes none with `none`),
    labelled by what it does to the entries. -/
inductive EntryStep (mode : Option ReleaseMode) :
    Bridge σ Obj Arr Pin → EntryEvent Obj Arr Pin → Bridge σ Obj Arr Pin → Prop
  /-- Runtime work other than finishing an entry. -/
  | chore {b} {h : σ} : Chore b.host h → EntryStep mode b .other { b with host := h }
  /-- A move of the frames or of the table's bookkeeping that leaves the runtime alone and
      every live slot live. -/
  | settle {b b'} : Settle b b' → b'.host = b.host →
      (∀ i, (b.table.get? i).isSome → (b'.table.get? i).isSome) → EntryStep mode b .other b'
  /-- Inside a call, an entry appended at the high-water mark. -/
  | lend {b} (e : Entry Obj Arr Pin) : b.depth ≠ 0 →
      EntryStep mode b (.lent e) { b with table := (b.table.push e).2 }
  /-- A live entry taken out of its slot and finished in the request's mode. -/
  | finish {b} {i : Nat} {e : Entry Obj Arr Pin} {m : ReleaseMode} : mode = some m →
      b.table.get? i = some e →
      EntryStep mode b (.finished i e m)
        { b with table := (b.table.take i).2, host := (Codec.release e m).after b.host }

/-- A step of a request, whatever it does to the entries. -/
def EntryMove (mode : Option ReleaseMode) (b b' : Bridge σ Obj Arr Pin) : Prop :=
  ∃ ev, EntryStep mode b ev b'

variable {mode : Option ReleaseMode} {b : Bridge σ Obj Arr Pin}

theorem entryMove_onHost {α : Type} {m : Op σ α} (hc : Chore b.host (m.after b.host)) :
    Leads (EntryMove mode) b (onHost m) :=
  Leads.single (by
    rw [after_onHost]
    exact ⟨_, .chore hc⟩)

theorem calm_entryMove (mode : Option ReleaseMode) :
    Calm (EntryMove mode : Bridge σ Obj Arr Pin → _ → Prop) where
  note b level target message := Leads.single ⟨_, .chore (.log level target message b.host)⟩
  slots _ _ hs := ⟨_, .settle (.thin (Thins.of_slots hs)) rfl fun i => by
    rw [Table.get?_of_slots hs]
    exact id⟩
  cache b refs := ⟨_, .settle (.thin (Thins.refs b refs)) rfl fun _ => id⟩
  newRef b o := entryMove_onHost (.newGlobalRef o b.host)
  deleteRef b o := entryMove_onHost (.deleteGlobalRef o b.host)
  pushBack b _ e _ := entryMove_onHost (.pushBack e.kind e.object e.array e.buffer b.host)

/-- Releasing an entry keeps a record, then takes the entry out and finishes it. -/
theorem entryMoves_releaseEntry (index : Nat) (release : ReleaseMode) :
    Leads (EntryMove (some release)) b (releaseEntry index release) := by
  unfold releaseEntry
  refine Leads.get_bind ?_
  split
  · next e table htake =>
    have he : b.table.get? index = some e := by rw [← Table.fst_take, htake]
    have htable : table = (b.table.take index).2 := by rw [htake]
    unfold Leads
    rw [after_bind]
    dsimp only [set_apply]
    rw [after_bind, note_apply]
    dsimp only
    rw [after_bind_pure, after_onHost, htable]
    -- the record is kept between the take and the release; it commutes with the take
    exact .tail (.single ⟨_, .chore (.log ..)⟩) ⟨_, .finish rfl he⟩
  · exact leads_pure _

/-- Refreshing an entry makes runtime calls and copies into the entry's own storage, or, when
    the entry is stale, takes it out and finishes it in `abort` mode. -/
theorem entryMoves_refreshEntry (index : Nat) :
    Leads (EntryMove (some .abort)) b (refreshEntry index) := by
  refine leads_refreshEntry_of (calm_entryMove _).quiet
    (fun b o kind => entryMove_onHost (.backingArray o kind b.host))
    (fun b a => entryMove_onHost (.releaseArray a b.host))
    (fun b _ live _ kind array => entryMove_onHost (.refresh kind array live.buffer b.host)) ?_ ?_
    index
  · intro b index live kind array buffer h' hlive hcall
    refine ⟨_, .settle (.thin ⟨rfl, rfl, Table.within_update Entry.Kept.refl _ index _
      fun d hd => ?_⟩) rfl fun i => ?_⟩
    · change b.table.get? index = some d at hd
      rw [hlive] at hd
      cases hd
      exact ⟨rfl, rfl, rfl, Codec.refresh_sameStorage hcall⟩
    · change _ → ((b.table.update index _).get? i).isSome
      rw [Table.isSome_get?_update]
      exact id
  · intro b index stale hstale
    refine Leads.single ?_
    rw [after_bind]
    dsimp only [set_apply]
    rw [after_onHost]
    exact ⟨_, .finish rfl hstale⟩

theorem entryMoves_exitCall : Leads (EntryMove (some .copyBack)) b exitCall :=
  leads_exitCall_of (calm_entryMove _).note
    ((calm_entryMove _).releaseFrom fun _ i => entryMoves_releaseEntry i .copyBack)
    fun _ _ _ hframe h₁ => ⟨_, .settle (settle_exit_of_released hframe h₁) rfl fun i hi => by
      change ((Bridge.table _).truncate _).get? i |>.isSome
      rw [Table.get?_truncate_of_dead (releaseFrom_frame_dead h₁)]
      exact hi⟩

theorem entryMoves_enterCall (token : Nat) : Leads (EntryMove mode) b (enterCall token) :=
  leads_enterCall_of (calm_entryMove _).note token fun _ _ hpush => by
    obtain ⟨hroom, hr⟩ := CallStack.push_eq_ok hpush
    cases hr
    exact ⟨_, .settle (Settle.enter token hroom rfl rfl rfl) rfl fun _ => id⟩

/-- Inside a call, lending a buffer makes room, extracts the buffer, appends its entry and keeps
    a record: chores, and one lend step. -/
theorem entryMoves_lend (hd : b.depth ≠ 0) (o : Obj) (kind : ElemKind) :
    Leads (EntryMove mode) b (lend o kind) := by
  have hcalm : Calm (EntryMove mode : Bridge σ Obj Arr Pin → _ → Prop) := calm_entryMove mode
  obtain ⟨b₂, hreserve, hb₂⟩ := reserveSlot_ok b
  have hd₂ : b₂.depth ≠ 0 := by
    rw [depth, hb₂.calls]
    exact hd
  unfold lend
  refine (hcalm.reserveSlot b).bind fun _ b₂' h₂ => ?_
  rw [hreserve] at h₂
  cases h₂
  refine (entryMove_onHost (.extract o kind b₂.host)).bind fun p b₃ hx => ?_
  obtain ⟨array, buffer⟩ := p
  obtain ⟨h₃, -, rfl⟩ := onHost_eq_ok.mp hx
  refine Leads.get_bind ?_
  dsimp only
  rcases hpush : ({ b₂ with host := h₃ } : Bridge σ Obj Arr Pin).table.push
    ⟨kind, o, array, buffer⟩ with ⟨index, table⟩
  have htable : table = (b₂.table.push ⟨kind, o, array, buffer⟩).2 :=
    (congrArg Prod.snd hpush).symm
  dsimp only
  rw [htable]
  exact Leads.set_bind ⟨_, .lend _ hd₂⟩ (leads_lendTail_of hcalm.note
    (fun b o => entryMove_onHost (.describe o b.host)) o kind index buffer)

theorem entryMoves_acquire (o : Obj) (kind : ElemKind) :
    Leads (EntryMove mode) b (acquire o kind) := by
  have hcalm : Calm (EntryMove mode : Bridge σ Obj Arr Pin → _ → Prop) := calm_entryMove mode
  unfold acquire
  refine Leads.get_bind ?_
  dsimp only
  split
  · exact Leads.of_after rfl
  · next hd =>
    refine Leads.bind (Leads.of_after (after_validate o _)) fun _ b₁ h₁ =>
      (hcalm.lookup _ o).bind fun found b₂ h₂ => ?_
    have hd₂ : b₂.depth ≠ 0 := by
      rw [← after_of_ok h₂, after_of_ok (lookup_apply o b₁), ← after_of_ok h₁, after_validate]
      exact hd
    split
    · refine Leads.get_bind ?_
      split
      · exact leads_reuse_of hcalm.note ..
      · exact entryMoves_lend hd₂ o kind
    · exact entryMoves_lend hd₂ o kind

end Bridge

open Op Bridge

variable {σ Obj Arr Pin : Type} [Host σ Obj Arr Pin]

/-- Every request moves by steps of its own release mode: its runtime work is chores, and each
    entry it takes out of the table it finishes with `release` in that mode, in the same step. -/
theorem Request.entryMoves {b : Bridge σ Obj Arr Pin} (r : Request Obj) :
    Leads (EntryMove r.releaseMode) b r.run :=
  Request.leads_of ⟨calm_entryMove, fun _ index mode => entryMoves_releaseEntry index mode,
    fun _ => entryMoves_refreshEntry, fun _ => entryMoves_exitCall,
    fun _ => entryMoves_enterCall, fun _ => entryMoves_acquire⟩ r

end ArrayBridge
