import ArrayBridge.Proofs.EntrySteps
import Mathlib.Data.List.Forall2

/-
  Every entry is finished once. A loan is an entry the bridge has appended to its table: the
  entry as appended, its slot, the depth of the call it was lent in, and the mode it was
  finished in, once it has been. Carried along a run (`Lived`), the loans record the steps of
  every request (`EntrySteps`): a lend step adds an open loan, and a step that takes the entry
  of a slot out finishes the open loan of that slot, in the request's mode.

  `Bridge.Tracks` ties the loans to the bridge: the open loans, in the order they were lent, sit
  exactly at the live slots, each holding, kept, the entry it lent, and each lies in the slots
  of the call it was lent in, a call still in flight. Every run keeps it (`Lived.tracks`). So a
  step that takes an entry out finishes exactly one loan, the one that lent it; a loan is
  finished only while open (`Loan.Grows`), so once, in the mode of the request that took it out;
  and it is finished by the time its call exits, since it is open only while its call is in
  flight.

  Main statement: `entries_finished_once`.
-/

namespace ArrayBridge

namespace CallStack

variable {calls : CallStack} {f : Frame} {rest : List Frame}

theorem bottomUp_of_frames (h : calls.frames = f :: rest) : calls.bottomUp = rest.reverse ++ [f] := by
  simp [bottomUp, h]

theorem depth_of_frames (h : calls.frames = f :: rest) : calls.depth = rest.length + 1 := by
  simp [depth, h]

/-- The innermost frame is the last one counted from the bottom. -/
theorem bottomUp_innermost (h : calls.frames = f :: rest) :
    calls.bottomUp[calls.depth - 1]? = some f := by
  rw [bottomUp_of_frames h, depth_of_frames h, Nat.add_sub_cancel,
    List.getElem?_append_right (by simp), List.length_reverse, Nat.sub_self]
  rfl

end CallStack

/-- An entry the bridge has appended: the entry as appended, its slot, the depth of the call it
    was lent in, and the mode it was finished in, once it has been. -/
structure Loan (Obj Arr Pin : Type) where
  entry : Entry Obj Arr Pin
  slot : Nat
  depth : Nat
  finished : Option ReleaseMode

namespace Loan

variable {Obj Arr Pin : Type}

/-- Finish the loan if it is the open loan of slot `slot`. -/
def finishAt (slot : Nat) (mode : ReleaseMode) (l : Loan Obj Arr Pin) : Loan Obj Arr Pin :=
  if l.slot = slot ∧ l.finished = none then { l with finished := some mode } else l

/-- The slots of the open loans, in the order they were lent. -/
def openSlots (loans : List (Loan Obj Arr Pin)) : List Nat :=
  (loans.filter fun l => l.finished.isNone).map Loan.slot

/-- The call a loan was lent in is still in flight on `calls`, and the loan's slot lies in that
    call's slots: at or above its frame's mark, below the mark of the frame inside it. -/
structure InCall (l : Loan Obj Arr Pin) (calls : CallStack) : Prop where
  depth_pos : 0 < l.depth
  depth_le : l.depth ≤ calls.depth
  mark_le : ∀ f ∈ calls.bottomUp[l.depth - 1]?, f.mark ≤ l.slot
  lt_mark : ∀ f ∈ calls.bottomUp[l.depth]?, l.slot < f.mark

/-- How a loan can change while a request that finishes entries in mode `mode` runs: it stays
    as it was, or, open, it is finished in that mode. -/
inductive Becomes (mode : Option ReleaseMode) : Loan Obj Arr Pin → Loan Obj Arr Pin → Prop
  | same (l : Loan Obj Arr Pin) : Becomes mode l l
  | finish {l : Loan Obj Arr Pin} : l.finished = none → Becomes mode l { l with finished := mode }

/-- The loans after a request that finishes entries in mode `mode`: every earlier loan as it was
    or finished in that mode, then the loans lent meanwhile, open or finished in that mode. -/
def Grows (mode : Option ReleaseMode) (loans loans' : List (Loan Obj Arr Pin)) : Prop :=
  ∃ old new, loans' = old ++ new ∧ List.Forall₂ (Becomes mode) loans old ∧
    ∀ l ∈ new, l.finished = none ∨ l.finished = mode

theorem finishAt_open {slot : Nat} {mode : ReleaseMode} {l : Loan Obj Arr Pin} :
    (l.finishAt slot mode).finished = none ↔ l.finished = none ∧ l.slot ≠ slot := by
  unfold finishAt
  by_cases h : l.slot = slot ∧ l.finished = none
  · simp [h]
  · rw [if_neg h]
    grind

theorem finishAt_of_open {slot : Nat} {mode : ReleaseMode} {l : Loan Obj Arr Pin}
    (h : (l.finishAt slot mode).finished = none) : l.finishAt slot mode = l := by
  have hl := finishAt_open.mp h
  unfold finishAt
  rw [if_neg fun h' => hl.2 h'.1]

theorem openSlots_append_lent (loans : List (Loan Obj Arr Pin)) (e : Entry Obj Arr Pin)
    (slot depth : Nat) : openSlots (loans ++ [⟨e, slot, depth, none⟩]) = openSlots loans ++ [slot] := by
  simp [openSlots]

/-- Finishing the open loan of a slot takes that slot out of the open slots. -/
theorem openSlots_finishAt (loans : List (Loan Obj Arr Pin)) (slot : Nat) (mode : ReleaseMode) :
    openSlots (loans.map (finishAt slot mode)) = (openSlots loans).filter (· ≠ slot) := by
  induction loans with
  | nil => rfl
  | cons l loans ih =>
    unfold openSlots at ih ⊢
    by_cases hopen : l.finished = none
    · by_cases hslot : l.slot = slot
      · have hf : (l.finishAt slot mode).finished.isNone = false := by
          simp [finishAt, hopen, hslot]
        simp [hf, hopen, hslot, ih]
      · have hf : l.finishAt slot mode = l := by simp [finishAt, hslot]
        simp [hf, hopen, hslot, ih]
    · have hf : l.finishAt slot mode = l := by simp [finishAt, hopen]
      simp [hf, hopen, ih]

theorem Becomes.finishAt {m : ReleaseMode} {l o : Loan Obj Arr Pin} (h : Becomes (some m) l o)
    (slot : Nat) : Becomes (some m) l (o.finishAt slot m) := by
  cases h with
  | same =>
    unfold Loan.finishAt
    split
    · next h => exact .finish h.2
    · exact .same l
  | finish hl =>
    have : ({ l with finished := some m } : Loan Obj Arr Pin).finishAt slot m =
        { l with finished := some m } := by simp [Loan.finishAt]
    rw [this]
    exact .finish hl

theorem Grows.refl (mode : Option ReleaseMode) (loans : List (Loan Obj Arr Pin)) :
    Grows mode loans loans :=
  ⟨loans, [], by simp, List.forall₂_same.mpr fun l _ => .same l, by simp⟩

theorem Grows.lent {mode : Option ReleaseMode} {loans loans' : List (Loan Obj Arr Pin)}
    (h : Grows mode loans loans') (l : Loan Obj Arr Pin) (hl : l.finished = none) :
    Grows mode loans (loans' ++ [l]) := by
  obtain ⟨old, new, rfl, hold, hnew⟩ := h
  refine ⟨old, new ++ [l], by simp, hold, fun x hx => ?_⟩
  rcases List.mem_append.mp hx with hx | hx
  · exact hnew x hx
  · rw [List.mem_singleton.mp hx]
    exact .inl hl

theorem Grows.finishAt {m : ReleaseMode} {loans loans' : List (Loan Obj Arr Pin)}
    (h : Grows (some m) loans loans') (slot : Nat) :
    Grows (some m) loans (loans'.map (Loan.finishAt slot m)) := by
  obtain ⟨old, new, rfl, hold, hnew⟩ := h
  refine ⟨old.map (Loan.finishAt slot m), new.map (Loan.finishAt slot m), by simp,
    List.forall₂_map_right_iff.mpr (hold.imp fun _ _ hb => hb.finishAt slot), ?_⟩
  intro x hx
  obtain ⟨l, hl, rfl⟩ := List.mem_map.mp hx
  unfold Loan.finishAt
  split
  · exact .inr rfl
  · exact hnew l hl

theorem InCall.enter {l : Loan Obj Arr Pin} {calls : CallStack} (h : l.InCall calls)
    {mark : Nat} (hslot : l.slot < mark) (token : Nat) :
    l.InCall { calls with frames := ⟨mark, token⟩ :: calls.frames } := by
  have hbottom : ({ calls with frames := ⟨mark, token⟩ :: calls.frames } : CallStack).bottomUp =
      calls.bottomUp ++ [⟨mark, token⟩] := by simp [CallStack.bottomUp]
  have hdepth : ({ calls with frames := ⟨mark, token⟩ :: calls.frames } : CallStack).depth =
      calls.depth + 1 := by simp [CallStack.depth]
  have hlen : calls.bottomUp.length = calls.depth := by simp [CallStack.bottomUp, CallStack.depth]
  have hpos := h.depth_pos
  have hle := h.depth_le
  refine ⟨hpos, by omega, ?_, ?_⟩
  · rw [hbottom, List.getElem?_append_left (by omega)]
    exact h.mark_le
  · rw [hbottom]
    rcases Nat.lt_or_eq_of_le hle with hlt | heq
    · rw [List.getElem?_append_left (by omega)]
      exact h.lt_mark
    · -- a loan of the innermost call lies below the new frame's mark
      intro f hf
      rw [List.getElem?_append_right (by omega), hlen, heq, Nat.sub_self] at hf
      cases hf
      exact hslot

/-- Popping the innermost frame keeps a loan in its call when its slot lies below that frame's
    mark: it was not lent in the call popped. -/
theorem InCall.exit {l : Loan Obj Arr Pin} {calls : CallStack} (h : l.InCall calls)
    {frame : Frame} {rest : List Frame} (hframes : calls.frames = frame :: rest)
    (hslot : l.slot < frame.mark) : l.InCall { calls with frames := rest } := by
  have hdepth := CallStack.depth_of_frames hframes
  -- the popped frame is not the loan's own: its mark is above the loan's slot
  have hle : l.depth ≤ rest.length := by
    rcases Nat.lt_or_eq_of_le h.depth_le with hlt | heq
    · omega
    · have := h.mark_le frame (by rw [heq]; exact CallStack.bottomUp_innermost hframes)
      omega
  have hbelow : ∀ (k : Nat) (f : Frame), f ∈ rest.reverse[k]? → f ∈ calls.bottomUp[k]? := by
    intro k f hf
    rw [CallStack.bottomUp_of_frames hframes, List.getElem?_append_left]
    · exact hf
    · exact (List.getElem?_eq_some_iff.mp hf).1
  exact ⟨h.depth_pos, by simpa [CallStack.depth] using hle,
    fun f hf => h.mark_le f (hbelow _ f hf), fun f hf => h.lt_mark f (hbelow _ f hf)⟩

end Loan

namespace Bridge

variable {σ Obj Arr Pin : Type} [Host σ Obj Arr Pin]

omit [Host σ Obj Arr Pin] in
/-- An entry lent at the high-water mark inside a call lies in that call's slots. -/
theorem Stacked.lent_inCall {b : Bridge σ Obj Arr Pin} (h : Stacked b) (hd : b.depth ≠ 0)
    (e : Entry Obj Arr Pin) : (⟨e, b.hwm, b.depth, none⟩ : Loan Obj Arr Pin).InCall b.calls := by
  have hnested := h.nested
  cases hframes : b.calls.frames with
  | nil =>
    exact absurd (by simp [depth, CallStack.depth, hframes]) hd
  | cons f rest =>
    rw [hframes] at hnested
    refine ⟨Nat.pos_of_ne_zero hd, Nat.le_refl _, fun g hg => ?_, fun g hg => ?_⟩
    · rw [depth, CallStack.bottomUp_innermost hframes] at hg
      cases hg
      exact hnested.mark_le
    · rw [depth, CallStack.depth_of_frames hframes, CallStack.bottomUp_of_frames hframes,
        List.getElem?_eq_none (by simp)] at hg
      cases hg

/-- The loans after a step that did `ev` from `b`. -/
def EntryEvent.record (b : Bridge σ Obj Arr Pin) :
    EntryEvent Obj Arr Pin → List (Loan Obj Arr Pin) → List (Loan Obj Arr Pin)
  | .other, loans => loans
  | .lent e, loans => loans ++ [⟨e, b.hwm, b.depth, none⟩]
  | .finished i _ m, loans => loans.map (Loan.finishAt i m)

/-- A step of a request together with the loans it records. -/
def Recorded (mode : Option ReleaseMode)
    (x y : Bridge σ Obj Arr Pin × List (Loan Obj Arr Pin)) : Prop :=
  ∃ ev, EntryStep mode x.1 ev y.1 ∧ y.2 = EntryEvent.record x.1 ev x.2

/-- The loans account for the table and the calls of `b`: the stack fits the table; the open
    loans, in the order they were lent, sit exactly at the live slots; each holds, kept, the
    entry it lent; and each lies in the slots of its call, still in flight. -/
structure Tracks (b : Bridge σ Obj Arr Pin) (loans : List (Loan Obj Arr Pin)) : Prop where
  stacked : b.Stacked
  slots : Loan.openSlots loans = b.table.matching fun _ => true
  kept : ∀ l ∈ loans, l.finished = none → ∃ d, b.table.get? l.slot = some d ∧ l.entry.Kept d
  inCall : ∀ l ∈ loans, l.finished = none → l.InCall b.calls

variable {b b' : Bridge σ Obj Arr Pin} {loans : List (Loan Obj Arr Pin)}

omit [Host σ Obj Arr Pin] in
theorem tracks_new {host : σ} {config : Config} (h : Bridge.new host config = .ok b) :
    Tracks b [] := by
  refine ⟨stacked_new h, ?_, by simp, by simp⟩
  obtain ⟨_, rfl⟩ := Bridge.new_eq_ok h
  simp [Loan.openSlots, Table.matching, Table.hwm_withCapacity]

omit [Host σ Obj Arr Pin] in
theorem Tracks.lt_hwm (ht : Tracks b loans) {l : Loan Obj Arr Pin} (hl : l ∈ loans)
    (hopen : l.finished = none) : l.slot < b.hwm := by
  obtain ⟨d, hd, _⟩ := ht.kept l hl hopen
  exact Table.lt_hwm_of_get? hd

omit [Host σ Obj Arr Pin] in
/-- A move that keeps the frames and every live slot, each with its entry kept, keeps the
    loans' account. -/
theorem Tracks.thin (ht : Tracks b loans) (hthin : Thins b b')
    (hlive : ∀ i, (b.table.get? i).isSome → (b'.table.get? i).isSome) : Tracks b' loans := by
  refine ⟨ht.stacked.thin hthin, ?_, fun l hl hopen => ?_, ?_⟩
  · rw [ht.slots, hthin.table.matching_eq hlive]
  · obtain ⟨d, hd, hkept⟩ := ht.kept l hl hopen
    obtain ⟨d', hd'⟩ := Option.isSome_iff_exists.mp (hlive l.slot (by rw [hd]; rfl))
    obtain ⟨d₀, hd₀, hkept'⟩ := hthin.table.live _ d' hd'
    rw [hd] at hd₀
    cases hd₀
    exact ⟨d', hd', hkept.trans hkept'⟩
  · rw [hthin.calls]
    exact ht.inCall

omit [Host σ Obj Arr Pin] in
theorem Tracks.settle (ht : Tracks b loans) (hs : Settle b b')
    (hlive : ∀ i, (b.table.get? i).isSome → (b'.table.get? i).isSome) : Tracks b' loans := by
  have hstacked := ht.stacked.settle hs
  cases hs with
  | thin hthin => exact ht.thin hthin hlive
  | enter token _ hcalls htable _ =>
    refine ⟨hstacked, by rw [htable]; exact ht.slots, by rw [htable]; exact ht.kept,
      fun l hl hopen => ?_⟩
    rw [hcalls]
    exact (ht.inCall l hl hopen).enter (ht.lt_hwm hl hopen) token
  | exit frame rest hframes hdead hcalls htable _ =>
    have hkeep := Table.get?_truncate_of_dead hdead
    have hslot : ∀ l ∈ loans, l.finished = none → l.slot < frame.mark := by
      intro l hl hopen
      obtain ⟨d, hd, _⟩ := ht.kept l hl hopen
      by_contra hge
      rw [hdead _ (Nat.le_of_not_lt hge)] at hd
      cases hd
    refine ⟨hstacked, ?_, fun l hl hopen => ?_, fun l hl hopen => ?_⟩
    · rw [htable, Table.matching_truncate hdead]
      exact ht.slots
    · rw [htable, hkeep]
      exact ht.kept l hl hopen
    · rw [hcalls]
      exact (ht.inCall l hl hopen).exit hframes (hslot l hl hopen)

omit [Host σ Obj Arr Pin] in
theorem Tracks.lend (ht : Tracks b loans) (e : Entry Obj Arr Pin) (hd : b.depth ≠ 0) :
    Tracks { b with table := (b.table.push e).2 } (loans ++ [⟨e, b.hwm, b.depth, none⟩]) := by
  have hstacked : Stacked { b with table := (b.table.push e).2 } :=
    ht.stacked.append (x := some e) hd (by simp [Table.push, Table.slots_reserve]) rfl rfl
  refine ⟨hstacked, ?_, fun l hl hopen => ?_, fun l hl hopen => ?_⟩
  · rw [Loan.openSlots_append_lent, ht.slots]
    exact (Table.matching_push _ _ _).symm
  · rcases List.mem_append.mp hl with hl | hl
    · obtain ⟨d, hd, hkept⟩ := ht.kept l hl hopen
      refine ⟨d, ?_, hkept⟩
      change (b.table.push e).2.get? l.slot = some d
      rw [Table.get?_push, if_neg (Nat.ne_of_lt (ht.lt_hwm hl hopen) : l.slot ≠ b.table.hwm)]
      exact hd
    · rw [List.mem_singleton.mp hl]
      exact ⟨e, by simp [hwm, Table.get?_push], Entry.Kept.refl e⟩
  · rcases List.mem_append.mp hl with hl | hl
    · exact ht.inCall l hl hopen
    · rw [List.mem_singleton.mp hl]
      exact ht.stacked.lent_inCall hd e

omit [Host σ Obj Arr Pin] in
/-- Taking the entry of a slot out finishes the open loan of that slot. -/
theorem Tracks.finish (ht : Tracks b loans) (i : Nat) (m : ReleaseMode) (h : σ) :
    Tracks { b with table := (b.table.take i).2, host := h } (loans.map (Loan.finishAt i m)) := by
  refine ⟨ht.stacked.thin ⟨rfl, rfl, Table.within_take Entry.Kept.refl _ _⟩, ?_,
    fun l hl hopen => ?_, fun l hl hopen => ?_⟩
  · rw [Loan.openSlots_finishAt, ht.slots]
    exact (Table.matching_take _ _ _).symm
  · obtain ⟨l₀, hl₀, rfl⟩ := List.mem_map.mp hl
    obtain ⟨hopen₀, hslot⟩ := Loan.finishAt_open.mp hopen
    rw [Loan.finishAt_of_open hopen]
    obtain ⟨d, hd, hkept⟩ := ht.kept l₀ hl₀ hopen₀
    refine ⟨d, ?_, hkept⟩
    change (b.table.take i).2.get? l₀.slot = some d
    rw [Table.get?_take, if_neg (Ne.symm hslot)]
    exact hd
  · obtain ⟨l₀, hl₀, rfl⟩ := List.mem_map.mp hl
    rw [Loan.finishAt_of_open hopen]
    exact ht.inCall l₀ hl₀ (Loan.finishAt_open.mp hopen).1

/-- Every step of a request keeps the loans' account, with the loans it records. -/
theorem Tracks.step {mode : Option ReleaseMode} {ev : EntryEvent Obj Arr Pin}
    (ht : Tracks b loans) (hs : EntryStep mode b ev b') :
    Tracks b' (EntryEvent.record b ev loans) := by
  cases hs with
  | chore _ => exact ht.thin (Thins.host b _) fun _ => id
  | settle hs _ hlive => exact ht.settle hs hlive
  | lend e hd => exact ht.lend e hd
  | finish _ _ => exact ht.finish _ _ _

theorem Tracks.recorded {mode : Option ReleaseMode}
    {x y : Bridge σ Obj Arr Pin × List (Loan Obj Arr Pin)} (ht : Tracks x.1 x.2)
    (h : Relation.ReflTransGen (Recorded mode) x y) : Tracks y.1 y.2 := by
  induction h with
  | refl => exact ht
  | tail _ hstep ih =>
    obtain ⟨ev, hs, hy⟩ := hstep
    rw [hy]
    exact ih.step hs

theorem EntryStep.mode_eq {mode : Option ReleaseMode} {i : Nat} {e : Entry Obj Arr Pin}
    {m : ReleaseMode} (hs : EntryStep mode b (.finished i e m) b') : mode = some m := by
  cases hs
  assumption

/-- Along the steps of a request that finishes entries in mode `mode`, the loans only grow:
    loans are finished in that mode, each only while open, and new loans are appended. -/
theorem Recorded.grows {mode : Option ReleaseMode}
    {x y : Bridge σ Obj Arr Pin × List (Loan Obj Arr Pin)}
    (h : Relation.ReflTransGen (Recorded mode) x y) : Loan.Grows mode x.2 y.2 := by
  induction h with
  | refl => exact Loan.Grows.refl mode _
  | tail _ hstep ih =>
    obtain ⟨ev, hs, hy⟩ := hstep
    rw [hy]
    cases ev with
    | other => exact ih
    | lent e => exact ih.lent _ rfl
    | finished i e m =>
      obtain rfl := hs.mode_eq
      exact ih.finishAt i

/-- The steps of a request lift to steps recording loans, from any loans. -/
theorem EntryMove.recorded {mode : Option ReleaseMode}
    (h : Relation.ReflTransGen (EntryMove mode) b b') (loans : List (Loan Obj Arr Pin)) :
    ∃ loans', Relation.ReflTransGen (Recorded mode) (b, loans) (b', loans') := by
  induction h with
  | refl => exact ⟨loans, .refl⟩
  | tail _ hstep ih =>
    obtain ⟨loans₁, hchain⟩ := ih
    obtain ⟨ev, hs⟩ := hstep
    exact ⟨_, hchain.tail ⟨ev, hs, rfl⟩⟩

end Bridge

open Bridge

variable {σ Obj Arr Pin : Type} [Host σ Obj Arr Pin]

/-- The runs of a bridge from `Bridge.new`, with the loans recorded along them: a request moves
    by the steps of its release mode, recording what they lend and finish; a change of the
    runtime and a native store into a logical buffer record nothing. -/
inductive Lived (env : σ → σ → Prop) : Bridge σ Obj Arr Pin → List (Loan Obj Arr Pin) → Prop
  | start {host : σ} {config : Config} {b} : Bridge.new host config = .ok b → Lived env b []
  | request {b loans loans'} (r : Request Obj) : Lived env b loans →
      Relation.ReflTransGen (Recorded r.releaseMode) (b, loans) (r.run.after b, loans') →
      Lived env (r.run.after b) loans'
  | runtime {b loans} {h : σ} : Lived env b loans → env b.host h →
      Lived env { b with host := h } loans
  | store {b loans} {i : Nat} {e : Entry Obj Arr Pin} {old : List Int32} (cells : List Int32) :
      Lived env b loans → b.table.get? i = some e → e.buffer = .logical old →
      cells.length = old.length →
      Lived env { b with table := b.table.update i fun d => { d with buffer := .logical cells } }
        loans

namespace Lived

variable {env : σ → σ → Prop} {b : Bridge σ Obj Arr Pin} {loans : List (Loan Obj Arr Pin)}

/-- Every request from a recorded state moves by steps recording loans. -/
theorem request_recorded (h : Lived env b loans) (r : Request Obj) :
    ∃ loans', Lived env (r.run.after b) loans' ∧
      Relation.ReflTransGen (Recorded r.releaseMode) (b, loans) (r.run.after b, loans') := by
  obtain ⟨loans', hchain⟩ := EntryMove.recorded (Request.entryMoves (b := b) r) loans
  exact ⟨loans', h.request r hchain, hchain⟩

/-- Every run from a new bridge has its loans. -/
theorem of_run {host : σ} {config : Config} {b₀ : Bridge σ Obj Arr Pin}
    (hnew : Bridge.new host config = .ok b₀) (hrun : Relation.ReflTransGen (Step env) b₀ b) :
    ∃ loans, Lived env b loans := by
  induction hrun with
  | refl => exact ⟨[], .start hnew⟩
  | tail _ hstep ih =>
    obtain ⟨loans, hlived⟩ := ih
    cases hstep with
    | request r =>
      obtain ⟨loans', hlived', -⟩ := hlived.request_recorded r
      exact ⟨loans', hlived'⟩
    | runtime henv => exact ⟨loans, hlived.runtime henv⟩
    | store cells he hbuf hlen => exact ⟨loans, hlived.store cells he hbuf hlen⟩

/-- Every run keeps the loans' account. -/
theorem tracks (h : Lived env b loans) : Tracks b loans := by
  induction h with
  | start hnew => exact tracks_new hnew
  | request r _ hchain ih => exact ih.recorded hchain
  | runtime _ _ ih => exact ih.thin (Thins.host _ _) fun _ => id
  | store cells _ he hbuf hlen ih =>
    refine ih.thin (store_thins he hbuf hlen) fun j => ?_
    rw [Table.isSome_get?_update]
    exact id

end Lived


variable [DecidableEq Pin]

/-- Over any runtime, in every run from a new bridge, whatever the runtime answered and wherever
    a call failed: the run has a record of its loans, and along any such record the open loans
    sit exactly at the live slots, in the order they were lent, each holding the entry it lent
    and lying in the slots of a call still in flight; the next request, whichever it is, moves
    by steps of its own release mode, finishing with `release` in that mode each entry it takes
    out as it finishes that entry's loan, and finishing no loan twice. Every pin the runtime has
    handed out is the pin of one live entry or was handed back exactly once; no pin was handed
    back, read or stored through while it was not outstanding; none is outstanding when no call
    is in flight; and the next request hands pins back only in its own mode. -/
theorem entries_finished_once {env : σ → σ → Prop} {host : σ} {config : Config}
    {b₀ b : Bridge (Ledgered σ Pin) Obj Arr Pin}
    (hnew : Bridge.new (Ledgered.fresh host) config = .ok b₀)
    (hrun : Relation.ReflTransGen (Step (Ledgered.runtime env)) b₀ b) :
    (∃ loans, Lived (Ledgered.runtime env) b loans) ∧
      (∀ loans, Lived (Ledgered.runtime env) b loans → b.Tracks loans ∧
        ∀ r : Request Obj, ∃ loans', Relation.ReflTransGen (Recorded r.releaseMode) (b, loans)
          (r.run.after b, loans') ∧ Loan.Grows r.releaseMode loans loans') ∧
      b.host.ledger.handed.Perm (b.table.livePins ++ b.host.ledger.returned.map Prod.fst) ∧
      b.host.ledger.stray = false ∧
      (b.depth = 0 → b.host.ledger.handed.Perm (b.host.ledger.returned.map Prod.fst)) ∧
      ∀ r : Request Obj, ∃ new,
        ((r.run : Op (Bridge (Ledgered σ Pin) Obj Arr Pin) Unit).after b).host.ledger.returned =
          new ++ b.host.ledger.returned ∧ ∀ x ∈ new, some x.2 = r.releaseMode := by
  refine ⟨Lived.of_run hnew hrun, fun loans hlived => ⟨hlived.tracks, fun r => ?_⟩,
    pins_handed_back_once hnew hrun⟩
  obtain ⟨loans', -, hchain⟩ := hlived.request_recorded r
  exact ⟨loans', hchain, Recorded.grows hchain⟩

theorem entries_finished_once_benchLent :
    Bridge.new Ledgered.benchHost Config.default = .ok Ledgered.benchStart ∧
      Relation.ReflTransGen (Step (Ledgered.runtime fun _ _ => True)) Ledgered.benchStart
        Ledgered.benchLent ∧
      Ledgered.benchLent.table.matching (fun _ => true) = [0] ∧
      ((∃ loans, Lived (Ledgered.runtime fun _ _ => True) Ledgered.benchLent loans) ∧
        (∀ loans, Lived (Ledgered.runtime fun _ _ => True) Ledgered.benchLent loans →
          Ledgered.benchLent.Tracks loans ∧
          ∀ r : Request Handle, ∃ loans', Relation.ReflTransGen (Recorded r.releaseMode)
            (Ledgered.benchLent, loans) (r.run.after Ledgered.benchLent, loans') ∧
            Loan.Grows r.releaseMode loans loans') ∧
        Ledgered.benchLent.host.ledger.handed.Perm
          (Ledgered.benchLent.table.livePins ++ Ledgered.benchLent.host.ledger.returned.map Prod.fst) ∧
        Ledgered.benchLent.host.ledger.stray = false ∧
        (Ledgered.benchLent.depth = 0 → Ledgered.benchLent.host.ledger.handed.Perm
          (Ledgered.benchLent.host.ledger.returned.map Prod.fst)) ∧
        ∀ r : Request Handle, ∃ new,
          ((r.run : Op (Bridge (Ledgered Bench Nat) Handle Nat Nat) Unit).after
            Ledgered.benchLent).host.ledger.returned =
              new ++ Ledgered.benchLent.host.ledger.returned ∧
            ∀ x ∈ new, some x.2 = r.releaseMode) := by
  have hnew : Bridge.new Ledgered.benchHost Config.default = .ok Ledgered.benchStart := rfl
  have hrun : Relation.ReflTransGen (Step (Ledgered.runtime fun _ _ => True)) Ledgered.benchStart
      Ledgered.benchLent := (Relation.ReflTransGen.single (.request _)).tail (.request _)
  exact ⟨hnew, hrun, by decide +kernel, entries_finished_once hnew hrun⟩

end ArrayBridge
