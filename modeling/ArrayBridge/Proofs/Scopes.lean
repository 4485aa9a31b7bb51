import ArrayBridge.Proofs.FrameExit

/-
  Leaving calls by depth, and scopes. `exitToDepth k` at depth `d` runs `exitCall` exactly
  `d + 1 - k` times in a row (none for `k = 0`), carrying on past failures and answering the
  first (`Exits`). When the runtime's calls that hand a buffer back always return to the bridge
  (`Host.Returning`), `n` exits in a row from a stacked bridge finish the entries of the innermost
  `n` frames, innermost frame first and each frame's in slot order, pop those frames and cut the
  table back to the mark of the outermost one (`ExitsFrames`).

  A body run by `withCall` may enter and leave nested frames and leave some of them open, as long
  as it never pops the frame its scope entered. Whether the body answers, fails or unwinds, the
  call ends at the depth and high-water mark it started from, having finished every entry the
  body left live from the scope's mark on; the body's fault is answered before an exit's. A scope
  dropped without an exit makes the same exits after its warning, and a failure there is fatal.

  Main statement: `scopes_restore_frames`.
-/

namespace ArrayBridge

namespace Op

variable {σ α β : Type}

/-- An operation that always comes back to its caller: it answers or fails with a fault, and
    never stops otherwise. -/
def Returns (m : Op σ α) : Prop := ∀ s e s', m s = .error e s' → ∃ f, e = .fault f

theorem returns_pure (a : α) : Returns (pure a : Op σ α) := by
  intro s e s' h
  cases h

theorem returns_fail (f : Fault) : Returns (fail f : Op σ α) := by
  intro s e s' h
  cases h
  exact ⟨f, rfl⟩

theorem returns_get : Returns (get : Op σ σ) := by
  intro s e s' h
  cases h

theorem returns_modify (g : σ → σ) : Returns (modify g : Op σ PUnit) := by
  intro s e s' h
  cases h

theorem Returns.bind {m : Op σ α} {k : α → Op σ β} (hm : Returns m) (hk : ∀ a, Returns (k a)) :
    Returns (m >>= k) := by
  intro s e s' h
  rw [bind_apply] at h
  rcases hr : m s with ⟨a, s₁⟩ | ⟨e', s₁⟩
  · rw [hr] at h
    exact hk a s₁ e s' h
  · rw [hr] at h
    cases h
    exact hm s e s' hr

end Op

open Op

/-- The runtime calls that hand a buffer back always return to the bridge. -/
structure Host.Returning (σ : Type) {Obj Arr Pin : Type} [Host σ Obj Arr Pin] : Prop where
  unpin : ∀ (a : Arr) (kind : ElemKind) (pin : Pin) (mode : ReleaseMode),
    Returns (Host.unpin a kind pin mode : Op σ Unit)
  writeRegion : ∀ (a : Arr) (cells : Cells), Returns (Host.writeRegion a cells : Op σ Unit)
  markConversion : ∀ (o : Obj) (complete : Bool),
    Returns (Host.markConversion o complete : Op σ Unit)

namespace Host.Finishes

variable {σ Obj Arr Pin : Type} [Host σ Obj Arr Pin]

/-- Two runs one after the other are one run over both lists; the first failure of the first
    run, if any, comes first. -/
theorem append {es es' : List (Entry Obj Arr Pin)} {h h' h'' : σ} {first first' : Option Fault}
    (hf : Host.Finishes es h h' first) (hf' : Host.Finishes es' h' h'' first') :
    Host.Finishes (es ++ es') h h'' (first <|> first') := by
  induction hf with
  | nil hl => exact hf'.logged_before hl
  | done hl hr _ ih => exact .done hl hr (ih hf')
  | failed hl hr _ ih => exact .failed hl hr (ih hf')

end Host.Finishes

variable {σ Obj Arr Pin : Type} [Host σ Obj Arr Pin]

theorem Codec.release_returns (hret : Host.Returning σ) (e : Entry Obj Arr Pin)
    (mode : ReleaseMode) : Returns (Codec.release e mode : Op σ Unit) := by
  unfold Codec.release
  split
  · exact returns_pure _
  · split
    · refine Returns.bind (hret.unpin _ _ _ _) fun _ => ?_
      split
      · exact hret.markConversion _ _
      · exact returns_pure _
    · exact returns_fail _
  · split
    · split
      · exact returns_pure _
      · exact Returns.bind (hret.writeRegion _ _) fun _ => hret.markConversion _ _
    · exact returns_fail _

/-! ## Frames exited together -/

/-- The entries exiting the frames `fs` finishes, innermost frame first: each frame's live
    entries from its mark up to the mark of the frame inside it (`top` for the innermost), in slot
    order. -/
def framesEntries (t : Table (Entry Obj Arr Pin)) : List Frame → Nat → List (Entry Obj Arr Pin)
  | [], _ => []
  | f :: fs, top => (List.range' f.mark (top - f.mark)).filterMap t.get? ++ framesEntries t fs f.mark

/-- The mark the table is cut back to once the frames `fs` are exited: the outermost one's, or
    `top` when there are none. -/
def floorMark : List Frame → Nat → Nat
  | [], top => top
  | f :: fs, _ => floorMark fs f.mark

theorem floorMark_append_singleton (fs : List Frame) (f : Frame) (top : Nat) :
    floorMark (fs ++ [f]) top = f.mark := by
  induction fs generalizing top with
  | nil => rfl
  | cons g fs ih => exact ih g.mark

namespace Nested

variable {fs : List Frame} {top : Nat}

theorem floorMark_take_le (h : Nested fs top) (n : Nat) : floorMark (fs.take n) top ≤ top := by
  induction fs generalizing n top with
  | nil => simp [floorMark]
  | cons f rest ih =>
    cases n with
    | zero => simp [floorMark]
    | succ n => exact Nat.le_trans (ih h.tail n) h.mark_le

/-- The entries exiting nested frames finishes depend only on the slots below `top`. -/
theorem framesEntries_congr (h : Nested fs top) (n : Nat) {t t' : Table (Entry Obj Arr Pin)}
    (hagree : ∀ i, i < top → t.get? i = t'.get? i) :
    framesEntries t (fs.take n) top = framesEntries t' (fs.take n) top := by
  induction fs generalizing n top with
  | nil => simp [framesEntries]
  | cons f rest ih =>
    cases n with
    | zero => simp [framesEntries]
    | succ n =>
      simp only [List.take_succ_cons, framesEntries]
      congr 1
      · refine List.filterMap_congr fun i hi => hagree i ?_
        obtain ⟨k, hk, rfl⟩ := List.mem_range'.mp hi
        omega
      · exact ih h.tail n fun i hi => hagree i (Nat.lt_of_lt_of_le hi h.mark_le)

/-- Exiting nested frames finishes, frame by frame, exactly the entries live from the floor mark
    up to `top`. -/
theorem framesEntries_perm (h : Nested fs top) (n : Nat) (t : Table (Entry Obj Arr Pin)) :
    (framesEntries t (fs.take n) top).Perm ((List.range' (floorMark (fs.take n) top)
      (top - floorMark (fs.take n) top)).filterMap t.get?) := by
  induction fs generalizing n top with
  | nil => simp [framesEntries, floorMark]
  | cons f rest ih =>
    cases n with
    | zero => simp [framesEntries, floorMark]
    | succ n =>
      simp only [List.take_succ_cons, framesEntries, floorMark]
      have hle : floorMark (rest.take n) f.mark ≤ f.mark := h.tail.floorMark_take_le n
      have hmark : f.mark ≤ top := h.mark_le
      have hsplit : List.range' (floorMark (rest.take n) f.mark) (top - floorMark (rest.take n) f.mark) =
          List.range' (floorMark (rest.take n) f.mark) (f.mark - floorMark (rest.take n) f.mark) ++
            List.range' f.mark (top - f.mark) := by
        rw [show top - floorMark (rest.take n) f.mark =
          (f.mark - floorMark (rest.take n) f.mark) + (top - f.mark) by omega,
          ← List.range'_append_1, Nat.add_sub_cancel' hle]
      rw [hsplit, List.filterMap_append]
      exact ((ih h.tail n).append_left _).trans List.perm_append_comm

end Nested

namespace Bridge

/-- What exiting the innermost `n` frames of `b` does, ending in `b'` with first failure
    `first`: the runtime finishes the entries of those frames, innermost frame first and each
    frame's in slot order, with only log records between; the frames are popped; the table is
    cut back to the mark of the outermost of them, keeping every slot below it, tombstones
    included; the configuration and the reference cache stay. -/
structure ExitsFrames (n : Nat) (b b' : Bridge σ Obj Arr Pin) (first : Option Fault) : Prop where
  finishes : Host.Finishes (framesEntries b.table (b.calls.frames.take n) b.hwm) b.host b'.host first
  calls : b'.calls = { b.calls with frames := b.calls.frames.drop n }
  slots : b'.table.slots = b.table.slots.extract 0 (floorMark (b.calls.frames.take n) b.hwm)
  config : b'.config = b.config
  refs : b'.refs = b.refs

namespace ExitsFrames

variable {n : Nat} {b b' : Bridge σ Obj Arr Pin} {first : Option Fault}

theorem zero (b : Bridge σ Obj Arr Pin) : ExitsFrames 0 b b none where
  finishes := .nil .refl
  calls := rfl
  slots := Array.extract_size.symm
  config := rfl
  refs := rfl

theorem depth_eq (h : ExitsFrames n b b' first) : b'.depth = b.depth - n := by
  simp [depth, CallStack.depth, h.calls]

theorem hwm_eq (h : ExitsFrames n b b' first) (hs : Stacked b) :
    b'.hwm = floorMark (b.calls.frames.take n) b.hwm := by
  have hle := hs.nested.floorMark_take_le n
  simp only [hwm, Table.hwm, h.slots, Array.size_extract] at hle ⊢
  omega

/-- Only log records between the exits and the state they start from: the same exits. -/
theorem logged_before {h : σ} (hl : Host.Logged b.host h)
    (hexits : ExitsFrames n { b with host := h } b' first) : ExitsFrames n b b' first where
  finishes := hexits.finishes.logged_before hl
  calls := hexits.calls
  slots := hexits.slots
  config := hexits.config
  refs := hexits.refs

/-- Only log records after the exits: the same exits. -/
theorem logged_after (hexits : ExitsFrames n b b' first) {h : σ} (hl : Host.Logged b'.host h) :
    ExitsFrames n b { b' with host := h } first where
  finishes := hexits.finishes.logged_after hl
  calls := hexits.calls
  slots := hexits.slots
  config := hexits.config
  refs := hexits.refs

/-- Exiting the innermost frame, then `n` frames more. -/
theorem cons {b₁ : Bridge σ Obj Arr Pin} (hs : Stacked b) {frame : Frame} {rest : List Frame}
    (hframes : b.calls.frames = frame :: rest) {first₁ : Option Fault}
    (h₁ : ExitsFrames 1 b b₁ first₁) (h : ExitsFrames n b₁ b' first) :
    ExitsFrames (n + 1) b b' (first₁ <|> first) := by
  have hnested : Nested (frame :: rest) b.hwm := hframes ▸ hs.nested
  have hrest : b₁.calls.frames = rest := by simp [h₁.calls, hframes]
  have hhwm : b₁.hwm = frame.mark := by
    rw [h₁.hwm_eq hs, hframes]
    rfl
  have hslots₁ : b₁.table.slots = b.table.slots.extract 0 frame.mark := by
    rw [h₁.slots, hframes]
    rfl
  have hagree : ∀ i, i < frame.mark → b₁.table.get? i = b.table.get? i := by
    intro i hi
    have hsame : b₁.table.slots = (b.table.truncate frame.mark).slots := hslots₁
    rw [Table.get?_of_slots hsame, Table.get?_truncate, if_pos hi]
  have hfloor := hnested.tail.floorMark_take_le n
  refine ⟨?_, ?_, ?_, h.config.trans h₁.config, h.refs.trans h₁.refs⟩
  · have hfin := h.finishes
    rw [hrest, hhwm, hnested.tail.framesEntries_congr n hagree] at hfin
    have hfin₁ := h₁.finishes
    simp only [hframes, List.take_succ_cons, List.take_zero, framesEntries, List.append_nil]
      at hfin₁ ⊢
    exact hfin₁.append hfin
  · rw [h.calls, h₁.calls, hframes]
    rfl
  · rw [h.slots, hrest, hhwm, hslots₁, Array.extract_extract, hframes]
    simp only [Nat.zero_add, List.take_succ_cons, floorMark]
    rw [Nat.min_eq_left hfloor]

end ExitsFrames

/-! ## One exit, then several -/

theorem releaseFrom_returns (hret : Host.Returning σ) (index count : Nat)
    (b : Bridge σ Obj Arr Pin) : ∃ first b', releaseFrom index count b = .ok first b' := by
  induction count generalizing index b with
  | zero => exact ⟨none, b, rfl⟩
  | succ count ih =>
    rw [releaseFrom_succ, attempt_apply]
    cases hlive : b.table.get? index with
    | none =>
      rw [releaseEntry_of_dead _ hlive]
      exact ih (index + 1) b
    | some e =>
      obtain ⟨h₁, -, hrel⟩ := releaseEntry_of_live .copyBack hlive
      rw [hrel]
      cases hcall : Codec.release e .copyBack h₁ with
      | ok u h₂ => exact ih (index + 1) _
      | error s h₂ =>
        obtain ⟨f, rfl⟩ := Codec.release_returns hret e .copyBack h₁ s h₂ hcall
        have hnext : ∀ b₁ : Bridge σ Obj Arr Pin, ∃ first b',
            (releaseFrom (index + 1) count >>= fun _ => pure (some f)) b₁ = .ok first b' := by
          intro b₁
          obtain ⟨first, b', hrest⟩ := ih (index + 1) b₁
          exact ⟨some f, b', by rw [bind_apply, hrest]; rfl⟩
        exact hnext _

theorem exitCall_returns (hret : Host.Returning σ) :
    Returns (exitCall : Op (Bridge σ Obj Arr Pin) Unit) := by
  intro b e b' h
  cases hframes : b.calls.frames with
  | nil =>
    rw [exitCall_of_idle hframes] at h
    cases h
    exact ⟨_, rfl⟩
  | cons frame rest =>
    obtain ⟨first, b₁, hrel⟩ := releaseFrom_returns hret frame.mark (b.hwm - frame.mark) b
    obtain ⟨h', -, hexit⟩ := exitCall_of_released hframes hrel
    rw [hexit] at h
    cases first with
    | none => cases h
    | some f =>
      cases h
      exact ⟨f, rfl⟩

/-- One exit from a stacked bridge with a frame on top, when it answers or fails with a fault,
    exits that frame. -/
theorem exitsFrames_one {b b' : Bridge σ Obj Arr Pin} (hs : Stacked b) {frame : Frame}
    {rest : List Frame} (hframes : b.calls.frames = frame :: rest) {first : Option Fault}
    (hexit : exitCall b = first.elim (.ok () b') fun f => .error (.fault f) b') :
    ExitsFrames 1 b b' first := by
  have hmark : frame.mark ≤ b.hwm := (hframes ▸ hs.nested : Nested (frame :: rest) b.hwm).mark_le
  cases hr : releaseFrom frame.mark (b.hwm - frame.mark) b with
  | error s b₁ =>
    -- the releases catch every fault, so an exit that returns cannot have unwound there
    rw [exitCall_of_unwound hframes hr] at hexit
    cases first with
    | none => cases hexit
    | some f =>
      cases hexit
      exact absurd hr (releaseFrom_ne_fault _ _ _ _ _)
  | ok first' b₁ =>
    obtain ⟨hfin, hb₁, hsize, hslots⟩ := releaseFrom_finishes hr
    obtain ⟨h', hlog, hexit'⟩ := exitCall_of_released hframes hr
    rw [hexit'] at hexit
    obtain ⟨rfl, rfl⟩ : first' = first ∧
        { b₁ with table := b₁.table.truncate frame.mark, calls := b₁.calls.pop.2, host := h' } = b' := by
      cases first <;> cases first' <;> cases hexit <;> exact ⟨rfl, rfl⟩
    have hcalls : b₁.calls = b.calls := by rw [hb₁]
    refine ⟨?_, ?_, ?_, by rw [hb₁], by rw [hb₁]⟩
    · simp only [hframes, List.take_succ_cons, List.take_zero, framesEntries, List.append_nil]
      exact hfin.logged_after hlog
    · simp [CallStack.pop, hcalls, hframes]
    · rw [hframes]
      exact slots_truncate_of_agree hsize fun j hj => hslots j (Or.inl hj)

/-- `Exits n b b' first`: `n` exits one after another lead from `b` to `b'`, each answering or
    failing with a fault, and `first` is the first fault. -/
inductive Exits : Nat → Bridge σ Obj Arr Pin → Bridge σ Obj Arr Pin → Option Fault → Prop
  | zero {b} : Exits 0 b b none
  | done {n b b₁ b'} {first : Option Fault} :
      exitCall b = .ok () b₁ → Exits n b₁ b' first → Exits (n + 1) b b' first
  | failed {n b b₁ b'} {f : Fault} {first : Option Fault} :
      exitCall b = .error (.fault f) b₁ → Exits n b₁ b' first → Exits (n + 1) b b' (some f)

theorem exits_of_returning (hret : Host.Returning σ) (n : Nat) (b : Bridge σ Obj Arr Pin) :
    ∃ b' first, Exits n b b' first := by
  induction n generalizing b with
  | zero => exact ⟨b, none, .zero⟩
  | succ n ih =>
    rcases hexit : exitCall b with ⟨u, b₁⟩ | ⟨e, b₁⟩
    · obtain ⟨b', first, hrest⟩ := ih b₁
      exact ⟨b', first, .done hexit hrest⟩
    · obtain ⟨f, rfl⟩ := exitCall_returns hret b e b₁ hexit
      obtain ⟨b', first, hrest⟩ := ih b₁
      exact ⟨b', some f, .failed hexit hrest⟩

theorem exitFrames_of_exits {n : Nat} {b b' : Bridge σ Obj Arr Pin} {first : Option Fault}
    (h : Exits n b b' first) : exitFrames n b = .ok first b' := by
  induction h with
  | zero => rfl
  | done hexit _ ih =>
    rw [exitFrames.eq_2, bind_apply, attempt_apply, hexit]
    dsimp only
    rw [bind_apply, ih]
    rfl
  | failed hexit _ ih =>
    rw [exitFrames.eq_2, bind_apply, attempt_apply, hexit]
    dsimp only
    rw [bind_apply, ih]
    rfl

theorem Stacked.moves {b b' : Bridge σ Obj Arr Pin} (hs : Stacked b)
    (hc : Relation.ReflTransGen Move b b') : Stacked b' := by
  induction hc with
  | refl => exact hs
  | tail _ hmove ih =>
    rcases hmove with hsettle | ⟨e, hlend⟩
    · exact ih.settle hsettle
    · exact ih.lend hlend

/-- Exits from a stacked bridge, no more than there are frames, exit the innermost frames. -/
theorem Exits.exitsFrames {n : Nat} {b b' : Bridge σ Obj Arr Pin} {first : Option Fault}
    (h : Exits n b b' first) : Stacked b → n ≤ b.depth → ExitsFrames n b b' first := by
  induction h with
  | zero => exact fun _ _ => ExitsFrames.zero _
  | @done n b b₁ b' first hexit _ ih =>
    intro hs hn
    obtain ⟨frame, rest, hframes⟩ : ∃ frame rest, b.calls.frames = frame :: rest :=
      List.exists_cons_of_length_pos (by simp only [depth, CallStack.depth] at hn; omega)
    have h₁ : ExitsFrames 1 b b₁ none := exitsFrames_one hs hframes hexit
    have hlead : Relation.ReflTransGen Move b (exitCall.after b) :=
      leads_exitCall.mono fun _ _ => Move.of_settle
    rw [after_of_ok hexit] at hlead
    have hs₁ : Stacked b₁ := hs.moves hlead
    exact h₁.cons hs hframes (ih hs₁ (by rw [h₁.depth_eq]; omega))
  | @failed n b b₁ b' f first hexit _ ih =>
    intro hs hn
    obtain ⟨frame, rest, hframes⟩ : ∃ frame rest, b.calls.frames = frame :: rest :=
      List.exists_cons_of_length_pos (by simp only [depth, CallStack.depth] at hn; omega)
    have h₁ : ExitsFrames 1 b b₁ (some f) := exitsFrames_one hs hframes hexit
    have hlead : Relation.ReflTransGen Move b (exitCall.after b) :=
      leads_exitCall.mono fun _ _ => Move.of_settle
    rw [after_of_error hexit] at hlead
    have hs₁ : Stacked b₁ := hs.moves hlead
    exact h₁.cons hs hframes (ih hs₁ (by rw [h₁.depth_eq]; omega))

/-! ## Leaving calls by depth -/

/-- Exiting to depth `k` from a stacked bridge whose runtime returns: `d + 1 - k` exits one after
    another (none for `k = 0`), which exit the innermost frames, and the first failure
    answered. -/
theorem exitToDepth_exits (hret : Host.Returning σ) {b : Bridge σ Obj Arr Pin} (hs : Stacked b)
    (k : Nat) :
    ∃ b' first, Exits (if k = 0 then 0 else b.depth + 1 - k) b b' first ∧
      ExitsFrames (if k = 0 then 0 else b.depth + 1 - k) b b' first ∧
      exitToDepth k b = first.elim (.ok () b') fun f => .error (.fault f) b' := by
  obtain ⟨b', first, hexits⟩ := exits_of_returning hret (if k = 0 then 0 else b.depth + 1 - k) b
  have hle : (if k = 0 then 0 else b.depth + 1 - k) ≤ b.depth := by split <;> omega
  refine ⟨b', first, hexits, hexits.exitsFrames hs hle, ?_⟩
  unfold exitToDepth
  rw [bind_apply, get_apply]
  dsimp only
  rw [bind_apply, exitFrames_of_exits hexits]
  cases first <;> rfl

/-- Exits of the frames a scope's body left open inside the scope's frame, and of that frame:
    the entries live from the scope's mark on are finished, and the bridge is left with the
    frames around the scope and the scope's mark. -/
theorem ExitsFrames.scope {b₂ b₃ : Bridge σ Obj Arr Pin} (hs : Stacked b₂)
    {inner outer : List Frame} {frame : Frame} (hframes : b₂.calls.frames = inner ++ frame :: outer)
    {first : Option Fault} (h : ExitsFrames (inner.length + 1) b₂ b₃ first) :
    Host.Finishes (framesEntries b₂.table (inner ++ [frame]) b₂.hwm) b₂.host b₃.host first ∧
      (framesEntries b₂.table (inner ++ [frame]) b₂.hwm).Perm
        ((List.range' frame.mark (b₂.hwm - frame.mark)).filterMap b₂.table.get?) ∧
      b₃.calls.frames = outer ∧ b₃.hwm = frame.mark ∧
      b₃.table.slots = b₂.table.slots.extract 0 frame.mark := by
  have htake : b₂.calls.frames.take (inner.length + 1) = inner ++ [frame] := by
    rw [hframes, List.take_append, List.take_of_length_le (by omega), Nat.add_sub_cancel_left]
    rfl
  have hperm := hs.nested.framesEntries_perm (inner.length + 1) b₂.table
  rw [htake, floorMark_append_singleton] at hperm
  refine ⟨htake ▸ h.finishes, hperm, ?_, ?_, ?_⟩
  · rw [h.calls, hframes, List.drop_append, List.drop_of_length_le (by omega),
      Nat.add_sub_cancel_left]
    rfl
  · rw [h.hwm_eq hs, htake, floorMark_append_singleton]
  · rw [h.slots, htake, floorMark_append_singleton]

/-- Exiting to the depth of a scope whose frame lies under the frames `inner`. -/
theorem exitToDepth_scope (hret : Host.Returning σ) {b : Bridge σ Obj Arr Pin} (hs : Stacked b)
    {inner outer : List Frame} {frame : Frame} (hframes : b.calls.frames = inner ++ frame :: outer) :
    ∃ b' first, ExitsFrames (inner.length + 1) b b' first ∧
      exitToDepth (outer.length + 1) b = first.elim (.ok () b') fun f => .error (.fault f) b' := by
  have hcount : (if outer.length + 1 = 0 then 0 else b.depth + 1 - (outer.length + 1)) =
      inner.length + 1 := by
    rw [if_neg (Nat.succ_ne_zero _)]
    simp only [depth, CallStack.depth, hframes, List.length_append, List.length_cons]
    omega
  obtain ⟨b', first, -, hexits, hexit⟩ := exitToDepth_exits hret hs (outer.length + 1)
  rw [hcount] at hexits
  exact ⟨b', first, hexits, hexit⟩

/-! ## Scopes -/

theorem warnOpen_logs (scope : Nat) (b : Bridge σ Obj Arr Pin) :
    ∃ h, Host.Logged b.host h ∧ warnOpen scope b = .ok () { b with host := h } := by
  unfold warnOpen
  rw [bind_apply, get_apply]
  dsimp only
  split
  · exact ⟨_, .single ⟨_, _, _, rfl⟩, note_apply ..⟩
  · exact ⟨b.host, .refl, rfl⟩

/-- A scope dropped without an exit: its warning, then the exits to its depth; a failure there
    is fatal. -/
theorem dropScope_of_exits {scope : Nat} {b b' : Bridge σ Obj Arr Pin} {h : σ}
    (hwarn : warnOpen scope b = .ok () { b with host := h }) {first : Option Fault}
    (hexit : exitToDepth scope { b with host := h } =
      first.elim (.ok () b') fun f => .error (.fault f) b') :
    dropScope scope b = first.elim (.ok () b') fun f => fatal f b' := by
  unfold dropScope
  rw [bind_apply, hwarn]
  dsimp only
  rw [bind_apply, attempt_apply, hexit]
  cases first <;> rfl

/-- A scope dropped while unwinding: its warning, then the exits to its depth; a failure there
    is only logged. -/
theorem unwindScope_of_exits {scope : Nat} {b b' : Bridge σ Obj Arr Pin} {h : σ}
    (hwarn : warnOpen scope b = .ok () { b with host := h }) {first : Option Fault}
    (hexit : exitToDepth scope { b with host := h } =
      first.elim (.ok () b') fun f => .error (.fault f) b') :
    ∃ h', Host.Logged b'.host h' ∧ unwindScope scope b = .ok () { b' with host := h' } := by
  unfold unwindScope
  rw [bind_apply, hwarn]
  dsimp only
  rw [bind_apply, attempt_apply, hexit]
  cases first
  · exact ⟨b'.host, .refl, rfl⟩
  · exact ⟨_, .single ⟨_, _, _, rfl⟩, note_apply ..⟩

theorem enterCall_eq_ok {token scope : Nat} {b b₁ : Bridge σ Obj Arr Pin}
    (h : enterCall token b = .ok scope b₁) :
    scope = b.depth + 1 ∧ b₁.calls.frames = ⟨b.hwm, token⟩ :: b.calls.frames := by
  by_cases hroom : b.depth < b.calls.maxDepth
  · obtain ⟨h', henter⟩ := enterCall_of_lt token hroom
    rw [henter] at h
    cases h
    exact ⟨rfl, rfl⟩
  · rw [enterCall_of_le token (Nat.le_of_not_lt hroom)] at h
    cases h

section WithCall

variable {α : Type} {token scope : Nat} {body : Op (Bridge σ Obj Arr Pin) α}
  {b b₁ b₂ b₃ : Bridge σ Obj Arr Pin}

theorem guardScope_of_ok {a : α} (h : body b₁ = .ok a b₂) : guardScope scope body b₁ = .ok a b₂ := by
  simp only [guardScope, h]

theorem guardScope_of_unwound {s : Stop} (h : body b₁ = .error s b₂) (hs : ∀ f, s ≠ .fault f)
    (hunwind : unwindScope scope b₂ = .ok () b₃) : guardScope scope body b₁ = .error s b₃ := by
  cases s with
  | fault f => exact absurd rfl (hs f)
  | _ => simp only [guardScope, h, hunwind]

theorem withCall_of_full (token : Nat) (body : Op (Bridge σ Obj Arr Pin) α)
    (h : b.calls.maxDepth ≤ b.depth) :
    withCall token body b = .error (.fault (.callDepthOverflow (b.depth + 1) b.calls.maxDepth)) b := by
  unfold withCall openScope
  rw [bind_apply, enterCall_of_le token h]

/-- After the body answers, the scope is exited: the body's value, or the exits' first failure. -/
theorem withCall_of_ok {a : α} {first : Option Fault} (henter : enterCall token b = .ok scope b₁)
    (hbody : body b₁ = .ok a b₂)
    (hexit : exitToDepth scope b₂ = first.elim (.ok () b₃) fun f => .error (.fault f) b₃) :
    withCall token body b = first.elim (.ok a b₃) fun f => .error (.fault f) b₃ := by
  have hguard : guardScope scope (attempt body) b₁ = .ok (.ok a) b₂ :=
    guardScope_of_ok (by rw [attempt_apply, hbody])
  unfold withCall openScope
  rw [bind_apply, henter]
  dsimp only
  rw [bind_apply, hguard]
  dsimp only
  rw [bind_apply, attempt_apply, hexit]
  cases first <;> rfl

/-- After the body fails, the scope is exited and the body's fault is answered, whatever the
    exits answered. -/
theorem withCall_of_fault {f : Fault} {first : Option Fault}
    (henter : enterCall token b = .ok scope b₁) (hbody : body b₁ = .error (.fault f) b₂)
    (hexit : exitToDepth scope b₂ = first.elim (.ok () b₃) fun f => .error (.fault f) b₃) :
    withCall token body b = .error (.fault f) b₃ := by
  have hguard : guardScope scope (attempt body) b₁ = .ok (.error f) b₂ :=
    guardScope_of_ok (by rw [attempt_apply, hbody])
  unfold withCall openScope
  rw [bind_apply, henter]
  dsimp only
  rw [bind_apply, hguard]
  dsimp only
  rw [bind_apply, attempt_apply, hexit]
  cases first <;> rfl

/-- A body that unwinds: the scope is dropped on the way out and the same stop goes on. -/
theorem withCall_of_unwound {s : Stop} (henter : enterCall token b = .ok scope b₁)
    (hbody : body b₁ = .error s b₂) (hs : ∀ f, s ≠ .fault f)
    (hunwind : unwindScope scope b₂ = .ok () b₃) :
    withCall token body b = .error s b₃ := by
  have hguard : guardScope scope (attempt body) b₁ = .error s b₃ := by
    refine guardScope_of_unwound ?_ hs hunwind
    rw [attempt_apply, hbody]
    cases s with
    | fault f => exact absurd rfl (hs f)
    | _ => rfl
  unfold withCall openScope
  rw [bind_apply, henter]
  dsimp only
  rw [bind_apply, hguard]

end WithCall

/-- How calls are left from `b`: by depth, by dropping a scope, and at the end of `withCall`. -/
structure ScopedExits (b : Bridge σ Obj Arr Pin) : Prop where
  /-- `exitToDepth k` exits `d + 1 - k` frames (none for `k = 0`), one `exitCall` after
      another, leaves the depth at `min d (k - 1)` and answers the first failure. -/
  toDepth : ∀ k, ∃ b' first,
    Exits (if k = 0 then 0 else b.depth + 1 - k) b b' first ∧
    ExitsFrames (if k = 0 then 0 else b.depth + 1 - k) b b' first ∧
    b'.depth = (if k = 0 then b.depth else min b.depth (k - 1)) ∧
    exitToDepth k b = first.elim (.ok () b') fun f => .error (.fault f) b'
  /-- A scope dropped without an exit makes the same exits; a failure there is fatal. -/
  dropped : ∀ k, ∃ b' first,
    ExitsFrames (if k = 0 then 0 else b.depth + 1 - k) b b' first ∧
    dropScope k b = first.elim (.ok () b') fun f => fatal f b'
  /-- On a full stack `withCall` enters nothing, runs nothing and changes nothing. -/
  refused : b.calls.maxDepth ≤ b.depth → ∀ {α : Type} (token : Nat) (body : Op (Bridge σ Obj Arr Pin) α),
    withCall token body b = .error (.fault (.callDepthOverflow (b.depth + 1) b.calls.maxDepth)) b
  /-- A body that moves the bridge from the state `b₁` its scope entered to `b₂`, leaving the
      frames `inner` open inside the scope's frame: the exits finish exactly the entries live in
      `b₂` from the scope's mark on, frame by frame, and restore the frames and the high-water
      mark `withCall` started from. The body's fault comes first, then the exits' first failure,
      then the body's value; a body that unwinds goes on unwinding. -/
  call : ∀ {α : Type} (token : Nat) (body : Op (Bridge σ Obj Arr Pin) α) (scope : Nat)
    (b₁ b₂ : Bridge σ Obj Arr Pin) (inner : List Frame),
    enterCall token b = .ok scope b₁ → Leads Move b₁ body → body.after b₁ = b₂ →
    b₂.calls.frames = inner ++ b₁.calls.frames →
    ∃ b₃ first,
      Host.Finishes (framesEntries b₂.table (inner ++ [⟨b.hwm, token⟩]) b₂.hwm) b₂.host b₃.host
        first ∧
      (framesEntries b₂.table (inner ++ [⟨b.hwm, token⟩]) b₂.hwm).Perm
        ((List.range' b.hwm (b₂.hwm - b.hwm)).filterMap b₂.table.get?) ∧
      b₃.calls.frames = b.calls.frames ∧ b₃.hwm = b.hwm ∧
      b₃.table.slots = b₂.table.slots.extract 0 b.hwm ∧
      (∀ a, body b₁ = .ok a b₂ →
        withCall token body b = first.elim (.ok a b₃) fun f => .error (.fault f) b₃) ∧
      (∀ f, body b₁ = .error (.fault f) b₂ → withCall token body b = .error (.fault f) b₃) ∧
      (∀ s, body b₁ = .error s b₂ → (∀ f, s ≠ .fault f) → withCall token body b = .error s b₃)

end Bridge

namespace Reachable

variable {env : σ → σ → Prop}

open Bridge

/-- In a reachable bridge whose runtime hands buffers back without stopping, calls are left by
    depth, by a dropped scope and at the end of `withCall` as `ScopedExits` says. -/
theorem scopes_restore_frames (hret : Host.Returning σ) {b : Bridge σ Obj Arr Pin}
    (hb : Reachable env b) : ScopedExits b := by
  have hs := hb.stacked
  refine ⟨fun k => ?_, fun k => ?_, fun hfull _ token body => withCall_of_full token body hfull, ?_⟩
  · obtain ⟨b', first, hexits, hframes, hexit⟩ := exitToDepth_exits hret hs k
    refine ⟨b', first, hexits, hframes, ?_, hexit⟩
    rw [hframes.depth_eq]
    split <;> omega
  · obtain ⟨h, hl, hwarn⟩ := warnOpen_logs k b
    obtain ⟨b', first, -, hframes, hexit⟩ := exitToDepth_exits hret (hs.thin (Thins.host b h)) k
    exact ⟨b', first, hframes.logged_before hl, dropScope_of_exits hwarn hexit⟩
  · intro α token body scope b₁ b₂ inner henter hmoves hb₂ hinner
    obtain ⟨rfl, hframes₁⟩ := enterCall_eq_ok henter
    have hframes₂ : b₂.calls.frames = inner ++ ⟨b.hwm, token⟩ :: b.calls.frames := by
      rw [hinner, hframes₁]
    have hs₁ : Stacked b₁ := by
      have hlead : Relation.ReflTransGen Move b ((enterCall token).after b) :=
        (leads_enterCall token).mono fun _ _ => Move.of_settle
      rw [after_of_ok henter] at hlead
      exact hs.moves hlead
    have hs₂ : Stacked b₂ := by
      have hlead : Relation.ReflTransGen Move b₁ (body.after b₁) := hmoves
      rw [hb₂] at hlead
      exact hs₁.moves hlead
    rcases hbody : body b₁ with ⟨a, b₂'⟩ | ⟨e, b₂'⟩
    · -- the body answered: the scope is exited from where it ended
      obtain rfl : b₂ = b₂' := by rw [← hb₂, after_of_ok hbody]
      obtain ⟨b₃, first, hexits, hexit⟩ := exitToDepth_scope hret hs₂ hframes₂
      obtain ⟨hfin, hperm, hcalls, hhwm, hslots⟩ := hexits.scope hs₂ hframes₂
      refine ⟨b₃, first, hfin, hperm, hcalls, hhwm, hslots, fun a' h => ?_, fun f h => ?_,
        fun s h _ => ?_⟩
      · cases h
        exact withCall_of_ok henter hbody hexit
      · cases h
      · cases h
    · obtain rfl : b₂ = b₂' := by rw [← hb₂, after_of_error hbody]
      by_cases hfault : ∃ f, e = .fault f
      · -- the body failed: the scope is exited from where it ended
        obtain ⟨f, rfl⟩ := hfault
        obtain ⟨b₃, first, hexits, hexit⟩ := exitToDepth_scope hret hs₂ hframes₂
        obtain ⟨hfin, hperm, hcalls, hhwm, hslots⟩ := hexits.scope hs₂ hframes₂
        refine ⟨b₃, first, hfin, hperm, hcalls, hhwm, hslots, fun a h => ?_, fun f' h => ?_,
          fun s h hs' => ?_⟩
        · cases h
        · cases h
          exact withCall_of_fault henter hbody hexit
        · cases h
          exact absurd rfl (hs' f)
      · -- the body unwound: the scope is dropped on the way out, after its warning
        have hstop : ∀ f, e ≠ .fault f := fun f he => hfault ⟨f, he⟩
        obtain ⟨h, hl, hwarn⟩ := warnOpen_logs (b.depth + 1) b₂
        obtain ⟨b₃, first, hexits, hexit⟩ :=
          exitToDepth_scope hret (hs₂.thin (Thins.host b₂ h)) (b := { b₂ with host := h }) hframes₂
        obtain ⟨h', hl', hunwind⟩ := unwindScope_of_exits hwarn hexit
        obtain ⟨hfin, hperm, hcalls, hhwm, hslots⟩ :=
          ((hexits.logged_before hl).logged_after hl').scope hs₂ hframes₂
        refine ⟨{ b₃ with host := h' }, first, hfin, hperm, hcalls, hhwm, hslots, fun a h => ?_,
          fun f h => ?_, fun s h _ => ?_⟩
        · cases h
        · cases h
          exact absurd rfl (hstop f)
        · cases h
          exact withCall_of_unwound henter hbody hstop hunwind

end Reachable

/-! ## The test bench returns -/

namespace Bench

theorem returns_record (c : HostCall) : Returns (record c) := returns_modify _

theorem returns_gate (operation : String) : Returns (gate operation) := by
  unfold gate
  refine Returns.bind returns_get fun _ => ?_
  split
  · exact Returns.bind (returns_record _) fun _ => returns_fail _
  · exact returns_pure _

theorem returning : Host.Returning Bench where
  unpin _ _ _ _ := Returns.bind (returns_record _) fun _ => returns_gate _
  writeRegion a cells := by
    show Returns (writeRegion a cells)
    unfold writeRegion
    refine Returns.bind (returns_record _) fun _ => Returns.bind (returns_gate _) fun _ =>
      Returns.bind returns_get fun _ => ?_
    split
    · split
      · exact returns_modify _
      · exact returns_fail _
    · exact returns_fail _
  markConversion _ _ := Returns.bind (returns_record _) fun _ => returns_gate _

end Bench

theorem scopes_restore_frames_benchNested :
    Host.Returning Bench ∧ Reachable (fun _ _ => True) Reachable.benchNested ∧
      Reachable.benchNested.depth = 2 ∧ Reachable.benchNested.hwm = 1 ∧
      Bridge.ScopedExits Reachable.benchNested := by
  have hb : Reachable (fun _ _ => True) Reachable.benchNested := Reachable.reachable_benchNested _
  exact ⟨Bench.returning, hb, by decide +kernel, by decide +kernel,
    Reachable.scopes_restore_frames Bench.returning hb⟩

end ArrayBridge
