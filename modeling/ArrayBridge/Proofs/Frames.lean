import ArrayBridge.Proofs.Reachable

/-
  The call stack and the table's high-water mark. Frames are entered with the mark the table has
  then; the outermost frame is entered on an empty table, so its mark is 0, and each frame's mark
  lies between the mark of the frame around it and the high-water mark. Exiting a frame truncates
  the table at its mark, which is the high-water mark the frame around it may see; with no frame
  left the table is empty. Entering succeeds exactly while the stack has room.

  `Nested` says this of a list of frames and a mark, `Bridge.Stacked` of a bridge, and
  `Reachable.stacked` proves it of every reachable bridge from the moves of `Moves`. The main
  statement is `frames_nested`.
-/

namespace ArrayBridge

/-- Frames, innermost first, whose marks climb from 0 at the outermost frame to at most
    `top`. -/
def Nested : List Frame → Nat → Prop
  | [], _ => True
  | [f], _ => f.mark = 0
  | f :: g :: rest, top => f.mark ≤ top ∧ Nested (g :: rest) f.mark

namespace Nested

variable {f : Frame} {fs rest : List Frame} {top top' : Nat}

theorem mark_le (h : Nested (f :: rest) top) : f.mark ≤ top := by
  cases rest with
  | nil =>
    have hzero : f.mark = 0 := h
    omega
  | cons g rest => exact h.1

/-- The frames inside the innermost one are nested under its mark. -/
theorem tail (h : Nested (f :: rest) top) : Nested rest f.mark := by
  cases rest with
  | nil => trivial
  | cons g rest => exact h.2

theorem outermost (h : Nested [f] top) : f.mark = 0 := h

theorem mono (h : Nested fs top) (hle : top ≤ top') : Nested fs top' := by
  match fs, h with
  | [], _ => trivial
  | [_], h => exact h
  | _ :: _ :: _, h => exact ⟨Nat.le_trans h.1 hle, h.2⟩

/-- A frame marked with `top` nests over frames under `top`, once the outermost frame has
    mark 0. -/
theorem push (h : Nested fs top) (hempty : fs = [] → top = 0) (token : Nat) :
    Nested (⟨top, token⟩ :: fs) top := by
  cases fs with
  | nil => exact hempty rfl
  | cons g rest => exact ⟨Nat.le_refl top, h⟩

theorem forall_mark_le (h : Nested fs top) : ∀ f ∈ fs, f.mark ≤ top := by
  induction fs generalizing top with
  | nil => intro f hf; cases hf
  | cons g rest ih =>
    intro f hf
    rcases List.mem_cons.mp hf with rfl | hrest
    · exact h.mark_le
    · exact Nat.le_trans (ih h.tail f hrest) h.mark_le

/-- Each frame's mark is at least the mark of every frame around it. -/
theorem pairwise (h : Nested fs top) :
    fs.Pairwise (fun inner outer => outer.mark ≤ inner.mark) := by
  induction fs generalizing top with
  | nil => exact List.Pairwise.nil
  | cons g rest ih => exact List.Pairwise.cons (h.tail.forall_mark_le) (ih h.tail)

theorem getLast_mark (h : Nested fs top) : ∀ f ∈ fs.getLast?, f.mark = 0 := by
  induction fs generalizing top with
  | nil => intro f hf; cases hf
  | cons g rest ih =>
    intro f hf
    cases rest with
    | nil =>
      cases hf
      exact h.outermost
    | cons g' rest' => exact ih h.tail f (by simpa [List.getLast?_cons_cons] using hf)

end Nested

namespace Bridge

variable {σ Obj Arr Pin : Type}

/-- The call stack of a bridge fits its table: the stack keeps the configured bound, the marks
    nest under the high-water mark, and without frames the table is empty. -/
structure Stacked (b : Bridge σ Obj Arr Pin) : Prop where
  maxDepth_eq : b.calls.maxDepth = b.config.maxCallDepth
  depth_le : b.depth ≤ b.config.maxCallDepth
  nested : Nested b.calls.frames b.hwm
  idle : b.depth = 0 → b.hwm = 0

theorem stacked_new {host : σ} {config : Config} {b : Bridge σ Obj Arr Pin}
    (h : Bridge.new host config = .ok b) : Stacked b := by
  obtain ⟨_, rfl⟩ := Bridge.new_eq_ok h
  exact ⟨rfl, Nat.zero_le _, trivial, fun _ => Table.hwm_withCapacity _⟩

theorem Stacked.thin {b b' : Bridge σ Obj Arr Pin} (h : Stacked b) (ht : Thins b b') :
    Stacked b' := by
  have hhwm : b'.hwm = b.hwm := ht.table.hwm_eq
  have hdepth : b'.depth = b.depth := by rw [depth, depth, ht.calls]
  refine ⟨?_, ?_, ?_, ?_⟩
  · rw [ht.calls, ht.config]
    exact h.maxDepth_eq
  · rw [hdepth, ht.config]
    exact h.depth_le
  · rw [hhwm, ht.calls]
    exact h.nested
  · rw [hhwm, hdepth]
    exact h.idle

/-- Every move of the frames and the table keeps the stack fitted to the table. -/
theorem Stacked.settle {b b' : Bridge σ Obj Arr Pin} (h : Stacked b) (hs : Settle b b') :
    Stacked b' := by
  cases hs with
  | thin ht => exact h.thin ht
  | enter token hroom hcalls htable hconfig =>
    have hhwm : b'.hwm = b.hwm := by rw [hwm, hwm, htable]
    have hdepth : b'.depth = b.depth + 1 := by
      simp only [depth, CallStack.depth, hcalls, List.length_cons]
    refine ⟨?_, ?_, ?_, ?_⟩
    · rw [hcalls, hconfig]
      exact h.maxDepth_eq
    · rw [hdepth, hconfig, ← h.maxDepth_eq]
      exact hroom
    · rw [hhwm, hcalls]
      refine h.nested.push (fun hnil => h.idle ?_) token
      simp [depth, CallStack.depth, hnil]
    · rw [hdepth]
      intro hzero
      cases hzero
  | exit frame rest hframes _ hcalls htable hconfig =>
    have hnested : Nested (frame :: rest) b.hwm := hframes ▸ h.nested
    have hhwm : b'.hwm = frame.mark := by
      rw [hwm, htable, Table.hwm_truncate]
      exact Nat.min_eq_left hnested.mark_le
    have hdepth : b'.depth = rest.length := by simp [depth, CallStack.depth, hcalls]
    refine ⟨?_, ?_, ?_, ?_⟩
    · rw [hcalls, hconfig]
      exact h.maxDepth_eq
    · have hle := h.depth_le
      simp only [depth, CallStack.depth, hframes, List.length_cons] at hle
      rw [hdepth, hconfig]
      omega
    · rw [hhwm, hcalls]
      exact hnested.tail
    · intro hzero
      rw [hdepth, List.length_eq_zero_iff] at hzero
      subst hzero
      rw [hhwm]
      exact hnested.outermost

/-- Appending a slot inside a call only raises the high-water mark. -/
theorem Stacked.append {b b' : Bridge σ Obj Arr Pin} {x : Option (Entry Obj Arr Pin)}
    (h : Stacked b) (hd : b.depth ≠ 0) (hslots : b'.table.slots = b.table.slots.push x)
    (hcalls : b'.calls = b.calls) (hconfig : b'.config = b.config) : Stacked b' := by
  have hhwm : b'.hwm = b.hwm + 1 := by simp [hwm, Table.hwm, hslots]
  have hdepth : b'.depth = b.depth := by rw [depth, depth, hcalls]
  refine ⟨?_, ?_, ?_, ?_⟩
  · rw [hcalls, hconfig]
    exact h.maxDepth_eq
  · rw [hdepth, hconfig]
    exact h.depth_le
  · rw [hhwm, hcalls]
    exact h.nested.mono (Nat.le_succ _)
  · rw [hdepth]
    intro hzero
    exact absurd hzero hd

variable [Host σ Obj Arr Pin]

theorem Stacked.lend {b b' : Bridge σ Obj Arr Pin} {e : Entry Obj Arr Pin} (h : Stacked b)
    (hl : Lends b b' e) : Stacked b' :=
  h.append hl.inCall hl.slots hl.calls hl.config

omit [Host σ Obj Arr Pin] in
/-- A live slot lies below the high-water mark, so some call is in flight. -/
theorem Stacked.depth_ne_zero {b : Bridge σ Obj Arr Pin} (h : Stacked b) {i : Nat}
    {e : Entry Obj Arr Pin} (he : b.table.get? i = some e) : b.depth ≠ 0 := by
  intro hzero
  have hempty : b.table.hwm = 0 := h.idle hzero
  have hlt : i < b.table.hwm := Table.lt_hwm_of_get? he
  omega

/-! ## Entering a call -/

open Op

/-- With room on the stack, entering a call pushes a frame marked with the high-water mark and
    answers the new depth; besides the frames only the runtime's log changes. -/
theorem enterCall_of_lt {b : Bridge σ Obj Arr Pin} (token : Nat)
    (h : b.depth < b.calls.maxDepth) :
    ∃ h' : σ, enterCall token b = .ok (b.depth + 1)
      { b with host := h', calls := { b.calls with frames := ⟨b.hwm, token⟩ :: b.calls.frames } } := by
  have hroom : ¬ b.calls.maxDepth ≤ b.calls.depth := Nat.not_le.mpr h
  have hpush : b.calls.push b.hwm token =
      .ok (b.depth + 1, { b.calls with frames := ⟨b.hwm, token⟩ :: b.calls.frames }) := by
    unfold CallStack.push
    rw [if_neg hroom]
    rfl
  unfold enterCall
  rw [bind_apply, get_apply]
  dsimp only
  rw [bind_apply, ofExcept_apply, hpush]
  exact ⟨_, rfl⟩

/-- On a full stack, entering a call fails with the depth the call would have had, and the
    bridge is left as it was. -/
theorem enterCall_of_le {b : Bridge σ Obj Arr Pin} (token : Nat) (h : b.calls.maxDepth ≤ b.depth) :
    enterCall token b = .error (.fault (.callDepthOverflow (b.depth + 1) b.calls.maxDepth)) b := by
  have hfull : b.calls.maxDepth ≤ b.calls.depth := h
  have hpush : b.calls.push b.hwm token =
      .error (.callDepthOverflow (b.depth + 1) b.calls.maxDepth) := by
    unfold CallStack.push
    rw [if_pos hfull]
    rfl
  unfold enterCall
  rw [bind_apply, get_apply]
  dsimp only
  rw [bind_apply, ofExcept_apply, hpush]

end Bridge

namespace Reachable

variable {σ Obj Arr Pin : Type} [Host σ Obj Arr Pin] {env : σ → σ → Prop}

theorem stacked {b : Bridge σ Obj Arr Pin} (h : Reachable env b) : Bridge.Stacked b :=
  h.invariant (fun _ _ _ => Bridge.stacked_new) (fun _ _ hb hs => hb.settle hs)
    (fun _ _ _ hb hl => hb.lend hl)

/-- In every reachable state the call stack fits the table: it holds at most the configured
    number of frames, the marks climb from 0 at the outermost frame and none lies above the
    high-water mark, and with no call in flight the table is empty. Entering a call succeeds
    exactly while there is room: it pushes a frame marked with the high-water mark and answers
    the new depth; on a full stack it fails with depth `max + 1` and leaves the bridge as it
    was. -/
theorem frames_nested {b : Bridge σ Obj Arr Pin} (hb : Reachable env b) :
    b.depth ≤ b.config.maxCallDepth ∧
      (∀ f ∈ b.calls.bottomUp.head?, f.mark = 0) ∧
      (b.calls.bottomUp.map Frame.mark).Pairwise (· ≤ ·) ∧
      (∀ f ∈ b.calls.frames, f.mark ≤ b.hwm) ∧
      (b.depth = 0 → b.hwm = 0) ∧
      ∀ token, (b.depth < b.config.maxCallDepth → ∃ h' : σ,
          Bridge.enterCall token b = .ok (b.depth + 1)
            { b with host := h', calls := { b.calls with
                frames := ⟨b.hwm, token⟩ :: b.calls.frames } }) ∧
        (b.config.maxCallDepth ≤ b.depth → Bridge.enterCall token b =
          .error (.fault (.callDepthOverflow (b.config.maxCallDepth + 1) b.config.maxCallDepth))
            b) := by
  have hs := hb.stacked
  refine ⟨hs.depth_le, ?_, ?_, hs.nested.forall_mark_le, hs.idle, fun token => ⟨?_, ?_⟩⟩
  · rw [CallStack.bottomUp, List.head?_reverse]
    exact hs.nested.getLast_mark
  · rw [CallStack.bottomUp, List.pairwise_map, List.pairwise_reverse]
    exact hs.nested.pairwise
  · intro hroom
    rw [← hs.maxDepth_eq] at hroom
    exact Bridge.enterCall_of_lt token hroom
  · intro hfull
    have hdepth : b.depth = b.config.maxCallDepth := Nat.le_antisymm hs.depth_le hfull
    have hfull' : b.calls.maxDepth ≤ b.depth := by
      rw [hs.maxDepth_eq]
      exact hfull
    rw [Bridge.enterCall_of_le token hfull', hdepth, hs.maxDepth_eq]

theorem frames_nested_benchNested :
    Reachable (fun _ _ => True) benchNested ∧
      benchNested.calls.frames.map Frame.mark = [1, 0] ∧ benchNested.hwm = 1 ∧
      (benchNested.depth ≤ benchNested.config.maxCallDepth ∧
        (∀ f ∈ benchNested.calls.bottomUp.head?, f.mark = 0) ∧
        (benchNested.calls.bottomUp.map Frame.mark).Pairwise (· ≤ ·) ∧
        (∀ f ∈ benchNested.calls.frames, f.mark ≤ benchNested.hwm) ∧
        (benchNested.depth = 0 → benchNested.hwm = 0) ∧
        ∀ token, (benchNested.depth < benchNested.config.maxCallDepth → ∃ h' : Bench,
            Bridge.enterCall token benchNested = .ok (benchNested.depth + 1)
              { benchNested with host := h', calls := { benchNested.calls with
                  frames := ⟨benchNested.hwm, token⟩ :: benchNested.calls.frames } }) ∧
          (benchNested.config.maxCallDepth ≤ benchNested.depth →
            Bridge.enterCall token benchNested = .error (.fault (.callDepthOverflow
              (benchNested.config.maxCallDepth + 1) benchNested.config.maxCallDepth))
                benchNested)) := by
  have hb : Reachable (fun _ _ => True) benchNested := reachable_benchNested _
  exact ⟨hb, by decide +kernel, by decide +kernel, frames_nested hb⟩

end Reachable

end ArrayBridge
