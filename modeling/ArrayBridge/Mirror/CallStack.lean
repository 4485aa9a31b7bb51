import ArrayBridge.Fault

/-
  The stack of native calls in flight. Each frame remembers the table's high-water mark when its
  call was entered (its `mark`) and the recovery token the calling layer unwinds to when the call
  fails. The stack holds at most `maxDepth` frames; a push beyond that fails and leaves the stack
  as it was. Frames are kept innermost first.
-/

namespace ArrayBridge

/-- Bookkeeping for one native call. -/
structure Frame where
  /-- The table's high-water mark when the call was entered. -/
  mark : Nat
  /-- The recovery token of the call. -/
  token : Nat
  deriving DecidableEq, Repr

/-- A bounded stack of native calls, innermost first. -/
structure CallStack where
  frames : List Frame
  maxDepth : Nat
  deriving Repr

namespace CallStack

/-- An empty stack holding at most `maxDepth` frames. -/
def new (maxDepth : Nat) : CallStack := ⟨[], maxDepth⟩

/-- Number of calls in flight. -/
def depth (s : CallStack) : Nat := s.frames.length

/-- Push a frame and answer the new depth; a full stack refuses and stays as it was. -/
def push (s : CallStack) (mark token : Nat) : Except Fault (Nat × CallStack) :=
  if s.maxDepth ≤ s.depth then .error (.callDepthOverflow (s.depth + 1) s.maxDepth)
  else .ok (s.depth + 1, { s with frames := ⟨mark, token⟩ :: s.frames })

/-- The innermost frame. -/
def current (s : CallStack) : Option Frame := s.frames.head?

/-- Remove the innermost frame, answering it. -/
def pop (s : CallStack) : Option Frame × CallStack :=
  (s.frames.head?, { s with frames := s.frames.tail })

/-- The frames, outermost first. -/
def bottomUp (s : CallStack) : List Frame := s.frames.reverse

theorem push_ok_iff (s : CallStack) (mark token : Nat) :
    (∃ r, s.push mark token = .ok r) ↔ s.depth < s.maxDepth := by
  unfold push
  split <;> simp <;> omega

theorem depth_pop (s : CallStack) : (s.pop).2.depth = s.depth - 1 := by
  simp [pop, depth]

end CallStack

end ArrayBridge
