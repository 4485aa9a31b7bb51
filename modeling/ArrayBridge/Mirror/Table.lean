import ArrayBridge.Mirror.Buffer

/-
  The table of lent buffers. Slots are appended at the high-water mark (`hwm`) and never move; a
  finished entry leaves a tombstone (`none`) in its slot, and slots are only removed when a call
  frame truncates the table back to the mark it was entered with. Capacity starts at the
  requested size (at least one) and doubles whenever an entry is appended to a full table.
  Lookups first try the slot of the last hit, then scan from the bottom.

  Main statements: how appending, tombstoning and truncating move the high-water mark
  (`hwm_push`, `hwm_take`, `hwm_truncate`).
-/

namespace ArrayBridge

/-- One lent buffer: the kind it was requested as, the managed object it stands for, the array
behind the object when the buffer was made (none for text) and the storage lent out. -/
structure Entry (Obj Arr Pin : Type) where
  kind : ElemKind
  object : Obj
  array : Option Arr
  buffer : Buffer Pin
  deriving DecidableEq

/-- What a table slot holds, as seen from outside. -/
inductive SlotState where
  | live
  | tombstoned
  /-- At or above the high-water mark. -/
  | absent
  deriving DecidableEq, Repr

/-- The name of a slot state. -/
def SlotState.name : SlotState → String
  | .live => "live"
  | .tombstoned => "tombstoned"
  | .absent => "absent"

/-- Slots of entries below a high-water mark, with room for `capacity` slots. -/
structure Table (ε : Type) where
  slots : Array (Option ε)
  capacity : Nat
  lastHit : Nat

namespace Table

variable {ε : Type}

/-- An empty table with room for `c` slots, and at least one. -/
def withCapacity (c : Nat) : Table ε := ⟨#[], max 1 c, 0⟩

/-- Index of the next free slot. -/
def hwm (t : Table ε) : Nat := t.slots.size

/-- Number of live slots. -/
def liveCount (t : Table ε) : Nat := t.slots.countP Option.isSome

/-- The state of slot `i`. -/
def slotState (t : Table ε) (i : Nat) : SlotState :=
  match t.slots[i]? with
  | some (some _) => .live
  | some none => .tombstoned
  | none => .absent

/-- The live entry of slot `i`. -/
def get? (t : Table ε) (i : Nat) : Option ε := (t.slots[i]?).bind id

/-- Change the live entry of slot `i`, if there is one. -/
def update (t : Table ε) (i : Nat) (f : ε → ε) : Table ε :=
  { t with slots := t.slots.modify i (Option.map f) }

/-- Make room for one more slot: a full table doubles its capacity. -/
def reserve (t : Table ε) : Table ε :=
  if t.hwm = t.capacity then { t with capacity := t.capacity + max 1 t.capacity } else t

/-- Append a live entry at the high-water mark, making room first; answers its index. -/
def push (t : Table ε) (e : ε) : Nat × Table ε :=
  let r := t.reserve
  (r.hwm, { r with slots := r.slots.push (some e), lastHit := r.hwm })

/-- Tombstone slot `i`, handing back the entry that lived there. -/
def take (t : Table ε) (i : Nat) : Option ε × Table ε :=
  match t.get? i with
  | some e => (some e, { t with slots := t.slots.setIfInBounds i none })
  | none => (none, t)

/-- Drop every slot at or above `n`; a last hit there goes back to slot 0. -/
def truncate (t : Table ε) (n : Nat) : Table ε :=
  { t with slots := t.slots.extract 0 n, lastHit := if n ≤ t.lastHit then 0 else t.lastHit }

/-- Whether every slot at or above `n` is a tombstone, so truncating at `n` loses nothing. -/
def deadFrom (t : Table ε) (n : Nat) : Bool :=
  (t.slots.extract n t.slots.size).all Option.isNone

/-- Whether slot `s` holds a live entry that `hit` accepts. -/
def accepts (hit : ε → Bool) : Option ε → Bool
  | some e => hit e
  | none => false

/-- Index of the first live entry that `hit` accepts: the plain scan. -/
def firstMatch (t : Table ε) (hit : ε → Bool) : Option Nat :=
  t.slots.findIdx? (accepts hit)

/-- Index of a live entry that `hit` accepts, trying the last hit first; a hit found by the
scan becomes the last hit. -/
def find (t : Table ε) (hit : ε → Bool) : Option Nat × Table ε :=
  match t.get? t.lastHit with
  | some e =>
    if hit e then (some t.lastHit, t)
    else match t.firstMatch hit with
      | some i => (some i, { t with lastHit := i })
      | none => (none, t)
  | none =>
    match t.firstMatch hit with
    | some i => (some i, { t with lastHit := i })
    | none => (none, t)

/-- Indices of every live entry that `hit` accepts, across the whole table. -/
def matching (t : Table ε) (hit : ε → Bool) : List Nat :=
  (List.range t.hwm).filter (fun i => accepts hit (t.get? i))

theorem hwm_withCapacity (c : Nat) : (withCapacity c : Table ε).hwm = 0 := rfl

theorem slots_reserve (t : Table ε) : t.reserve.slots = t.slots := by
  unfold reserve
  split <;> rfl

theorem hwm_push (t : Table ε) (e : ε) : (t.push e).2.hwm = t.hwm + 1 := by
  simp [push, hwm, slots_reserve]

theorem fst_push (t : Table ε) (e : ε) : (t.push e).1 = t.hwm := by
  simp [push, hwm, slots_reserve]

theorem hwm_take (t : Table ε) (i : Nat) : (t.take i).2.hwm = t.hwm := by
  unfold take
  split <;> simp [hwm]

theorem hwm_truncate (t : Table ε) (n : Nat) : (t.truncate n).hwm = min n t.hwm := by
  simp [truncate, hwm]

theorem get?_eq_some_iff (t : Table ε) (i : Nat) (e : ε) :
    t.get? i = some e ↔ t.slots[i]? = some (some e) := by
  unfold get?
  cases t.slots[i]? <;> simp

end Table

end ArrayBridge
