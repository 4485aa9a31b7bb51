import ArrayBridge.Bridge.Basic

/-
  The life of a lent buffer. `acquire` answers the buffer already lent for an object (any
  reference to the same object finds it) or makes a new one in a new slot; a cached buffer may be
  requested as another kind of the same element width. `invalidate` finishes every buffer of an
  object, wherever it lies. `refresh` copies the managed contents into a buffer made in the
  current frame, and finishes it without copying when the managed side has replaced the array
  since. `pushToManaged` copies native contents back without finishing the buffer. The `…All`
  forms walk the slots of the current frame in order and stop at the first failure.
-/

namespace ArrayBridge

namespace Bridge

variable {σ Obj Arr Pin : Type} [Host σ Obj Arr Pin]

/-- Whether an entry stands for object `o`. -/
def holds (h : σ) (o : Obj) (e : Entry Obj Arr Pin) : Bool := Host.sameObject h e.object o

/-- Find the live entry of `o`, remembering the hit. -/
def lookup (o : Obj) : Op (Bridge σ Obj Arr Pin) (Option Nat) := do
  let b ← get
  let (found, table) := b.table.find (holds b.host o)
  set { b with table }
  pure found

/-- The mark of the innermost frame, for an operation that needs one. -/
def currentMark (operation : String) : Op (Bridge σ Obj Arr Pin) Nat := do
  match (← get).calls.current with
  | some frame => pure frame.mark
  | none => Op.fail (.noActiveCall operation)

/-- Make room for one more slot, logging a growth. -/
def reserveSlot : Op (Bridge σ Obj Arr Pin) Unit := do
  let b ← get
  let table := b.table.reserve
  set { b with table }
  if table.capacity ≠ b.table.capacity then
    note .trace mirrorTarget s!"extending mirror table from {b.table.capacity} to {table.capacity}"

/-- The address of a cached entry requested as `kind`: another kind of the same width is
answered with a warning, another width is refused. -/
def reuse (o : Obj) (kind : ElemKind) (index : Nat) (e : Entry Obj Arr Pin) :
    Op (Bridge σ Obj Arr Pin) (Address Pin) := do
  let h := (← get).host
  if e.kind ≠ kind then
    let detail :=
      s!"{kindMismatch}: {Host.showObject h o} cached as {e.kind.name}, requested as {kind.name}"
    if e.kind.width ≠ kind.width then Op.fail (.unexpectedKind detail)
    note .warn mirrorTarget detail
  let address := e.buffer.address index
  note .trace mirrorTarget
    s!"findNativeArray({Host.showObject h o}): found {Host.showAddress h address} at {index}"
  pure address

/-- Lend a new buffer for `o` in a new slot. Room is made before the buffer is extracted, so
the table may grow even when extraction fails. -/
def lend (o : Obj) (kind : ElemKind) : Op (Bridge σ Obj Arr Pin) (Address Pin) := do
  reserveSlot
  let (array, buffer) ← onHost (Codec.extract o kind)
  let b ← get
  let (index, table) := b.table.push ⟨kind, o, array, buffer⟩
  set { b with table }
  if ← tracing then
    let name ← onHost (Host.describe o)
    let h := (← get).host
    let cls := name.getD "?"
    note .trace mirrorTarget
      s!"addNativeArray(x={Host.showObject h o}, class={cls}, ix={index}, kind={kind.name})"
  pure (buffer.address index)

/-- The native address of `o`'s elements as `kind`, lending a buffer on first request. Repeated
requests answer the same address until the buffer is finished. -/
def acquire (o : Obj) (kind : ElemKind) : Op (Bridge σ Obj Arr Pin) (Address Pin) := do
  if (← get).depth = 0 then Op.fail (.noActiveCall "acquire")
  validate o "acquire"
  match ← lookup o with
  | some index =>
    match (← get).table.get? index with
    | some e => reuse o kind index e
    | none => lend o kind
  | none => lend o kind

/-- Finish the entries in the given slots with `copyBack`, stopping at the first failure. -/
def invalidateEach (o : Obj) : List Nat → Op (Bridge σ Obj Arr Pin) Unit
  | [] => pure ()
  | index :: rest => do
    note .trace mirrorTarget
      s!"invalidateNativeArray({Host.showObject (← get).host o}): found at {index}"
    let _ ← releaseEntry index .copyBack
    invalidateEach o rest

/-- Finish every buffer of `o` anywhere in the table, pushing native contents back first;
answers how many were finished. -/
def invalidate (o : Obj) : Op (Bridge σ Obj Arr Pin) Nat := do
  validate o "invalidate"
  let b ← get
  let found := b.table.matching (holds b.host o)
  if found.isEmpty then
    note .trace mirrorTarget s!"invalidateNativeArray({Host.showObject b.host o}): not found"
    pure 0
  else
    invalidateEach o found
    pure found.length

/-- Refresh the entry in slot `index` from its managed array, or finish it without copying when
the object's array has been replaced since the buffer was made. -/
def refreshEntry (index : Nat) : Op (Bridge σ Obj Arr Pin) Unit := do
  match (← get).table.get? index with
  | none => pure ()
  | some e =>
    match e.array with
    | none => pure ()
    | some recorded =>
      let current ← onHost (Host.backingArray e.object e.kind)
      let unchanged := Host.sameArray (← get).host current recorded
      onHost (Host.releaseArray current)
      let x := Host.showObject (← get).host e.object
      if unchanged then
        note .trace mirrorTarget
          s!"updateNativeArray(x={x}, ix={index}, kind={e.kind.name}): copying data from managed side"
        match (← get).table.get? index with
        | some live =>
          let buffer ← onHost (Codec.refresh e.kind recorded live.buffer)
          modify fun b => { b with table := b.table.update index (fun d => { d with buffer }) }
        | none => pure ()
      else
        note .warn mirrorTarget s!"updateNativeArray(x={x}, ix={index}, kind={e.kind.name}): {staleCopy}"
        let b ← get
        match b.table.take index with
        | (some stale, table) =>
          set { b with table }
          onHost (Codec.release stale .abort)
        | (none, _) => pure ()

/-- Refresh the buffer of `o`, which must have been made in the current frame; false when `o`
has no buffer. -/
def refresh (o : Obj) : Op (Bridge σ Obj Arr Pin) Bool := do
  let mark ← currentMark "refresh"
  match ← lookup o with
  | none => pure false
  | some index =>
    if index < mark then Op.fail (.crossFrameRefresh index mark)
    refreshEntry index
    pure true

/-- Refresh the slots `index, index + 1, …`, `count` of them, stopping at the first failure. -/
def refreshFrom (index : Nat) : (count : Nat) → Op (Bridge σ Obj Arr Pin) Unit
  | 0 => pure ()
  | count + 1 => do
    refreshEntry index
    refreshFrom (index + 1) count

/-- Refresh every buffer made in the current frame. -/
def refreshAll : Op (Bridge σ Obj Arr Pin) Unit := do
  let mark ← currentMark "refresh-all"
  refreshFrom mark ((← get).hwm - mark)

/-- Copy the native contents of the entry in slot `index` back, keeping the buffer. -/
def pushEntry (index : Nat) : Op (Bridge σ Obj Arr Pin) Unit := do
  match (← get).table.get? index with
  | none => pure ()
  | some e =>
    note .trace mirrorTarget s!"updateJObject({Host.showObject (← get).host e.object}): updating"
    onHost (Codec.pushBack e.kind e.object e.array e.buffer)

/-- Copy the native contents of `o`'s buffer back without finishing it; false when `o` has no
buffer. -/
def pushToManaged (o : Obj) : Op (Bridge σ Obj Arr Pin) Bool := do
  match ← lookup o with
  | none => pure false
  | some index =>
    pushEntry index
    pure true

/-- Push back the slots `index, index + 1, …`, `count` of them, stopping at the first failure. -/
def pushFrom (index : Nat) : (count : Nat) → Op (Bridge σ Obj Arr Pin) Unit
  | 0 => pure ()
  | count + 1 => do
    pushEntry index
    pushFrom (index + 1) count

/-- Push back every buffer made in the current frame. -/
def pushBackAll : Op (Bridge σ Obj Arr Pin) Unit := do
  let mark ← currentMark "push-back-all"
  pushFrom mark ((← get).hwm - mark)

end Bridge

end ArrayBridge
