import ArrayBridge.Host
import ArrayBridge.Mirror.Table

/-
  Per-kind rules for moving vector data across the boundary. Integer, real and raw vectors are
  pinned and lent as they are. A logical vector is read as packed bytes and widened into a
  bridge-owned scratch buffer; narrowing writes it back and reports whether every value was 0 or
  1. A text value is copied once, refused when it holds a NUL byte, and never synchronised
  again.

  `extract` makes a buffer, `pushBack` copies native contents into the managed array without
  finishing the buffer, `refresh` copies the managed array into the buffer, and `release`
  finishes a buffer: with `copyBack` it hands native edits back and reports the outcome, with
  `abort` it copies nothing and reports nothing.
-/

namespace ArrayBridge

namespace Codec

variable {σ Obj Arr Pin : Type} [Host σ Obj Arr Pin]

/-- The cells pinned storage of a kind is read as; logical and char storage is never pinned. -/
def pinnedCells (kind : ElemKind) : Except Fault CellType :=
  match kind.cells? with
  | some t => .ok t
  | none => .error (.unexpectedKind s!"pinned {kind.name}")

/-- The fault of a buffer that needs an array and has none. -/
def noArray (kind : ElemKind) : Fault := .unexpectedKind s!"{kind.name} without backing array"

/-- A buffer reflecting the current contents of `object`, with the array behind it. -/
def extract (object : Obj) (kind : ElemKind) : Op σ (Option Arr × Buffer Pin) :=
  match kind with
  | .integer | .real | .raw => do
    let array ← Host.backingArray object kind
    let (pin, len) ← Host.pin array kind
    pure (some array, .pinned pin len)
  | .logical => do
    let array ← Host.backingArray object kind
    let len ← Host.arrayLength array
    let packed ← Host.readRegion array .raw len
    pure (some array, .logical ((packed.region len).map widenLogical))
  | .char => do
    let bytes ← Host.text object
    match bytes.idxOf? 0 with
    | some position => Op.fail (.interiorNul position)
    | none => pure (none, .text bytes)

/-- Copy native contents into the managed array without finishing the buffer, then report
whether the copy was lossless. Text is never copied back. -/
def pushBack (kind : ElemKind) (object : Obj) (array : Option Arr) :
    Buffer Pin → Op σ Unit
  | .text _ => pure ()
  | .pinned pin len =>
    match array with
    | some a => do
      let t ← Op.ofExcept (pinnedCells kind)
      let cells ← Host.readPinned pin t len
      Host.writeRegion a cells
      Host.markConversion object true
    | none => Op.fail (noArray kind)
  | .logical cells =>
    match array with
    | some a => do
      let (packed, complete) := narrowLogicals cells
      Host.writeRegion a (.raw packed)
      Host.markConversion object complete
    | none => Op.fail (noArray kind)

/-- Copy the managed array into the buffer, answering the buffer as it then is. -/
def refresh (kind : ElemKind) (array : Arr) : Buffer Pin → Op σ (Buffer Pin)
  | .text bytes => pure (.text bytes)
  | .pinned pin len => do
    let t ← Op.ofExcept (pinnedCells kind)
    let cells ← Host.readRegion array t len
    modify (Host.storePinned pin cells)
    pure (.pinned pin len)
  | .logical cells => do
    let packed ← Host.readRegion array .raw cells.length
    pure (.logical ((packed.region cells.length).map widenLogical))

/-- Finish an entry's buffer. Pinned storage is handed back in the given mode; a logical
buffer is narrowed into its array unless the mode is `abort`; with `copyBack` the outcome is
reported to the object. -/
def release (entry : Entry Obj Arr Pin) (mode : ReleaseMode) : Op σ Unit :=
  match entry.buffer with
  | .text _ => pure ()
  | .pinned pin _ =>
    match entry.array with
    | some a => do
      Host.unpin a entry.kind pin mode
      if mode = .copyBack then Host.markConversion entry.object true
    | none => Op.fail (noArray entry.kind)
  | .logical cells =>
    match entry.array with
    | some a =>
      if mode = .abort then pure ()
      else do
        let (packed, complete) := narrowLogicals cells
        Host.writeRegion a (.raw packed)
        Host.markConversion entry.object complete
    | none => Op.fail (noArray entry.kind)

theorem release_text (kind : ElemKind) (object : Obj) (array : Option Arr) (bytes : List UInt8)
    (mode : ReleaseMode) (s : σ) :
    release (⟨kind, object, array, .text bytes⟩ : Entry Obj Arr Pin) mode s = .ok () s := rfl

end Codec

end ArrayBridge
