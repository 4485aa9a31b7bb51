import ArrayBridge.Heap.Basic
import ArrayBridge.Host
import ArrayBridge.Json.Value

/-
  A test bench for the bridge: the in-memory heap as a `Host`, a record of every call the bridge
  makes to it, a set of operations made to fail on purpose, and the state of the native test
  program that drives the bridge (buffers it holds from direct codec calls, and the answers of
  the steps it has run inside the current call).

  Each runtime call is recorded before it does anything. A call whose operation is in the failing
  set then records the injected failure and fails with it, with no other effect. Element types are
  checked: an integer, real or raw request needs integer, double or byte storage, a logical
  request byte storage, a region copy the array's exact type and length. A plain bench
  (`checks = false`) treats every reference as valid and does not record array releases.
-/

namespace ArrayBridge

/-- A call the bridge made to the bench, as recorded. -/
inductive HostCall where
  | backingArray (ref : Nat) (kind : ElemKind)
  | releaseArray (array : Nat)
  | arrayLength (array : Nat)
  | pin (array : Nat) (kind : ElemKind)
  | unpin (array : Nat) (kind : ElemKind) (mode : ReleaseMode)
  | readRegion (array : Nat) (cells : CellType) (len : Nat)
  | writeRegion (array : Nat) (cells : CellType) (len : Nat)
  | text (ref : Nat)
  | markConversion (ref : Nat) (complete : Bool)
  | newGlobalRef (ref : Nat)
  | deleteGlobalRef (ref : Nat)
  /-- The call just recorded failed on purpose. -/
  | injected (operation : String)

/-- A buffer the native test program holds from a direct codec call. -/
structure Held where
  kind : ElemKind
  object : Handle
  array : Option Nat
  buffer : Buffer Nat

/-- The heap, the calls made to it, and the native test program's own state. -/
structure Bench where
  heap : Heap
  /-- Operations that fail on purpose. -/
  failing : List String
  /-- Calls made and not yet reported. -/
  calls : Array HostCall
  /-- Whether references are checked and array releases recorded. -/
  checks : Bool
  /-- Buffers held from direct codec calls, by slot. -/
  held : Array (Option Held)
  /-- Answers of the steps run inside the current call, in order. -/
  transcript : Array Json

namespace Bench

/-- A bench over an empty heap. -/
def new (checks : Bool) : Bench := ⟨.empty, [], #[], checks, #[], #[]⟩

/-- Record a call. -/
def record (c : HostCall) : Op Bench Unit :=
  modify fun b => { b with calls := b.calls.push c }

/-- Fail on purpose when `operation` is in the failing set. -/
def gate (operation : String) : Op Bench Unit := do
  if (← get).failing.contains operation then
    record (.injected operation)
    Op.fail (.host operation "injected failure")

/-- The fault of storage that does not hold a kind. -/
def wrongStorage (kind : ElemKind) : Fault := .host "host" s!"storage does not hold {kind.name}"

/-- The fault of a region copy of the wrong type or length. -/
def wrongRegion (operation : String) : Fault := .host operation "region type or length mismatch"

/-- Whether storage can stand behind a vector of a kind. -/
def backs (c : Cells) (kind : ElemKind) : Bool :=
  match c, kind with
  | .int _, .integer | .real _, .real | .raw _, .raw | .raw _, .logical => true
  | _, _ => false

/-- Whether storage can be pinned as a kind. -/
def pinnable (c : Cells) (kind : ElemKind) : Bool :=
  match c, kind with
  | .int _, .integer | .real _, .real | .raw _, .raw => true
  | _, _ => false

/-- The first `n` cells of a run read as type `t`; storage of another type reads as zeros. -/
def view (c : Cells) (t : CellType) (n : Nat) : Cells :=
  match c, t with
  | .int xs, .int => .int (xs.take n)
  | .real xs, .real => .real (xs.take n)
  | .raw xs, .raw => .raw (xs.take n)
  | _, _ => Cells.zeros t n

/-- Whether two runs have the same type and length. -/
def fits (a b : Cells) : Bool := a.cellType == b.cellType && a.length == b.length

def backingArray (h : Handle) (kind : ElemKind) : Op Bench Nat := do
  record (.backingArray h.ref kind)
  gate "backing_array"
  let heap := (← get).heap
  match heap.arrayOf? h.object with
  | some a =>
    match heap.cells? a with
    | some c => if backs c kind then pure a else Op.fail (wrongStorage kind)
    | none => Op.fail (wrongStorage kind)
  | none => Op.fail (wrongStorage kind)

def releaseArray (a : Nat) : Op Bench Unit := do
  if (← get).checks then
    record (.releaseArray a)
    gate "release_array"

def arrayLength (a : Nat) : Op Bench Nat := do
  record (.arrayLength a)
  gate "array_length"
  pure (((← get).heap.cells? a).map Cells.length |>.getD 0)

def pin (a : Nat) (kind : ElemKind) : Op Bench (Nat × Nat) := do
  record (.pin a kind)
  gate "pin"
  match (← get).heap.cells? a with
  | some c => if pinnable c kind then pure (a, c.length) else Op.fail (wrongStorage kind)
  | none => Op.fail (wrongStorage kind)

def unpin (a : Nat) (kind : ElemKind) (_pin : Nat) (mode : ReleaseMode) : Op Bench Unit := do
  record (.unpin a kind mode)
  gate "unpin"

def readRegion (a : Nat) (t : CellType) (n : Nat) : Op Bench Cells := do
  record (.readRegion a t n)
  gate "read_region"
  match (← get).heap.cells? a with
  | some c => if c.cellType == t && c.length == n then pure c else Op.fail (wrongRegion "read_region")
  | none => Op.fail (wrongRegion "read_region")

def writeRegion (a : Nat) (cells : Cells) : Op Bench Unit := do
  record (.writeRegion a cells.cellType cells.length)
  gate "write_region"
  match (← get).heap.cells? a with
  | some c =>
    if fits c cells then modify fun b => { b with heap := b.heap.setCells a cells }
    else Op.fail (wrongRegion "write_region")
  | none => Op.fail (wrongRegion "write_region")

def text (h : Handle) : Op Bench (List UInt8) := do
  record (.text h.ref)
  gate "text"
  match (← get).heap.contents? h.object with
  | some (.text bytes) => pure bytes
  | _ => Op.fail (wrongStorage .char)

def markConversion (h : Handle) (complete : Bool) : Op Bench Unit := do
  record (.markConversion h.ref complete)
  gate "mark_conversion"

def newGlobalRef (h : Handle) : Op Bench Handle := do
  record (.newGlobalRef h.ref)
  gate "new_global_ref"
  let b ← get
  let (g, heap) := b.heap.newRef h.object
  set { b with heap }
  pure g

def deleteGlobalRef (h : Handle) : Op Bench Unit := do
  record (.deleteGlobalRef h.ref)
  gate "delete_global_ref"

/-- Native stores through a pin land in the pinned array itself. -/
def storePinned (a : Nat) (cells : Cells) (b : Bench) : Bench :=
  match b.heap.cells? a with
  | some c => if fits c cells then { b with heap := b.heap.setCells a cells } else b
  | none => b

/-- How an address prints. -/
def addressText : Address Nat → String
  | .lent a => s!"storage of array {a}"
  | .owned slot => s!"scratch of slot {slot}"
  | .dangling => "dangling"

instance : Host Bench Handle Nat Nat where
  sameObject _ a b := a.object == b.object
  sameArray _ a b := a == b
  isValidRef b h := !b.checks || b.heap.isValid h
  backingArray := backingArray
  releaseArray := releaseArray
  arrayLength := arrayLength
  pin := pin
  unpin := unpin
  readRegion := readRegion
  writeRegion := writeRegion
  text := text
  markConversion := markConversion
  newGlobalRef := newGlobalRef
  deleteGlobalRef := deleteGlobalRef
  describe h := do
    if (← get).checks then pure (some s!"object {h.object}") else pure none
  fatalError message := throw (.fatal message)
  loadPinned b a t n := match b.heap.cells? a with
    | some c => view c t n
    | none => Cells.zeros t n
  storePinned := storePinned
  showObject _ h := h.text
  showAddress _ := addressText
  stamp _ := ⟨"1970-01-01T00:00:00Z", "ThreadId(1)", 1⟩
  logs _ _ := false
  log _ _ _ b := b

end Bench

end ArrayBridge
