import ArrayBridge.Jvm.Checked
import ArrayBridge.Log.Console
import ArrayBridge.Host

/-
  The virtual machine as the bridge's runtime. The bridge calls the machine's native interface
  directly: before each call it checks that the interface offers the function, and a missing
  function is a `jni` host fault. After a call that can throw it checks for a pending
  exception; a pending exception is described (which clears it) and is a fault naming the
  operation. Identity and validity tests degrade instead of failing: without `IsSameObject`
  only equal references name the same object, without `GetObjectRefType` every non-null
  reference is valid.

  The runtime also carries the process's log output (`World.console`), since the bridge's log
  records go to the process-wide logger, and the global references made when the bridge bound
  its up-calls.
-/

namespace ArrayBridge.Jvm

open ArrayBridge

/-- The virtual machine and the log output of the process running in it. -/
structure World where
  vm : Machine
  console : Console

/-- Global references the bridge holds from binding its up-calls. -/
structure Bindings where
  upcalls : Ref
  upcallsClass : Ref
  wrapperClass : Ref

/-- The machine as the bridge's runtime, with the bindings the bridge made. -/
structure Link where
  world : World
  bindings : Bindings

/-- Log target of the fatal-error path. -/
def hostTarget : String := "rffi_bridge::jvm::host"
/-- Log target of binding. -/
def bindingTarget : String := "rffi_bridge::jvm::binding"
/-- Log target of the exported entry points. -/
def exportsTarget : String := "rffi_bridge::jvm::exports"

/-- The stamp of entries logged in a session; it never reaches an answer. -/
def sessionStamp : Stamp := ⟨"1970-01-01T00:00:00Z", "ThreadId(1)", 1⟩

/-- Whether the caller handed the bridge an interface pointer. -/
inductive Env where
  | live
  | null
  deriving DecidableEq, Repr

namespace World

variable {α : Type}

/-- Run a machine operation on the world. -/
def onVm (m : Op Machine α) : Op World α :=
  Op.focus (·.vm) (fun vm w => { w with vm }) m

/-- Log a record. -/
def note (level : Level) (target message : String) : Op World Unit :=
  modify fun w => { w with console := w.console.log sessionStamp level target message }

/-- End the process: log the message, then tell the machine, which needs an interface pointer
and its `FatalError`; without either the process aborts after a line on the error stream. The
machine is told the message with NUL bytes as blanks. -/
def fatal (env : Env) (message : String) : Op World Empty := do
  note .error hostTarget s!"fatal: {message}"
  if env = .live && (← get).vm.has "FatalError" then
    let told := message.map (fun c => if c = '\x00' then ' ' else c)
    onVm (Machine.record (.fatalError told))
    throw (.fatal told)
  else
    modify fun w =>
      { w with console := { w.console with stderr := w.console.stderr.push s!"[rffi_bridge] fatal: {message}" } }
    throw .abort

end World

namespace Link

variable {α : Type}

/-- Run a machine operation on the link. -/
def onVm (m : Op Machine α) : Op Link α :=
  Op.focus (·.world.vm) (fun vm l => { l with world := { l.world with vm } }) m

/-- The interface must offer `function`. -/
def require (function : String) : Op Link Unit := do
  if !(← get).world.vm.has function then
    Op.fail (.host "jni" s!"missing JNI function {function}")

/-- A pending exception is described and fails the operation. -/
def checkException (operation : String) : Op Link Unit := do
  require "ExceptionCheck"
  if (← get).world.vm.pending.isSome then
    require "ExceptionDescribe"
    onVm Machine.describeException
    Op.fail (.pendingException operation)

/-- The array behind an object, through the up-call of its kind. -/
def backingArray (x : Ref) (kind : ElemKind) : Op Link Ref := do
  match vectorOf? kind with
  | none => Op.fail (.unexpectedKind "char has no backing array")
  | some t =>
    require "CallObjectMethodA"
    let a ← onVm (Machine.upcall t x)
    checkException "backing array up-call"
    if a = .null then Op.fail (.host "backing_array" s!"null {kind.name} array")
    pure a

/-- Drop a local array reference. -/
def releaseArray (a : Ref) : Op Link Unit := do
  require "DeleteLocalRef"
  onVm (Machine.deleteLocalRef a)

/-- The number of elements of an array. -/
def arrayLength (a : Ref) : Op Link Nat := do
  require "GetArrayLength"
  pure ((← get).world.vm.arrayLength a)

/-- Pin an array's elements. -/
def pin (a : Ref) (kind : ElemKind) : Op Link (Nat × Nat) := do
  let len ← arrayLength a
  match kind.cells? with
  | none => Op.fail (.unexpectedKind s!"pin {kind.name}")
  | some t =>
    require s!"Get{t.title}ArrayElements"
    match ← onVm (Machine.pinElements t a) with
    | some p => pure (p, len)
    | none => Op.fail (.pinFailed kind)

/-- Hand a pin back: mode 0 copies back, mode 2 only frees. -/
def unpin (a : Ref) (kind : ElemKind) (p : Nat) (mode : ReleaseMode) : Op Link Unit := do
  match kind.cells? with
  | none => Op.fail (.unexpectedKind s!"unpin {kind.name}")
  | some t =>
    require s!"Release{t.title}ArrayElements"
    onVm (Machine.releaseElements t a p (if mode = .copyBack then 0 else 2))

/-- Copy an array's first `n` elements out. -/
def readRegion (a : Ref) (t : CellType) (n : Nat) : Op Link Cells := do
  require s!"Get{t.title}ArrayRegion"
  let cells ← onVm (Machine.readRegion t a 0 n)
  checkException "array region read"
  pure (cells.getD (Cells.zeros t n))

/-- Copy cells into an array's first elements. -/
def writeRegion (a : Ref) (cells : Cells) : Op Link Unit := do
  require s!"Set{cells.cellType.title}ArrayRegion"
  onVm (Machine.writeRegion a 0 cells)
  checkException "array region write"

/-- The bytes of a text object's string. -/
def text (x : Ref) : Op Link (List UInt8) := do
  require "GetObjectField"
  let s ← onVm (Machine.contentsField x)
  checkException "text field read"
  if s = .null then Op.fail (.host "text" "null string contents")
  require "GetStringUTFLength"
  let len := (((← get).world.vm.stringBytes? s).map List.length).getD 0
  require "GetStringUTFChars"
  match (← get).world.vm.utfChars? s with
  | none => Op.fail (.host "text" "GetStringUTFChars returned null")
  | some chars =>
    require "ReleaseStringUTFChars"
    pure (chars.take len)

/-- Report an object's conversion outcome through the static up-call. -/
def markConversion (x : Ref) (complete : Bool) : Op Link Unit := do
  require "CallStaticVoidMethodA"
  onVm (Machine.setComplete x complete)
  checkException "conversion outcome up-call"

/-- A new global reference. -/
def newGlobalRef (x : Ref) : Op Link Ref := do
  require "NewGlobalRef"
  let g ← onVm (Machine.newGlobalRef x)
  if g = .null then Op.fail (.host "new_global_ref" "NewGlobalRef returned null")
  pure g

/-- Delete a global reference. -/
def deleteGlobalRef (x : Ref) : Op Link Unit := do
  require "DeleteGlobalRef"
  onVm (Machine.deleteGlobalRef x)

/-- The dotted class name of an object, or none when asking fails. -/
def describe (x : Ref) : Op Link (Option String) :=
  if x = .null then pure none
  else onVm fun m =>
    match Checked.className x m with
    | .ok name m' => .ok (some name) m'
    | .error _ m' => .ok none m'

/-- Whether two references name the same object. -/
def sameObject (l : Link) (a b : Ref) : Bool :=
  a = b || (a ≠ .null && b ≠ .null && l.world.vm.has "IsSameObject" && l.world.vm.sameObject a b)

/-- Whether a reference is valid. -/
def isValidRef (l : Link) (x : Ref) : Bool :=
  x ≠ .null && (!l.world.vm.has "GetObjectRefType" || l.world.vm.isValid x)

/-- The cells native code reads through a pin. -/
def loadPinned (l : Link) (p : Nat) (t : CellType) (n : Nat) : Cells :=
  match l.world.vm.pins[p]? with
  | some entry => Machine.window (if entry.cells.cellType = t then entry.cells else Cells.zeros t n) 0 n
  | none => Cells.zeros t n

/-- Native code stores cells through a pin. -/
def storePinned (p : Nat) (cells : Cells) (l : Link) : Link :=
  { l with world := { l.world with vm := { l.world.vm with
    pins := l.world.vm.pins.modify p (fun e => { e with cells }) } } }

/-- How a native address prints: pinned copies and owned buffers lie on the heap, and a buffer
without elements has the aligned dangling address of 32-bit cells. -/
def addressText : Address Nat → String
  | .lent p => hexText (0x7f3c00000000 + 0x1000 * p)
  | .owned slot => hexText (0x55e400000000 + 0x100 * slot)
  | .dangling => "0x4"

end Link

instance : Host Link Ref Ref Nat where
  sameObject := Link.sameObject
  sameArray := Link.sameObject
  isValidRef := Link.isValidRef
  backingArray := Link.backingArray
  releaseArray := Link.releaseArray
  arrayLength := Link.arrayLength
  pin := Link.pin
  unpin := Link.unpin
  readRegion := Link.readRegion
  writeRegion := Link.writeRegion
  text := Link.text
  markConversion := Link.markConversion
  newGlobalRef := Link.newGlobalRef
  deleteGlobalRef := Link.deleteGlobalRef
  describe := Link.describe
  fatalError message := Op.focus (·.world) (fun w l => { l with world := w }) (World.fatal .live message)
  loadPinned := Link.loadPinned
  storePinned := Link.storePinned
  showObject _ r := r.text
  showAddress _ := Link.addressText
  stamp _ := sessionStamp
  logs l level := l.world.console.keeps level
  log level target message l :=
    { l with world := { l.world with console := l.world.console.log sessionStamp level target message } }

end ArrayBridge.Jvm
