import ArrayBridge.Mirror.Codec
import ArrayBridge.Mirror.CallStack
import ArrayBridge.Config.Basic

/-
  The bridge: the runtime it talks to, its configuration, the table of lent buffers, the stack of
  native calls in flight and the cache of long-lived references. Bridge operations run in
  `Op (Bridge σ Obj Arr Pin)`; a runtime call runs on the `host` part through `Bridge.onHost`.

  Entering a call pushes a frame marked with the table's high-water mark; exiting it finishes,
  in slot order, every entry made since, truncates the table back to the mark and pops the
  frame, even when some of the releases fail (the first failure is reported afterwards).
  `exitToDepth d` exits frames until fewer than `d` remain. A scope is a frame exited when its
  body ends: explicitly, when dropped (a failure there is fatal), or while unwinding (failures are
  only logged). `withCall` runs a body inside a scope and reports the body's fault first.
-/

namespace ArrayBridge

/-- A long-lived reference kept by the bridge; a permanent one is never released. -/
structure RefSlot (Obj : Type) where
  permanent : Bool
  ref : Obj

/-- Everything the bridge owns, and the runtime it talks to. -/
structure Bridge (σ Obj Arr Pin : Type) where
  host : σ
  config : Config
  table : Table (Entry Obj Arr Pin)
  calls : CallStack
  refs : Table (RefSlot Obj)

/-- Log target of table events. -/
def mirrorTarget : String := "rffi_bridge::mirror"
/-- Log target of reference-cache events. -/
def refsTarget : String := "rffi_bridge::refs"
/-- Log target of call-frame events. -/
def callsTarget : String := "rffi_bridge::calls"
/-- Log target of the fatal-error report. -/
def reportTarget : String := "rffi_bridge::bridge"
/-- Component name of the bridge's structured entries. -/
def bridgeComponent : String := "rffi_bridge"

namespace Bridge

variable {σ Obj Arr Pin α : Type}

/-- A bridge over `host`, once the configuration passes its check. -/
def new (host : σ) (config : Config) : Except Fault (Bridge σ Obj Arr Pin) := do
  config.check
  pure { host, config
         table := .withCapacity config.tableCapacity
         calls := .new config.maxCallDepth
         refs := .withCapacity config.refCapacity }

/-- Number of native calls in flight. -/
def depth (b : Bridge σ Obj Arr Pin) : Nat := b.calls.depth

/-- The table's high-water mark. -/
def hwm (b : Bridge σ Obj Arr Pin) : Nat := b.table.hwm

variable [Host σ Obj Arr Pin]

/-- Run a runtime operation on the bridge's runtime. -/
def onHost (m : Op σ α) : Op (Bridge σ Obj Arr Pin) α :=
  Op.focus (·.host) (fun h b => { b with host := h }) m

/-- Keep a log record. -/
def note (level : Level) (target message : String) : Op (Bridge σ Obj Arr Pin) Unit :=
  modify fun b => { b with host := Host.log level target message b.host }

/-- Whether trace records are kept. -/
def tracing : Op (Bridge σ Obj Arr Pin) Bool := do
  pure (Host.logs (← get).host Level.trace)

/-- Refuse an invalid reference when validation is on. -/
def validate (o : Obj) (operation : String) : Op (Bridge σ Obj Arr Pin) Unit := do
  let b ← get
  if b.config.validateRefs && !Host.isValidRef b.host o then
    Op.fail (.invalidReference operation)

/-- Report a fault and end through the runtime's fatal-error path. -/
def fatal (f : Fault) : Op (Bridge σ Obj Arr Pin) α := do
  let b ← get
  let entry := LogEntry.new (Host.stamp b.host) "ERROR" bridgeComponent f.message
  let entry := ((entry.withErrorCode f.code).withContext "call_depth" (Json.ofNat b.depth)).withContext
    "hwm" (Json.ofNat b.hwm)
  note .error reportTarget entry.render
  let never ← onHost (Host.fatalError f.message)
  nomatch never

/-- Push a call frame marked with the current high-water mark; answers the new depth. -/
def enterCall (token : Nat) : Op (Bridge σ Obj Arr Pin) Nat := do
  let b ← get
  let (depth, calls) ← Op.ofExcept (b.calls.push b.hwm token)
  set { b with calls }
  note .debug callsTarget s!"callEnter: depth {depth}, hwm {b.hwm}"
  pure depth

/-- The recovery token of the innermost call. -/
def recoveryPoint : Op (Bridge σ Obj Arr Pin) Nat := do
  match (← get).calls.current with
  | some frame => pure frame.token
  | none => Op.fail (.noActiveCall "error recovery")

/-- Finish the entry in slot `index` and tombstone the slot; false when it was a tombstone. -/
def releaseEntry (index : Nat) (mode : ReleaseMode) : Op (Bridge σ Obj Arr Pin) Bool := do
  let b ← get
  match b.table.take index with
  | (some e, table) =>
    set { b with table }
    let x := Host.showObject b.host e.object
    note .trace mirrorTarget
      s!"releaseNativeArray(x={x}, ix={index}, kind={e.kind.name}, mode={mode.title})"
    onHost (Codec.release e mode)
    pure true
  | (none, _) => pure false

/-- Release the slots `index, index + 1, …` below `top` with `copyBack`, logging each failure;
answers the first failure. -/
def releaseFrom (index : Nat) : (count : Nat) → Op (Bridge σ Obj Arr Pin) (Option Fault)
  | 0 => pure none
  | count + 1 => do
    let r ← Op.attempt (releaseEntry index .copyBack)
    let first ← match r with
      | .ok _ => pure none
      | .error f => do
        note .error callsTarget s!"callExit: release of entry {index} failed: {f.message}"
        pure (some f)
    let rest ← releaseFrom (index + 1) count
    pure (first <|> rest)

/-- Pop the innermost frame, finishing every entry made during it. All of them are released
even if one release fails; the first failure is reported once the frame is gone. -/
def exitCall : Op (Bridge σ Obj Arr Pin) Unit := do
  match (← get).calls.current with
  | none => Op.fail (.noActiveCall "exit-call")
  | some frame =>
    let top := (← get).hwm
    let first ← releaseFrom frame.mark (top - frame.mark)
    modify fun b => { b with table := b.table.truncate frame.mark, calls := b.calls.pop.2 }
    note .debug callsTarget
      s!"callExit: depth {(← get).depth}, released {top - frame.mark} slots"
    match first with
    | some f => Op.fail f
    | none => pure ()

/-- Exit `count` frames, carrying on past failures; answers the first failure. -/
def exitFrames : (count : Nat) → Op (Bridge σ Obj Arr Pin) (Option Fault)
  | 0 => pure none
  | count + 1 => do
    let r ← Op.attempt exitCall
    let rest ← exitFrames count
    match r with
    | .error f => pure (some f)
    | .ok () => pure rest

/-- Exit frames until fewer than `depth` remain, so the frame entered at `depth` and every frame
inside it are finished; `depth = 0` exits nothing. Every frame is exited even if one fails; the
first failure is reported. -/
def exitToDepth (depth : Nat) : Op (Bridge σ Obj Arr Pin) Unit := do
  let current := (← get).depth
  let count := if depth = 0 then 0 else current + 1 - depth
  match ← exitFrames count with
  | some f => Op.fail f
  | none => pure ()

/-- Enter a scoped call; answers the scope's depth. -/
def openScope (token : Nat) : Op (Bridge σ Obj Arr Pin) Nat := enterCall token

/-- Warn when a scope ends with frames of its body still open. -/
def warnOpen (scope : Nat) : Op (Bridge σ Obj Arr Pin) Unit := do
  let d := (← get).depth
  if scope < d then
    note .warn callsTarget s!"call scope at depth {scope} dropped with bridge at depth {d}"

/-- A scope dropped without an explicit exit: its frames are exited and a failure is fatal. -/
def dropScope (scope : Nat) : Op (Bridge σ Obj Arr Pin) Unit := do
  warnOpen scope
  match ← Op.attempt (exitToDepth scope) with
  | .ok () => pure ()
  | .error f => fatal f

/-- A scope dropped while unwinding: its frames are exited and failures are only logged. -/
def unwindScope (scope : Nat) : Op (Bridge σ Obj Arr Pin) Unit := do
  warnOpen scope
  match ← Op.attempt (exitToDepth scope) with
  | .ok () => pure ()
  | .error f => note .error callsTarget s!"callExit during unwind failed: {f.message}"

/-- Run a body inside scope `scope`; when the body unwinds, the scope is dropped on the way
out. -/
def guardScope (scope : Nat) (body : Op (Bridge σ Obj Arr Pin) α) :
    Op (Bridge σ Obj Arr Pin) α := fun b =>
  match body b with
  | .ok a b' => .ok a b'
  | .error (.fault f) b' => .error (.fault f) b'
  | .error stop b' =>
    match unwindScope scope b' with
    | .ok () b'' => .error stop b''
    | .error stop' b'' => .error stop' b''

/-- Run a body inside a new call frame. The frame is exited whether the body answers, fails or
unwinds; the body's fault comes first, then a failure to exit. -/
def withCall (token : Nat) (body : Op (Bridge σ Obj Arr Pin) α) :
    Op (Bridge σ Obj Arr Pin) α := do
  let scope ← openScope token
  let result ← guardScope scope (Op.attempt body)
  let exited ← Op.attempt (exitToDepth scope)
  match result, exited with
  | .error f, _ => Op.fail f
  | .ok _, .error f => Op.fail f
  | .ok a, .ok () => pure a

end Bridge

end ArrayBridge
