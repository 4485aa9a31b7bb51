import ArrayBridge.Request.Session.Step
import ArrayBridge.Heap.Bench
import ArrayBridge.Bridge.Lifecycle
import ArrayBridge.Bridge.Refs
import ArrayBridge.Config.Json

/-
  Running a session: a bridge over a test bench, driven step by step. Every step answers a value
  or a fault, together with the runtime calls made since the last answer (`events`) and the
  bridge's state after the step. Steps nested in a call (`with_call`, `scope`) answer on their
  own, and the enclosing step answers the calls made after them. A panic ends the step that
  started it, after the call scopes it leaves have been cleaned up; a fatal error ends the
  session; a refused step refuses the whole session.
-/

namespace ArrayBridge.Request

open ArrayBridge

/-- The bridge over a test bench. -/
abbrev Rig := Bridge Bench Handle Nat Nat

/-- What a step answers: a value, or a fault with fields to add to the answer. -/
inductive Outcome where
  | value (v : Json)
  | failed (f : Fault) (extra : List (String × Json))

/-- The JSON form of a recorded runtime call. -/
def HostCall.toJson : HostCall → Json
  | .backingArray h k => .arr [.str "backing_array", Json.ofNat h, .str k.name]
  | .releaseArray a => .arr [.str "release_array", Json.ofNat a]
  | .arrayLength a => .arr [.str "array_length", Json.ofNat a]
  | .pin a k => .arr [.str "pin", Json.ofNat a, .str k.name]
  | .unpin a k m => .arr [.str "unpin", Json.ofNat a, .str k.name, .str m.name]
  | .readRegion a t n => .arr [.str "read_region", Json.ofNat a, .str t.name, Json.ofNat n]
  | .writeRegion a t n => .arr [.str "write_region", Json.ofNat a, .str t.name, Json.ofNat n]
  | .text h => .arr [.str "text", Json.ofNat h]
  | .markConversion h b => .arr [.str "mark_conversion", Json.ofNat h, .bool b]
  | .newGlobalRef h => .arr [.str "new_global_ref", Json.ofNat h]
  | .deleteGlobalRef h => .arr [.str "delete_global_ref", Json.ofNat h]
  | .injected op => .arr [.str op, .str "injected failure"]

/-- The JSON form of a run of cells. -/
def cellsJson : Cells → Json
  | .int xs => .arr (xs.map (fun x => Json.ofInt x.toInt))
  | .real xs => .arr (xs.map realJson)
  | .raw xs => .arr (xs.map (fun x => Json.ofNat x.toNat))

/-- The name of a storage type in answers. -/
def storageName : Cells → String
  | .int _ => "ints"
  | .real _ => "reals"
  | .raw _ => "raw"

/-- The bridge's state as answers show it. -/
def stateJson (r : Rig) : Json :=
  let slots := String.ofList ((List.range r.hwm).filterMap (fun i =>
    match r.table.slotState i with
    | .live => some 'L'
    | .tombstoned => some 'T'
    | .absent => none))
  .obj [("cap", Json.ofNat r.table.capacity), ("depth", Json.ofNat r.depth),
    ("hwm", Json.ofNat r.hwm), ("live", Json.ofNat r.table.liveCount),
    ("refs", .obj [("cap", Json.ofNat r.refs.capacity), ("hwm", Json.ofNat r.refs.hwm),
      ("live", Json.ofNat r.refs.liveCount)]),
    ("slots", .str slots)]

namespace Rig

/-- Change the bench. -/
def onBench (f : Bench → Bench) : Op Rig Unit := modify fun r => { r with host := f r.host }

/-- Refuse the session. -/
def refuse {α : Type} (reason : String) : Op Rig α := throw (.misuse reason)

/-- The reference numbered `n`. -/
def handle (n : Nat) : Op Rig Handle := do
  match (← get).host.heap.handle? n with
  | some h => pure h
  | none => refuse s!"unknown handle {n}"

/-- Take the calls made since the last answer. -/
def drain : Op Rig (List Json) := do
  let calls := (← get).host.calls
  onBench fun b => { b with calls := #[] }
  pure (calls.toList.map HostCall.toJson)

/-- The answer of a finished step. -/
def settle (o : Outcome) : Op Rig Json := do
  let events ← drain
  let state := stateJson (← get)
  match o with
  | .value v => pure (.obj [("events", .arr events), ("ok", v), ("state", state)])
  | .failed f extra =>
    pure (Json.ofFields (faultFields f ++ extra ++ [("events", .arr events), ("state", state)]))

/-- Keep an answer of a nested step. -/
def note (a : Json) : Op Rig Unit := onBench fun b => { b with transcript := b.transcript.push a }

/-- Take the answers of nested steps kept since `mark`. -/
def takeNotes (mark : Nat) : Op Rig (List Json) := do
  let t := (← get).host.transcript
  onBench fun b => { b with transcript := b.transcript.extract 0 mark }
  pure (t.extract mark t.size).toList

/-- Run a bridge operation, answering its fault as a failed outcome. -/
def outcome (m : Op Rig Json) : Op Rig Outcome := do
  match ← Op.attempt m with
  | .ok v => pure (.value v)
  | .error f => pure (.failed f [])

/-- The number of elements of the pinned buffer whose pin is `pin`. -/
def pinnedLen (r : Rig) (pin : Nat) : Nat :=
  let found := r.table.slots.toList.findSome? fun s =>
    match s with
    | some ⟨_, _, _, .pinned p n⟩ => if p == pin then some n else none
    | _ => none
  found.getD ((r.host.heap.cells? pin).map Cells.length |>.getD 0)

/-- What native code reads through an address, as the cells of a kind. -/
def read (r : Rig) (address : Address Nat) (kind : ElemKind) : Cells :=
  let t := kind.nativeCells
  match address with
  | .lent pin => Host.loadPinned r.host pin t (pinnedLen r pin)
  | .owned slot =>
    match r.table.get? slot with
    | some e =>
      match e.buffer with
      | .logical cells => .int cells
      | .text bytes => .raw bytes
      | .pinned pin n => Host.loadPinned r.host pin t n
    | none => Cells.zeros t 0
  | .dangling => Cells.zeros t 0

/-- Read part of a step that could only be read once the step had started. -/
def decoded {α : Type} : Decode α → Op Rig α
  | .ok v => pure v
  | .error reason => refuse reason

/-- Native code stores values through an address from `index` on; answers how many were
stored. -/
def store (address : Address Nat) (kind : ElemKind) (index : Nat) (values : List Json) :
    Op Rig Nat := do
  let r ← get
  match address with
  | .lent pin =>
    let (c, n) ← decoded (fillCells (read r address kind) index values)
    onBench (Host.storePinned pin c)
    pure n
  | .owned slot =>
    match r.table.get? slot with
    | some ⟨_, _, _, .logical cells⟩ =>
      let (c, n) ← decoded (fillCells (.int cells) index values)
      let cells := match c with
        | .int ys => ys
        | _ => cells
      modify fun r => { r with table := r.table.update slot (fun e => { e with buffer := .logical cells }) }
      pure n
    | _ => refuse "text mirrors are read-only"
  | .dangling => pure 0

/-- The JSON form of a held buffer. -/
def heldJson (r : Rig) (hd : Held) : Json :=
  let b := hd.buffer
  let (form, data) := match b with
    | .pinned pin n => ("pinned", cellsJson (Host.loadPinned r.host pin hd.kind.nativeCells n))
    | .logical cells => ("logical", cellsJson (.int cells))
    | .text bytes => ("text", cellsJson (.raw bytes))
  .obj [("data", data), ("form", .str form), ("is_bridge_owned", .bool b.isBridgeOwned),
    ("is_empty", .bool b.isEmpty), ("len", Json.ofNat b.len)]

/-- Take the buffer out of slot `slot`, leaving the slot empty until it is put back. -/
def takeHeld (slot : Nat) : Op Rig Held := do
  match (← get).host.held[slot]? with
  | some (some hd) =>
    onBench fun b => { b with held := b.held.setIfInBounds slot none }
    pure hd
  | _ => refuse s!"no codec buffer in slot {slot}"

/-- Put a buffer back into slot `slot`. -/
def putHeld (slot : Nat) (hd : Held) : Op Rig Unit :=
  onBench fun b => { b with held := b.held.setIfInBounds slot (some hd) }

/-- The kind a held buffer is used as; a pinned buffer cannot be read as another pass-through
kind. -/
def heldKind (hd : Held) : Option KindArg → Op Rig ElemKind
  | none => pure hd.kind
  | some arg => do
    let k ← Op.ofExcept arg
    match hd.buffer with
    | .pinned .. =>
      if k.isPassThrough && k != hd.kind then refuse "pinned buffer viewed as another pinned kind"
      else pure k
    | _ => pure k

/-- The JSON form of an acquired address. -/
def acquired (r : Rig) (address : Address Nat) (kind : ElemKind) (cached : Bool) :
    List (String × Json) :=
  [("cached", .bool cached), ("data", cellsJson (read r address kind))]

/-- Run the body of a scope step at depth `scope`. When the body unwinds the scope is dropped on
the way out; when it refuses the session the scope is dropped as on a normal exit, so a failure
to exit it is fatal and wins over the refusal. -/
def scopeBody (scope : Nat) (body : Op Rig Unit) : Op Rig Unit := fun r =>
  match body r with
  | .ok () r' => .ok () r'
  | .error (.fault f) r' => .error (.fault f) r'
  | .error (.misuse reason) r' =>
    match Bridge.dropScope scope r' with
    | .ok () r'' => .error (.misuse reason) r''
    | .error stop r'' => .error stop r''
  | .error stop r' =>
    match Bridge.unwindScope scope r' with
    | .ok () r'' => .error stop r''
    | .error stop' r'' => .error stop' r''

mutual

/-- Run one step. -/
def perform : Step → Op Rig Outcome
  | .newArray cells => do
    let (h, heap) := (← get).host.heap.addArray cells
    onBench fun b => { b with heap }
    pure (.value (Json.ofNat h.ref))
  | .newText bytes => do
    let (h, heap) := (← get).host.heap.addText bytes
    onBench fun b => { b with heap }
    pure (.value (Json.ofNat h.ref))
  | .aliasRef n => do
    let h ← handle n
    let (g, heap) := (← get).host.heap.newRef h.object
    onBench fun b => { b with heap }
    pure (.value (Json.ofNat g.ref))
  | .reallocate n => do
    let h ← handle n
    let heap := (← get).host.heap
    match (heap.arrayOf? h.object).bind heap.cells? with
    | some c =>
      let (id, heap) := heap.attach h.object c
      onBench fun b => { b with heap }
      pure (.value (Json.ofNat id))
    | none => refuse "text object has no array"
  | .replace n fill => do
    let h ← handle n
    let heap := (← get).host.heap
    match fill with
    | .cells c =>
      let (id, heap) := heap.attach h.object c
      onBench fun b => { b with heap }
      pure (.value (Json.ofNat id))
    | .text bytes =>
      onBench fun b => { b with heap := heap.setContents h.object (.text bytes) }
      pure (.value .null)
  | .set n values => do
    let h ← handle n
    let heap := (← get).host.heap
    match heap.arrayOf? h.object with
    | some a =>
      match heap.cells? a with
      | some c =>
        match cellsOf c.cellType (.arr values) with
        | .ok vs =>
          if vs.length == c.length then
            onBench fun b => { b with heap := heap.setCells a vs }
            pure (.value .null)
          else refuse "set needs as many values as the array holds"
        | .error reason => refuse reason
      | none => refuse "text object has no array"
    | none => refuse "text object has no array"
  | .get n => do
    let h ← handle n
    let heap := (← get).host.heap
    match heap.contents? h.object with
    | some (.array a) =>
      let c := (heap.cells? a).getD (.raw [])
      pure (.value (.obj [("array", Json.ofNat a), ("type", .str (storageName c)),
        ("values", cellsJson c)]))
    | some (.text bytes) =>
      pure (.value (.obj [("bytes", cellsJson (.raw bytes)), ("type", .str "text")]))
    | none => refuse s!"unknown object {h.object}"
  | .invalidateRef n => do
    let h ← handle n
    onBench fun b => { b with heap := b.heap.invalidate h.object }
    pure (.value .null)
  | .hostFail operations => do
    onBench fun b => { b with failing := operations }
    pure (.value .null)
  | .enter token => outcome do
    pure (Json.ofNat (← Bridge.enterCall token))
  | .exit => outcome do
    Bridge.exitCall
    pure .null
  | .exitTo depth => outcome do
    Bridge.exitToDepth depth
    pure .null
  | .recovery => outcome do
    pure (Json.ofNat (← Bridge.recoveryPoint))
  | .acquire n kind => do
    let h ← handle n
    outcome do
      let k ← Op.ofExcept kind
      let before := (← get).hwm
      let address ← Bridge.acquire h k
      let r ← get
      pure (.obj (acquired r address k (r.hwm == before)))
  | .write n kind index values => do
    let h ← handle n
    outcome do
      let k ← Op.ofExcept kind
      if k == .char then refuse "text mirrors are read-only"
      let before := (← get).hwm
      let address ← Bridge.acquire h k
      let cached := (← get).hwm == before
      let index ← decoded (indexOf index)
      let written ← store address k index (← decoded (valuesOf values))
      let r ← get
      pure (Json.ofFields (("written", Json.ofNat written) :: acquired r address k cached))
  | .invalidate n => do
    let h ← handle n
    outcome do pure (Json.ofNat (← Bridge.invalidate h))
  | .release index mode => outcome do
    pure (.bool (← Bridge.releaseEntry index mode))
  | .refresh n => do
    let h ← handle n
    outcome do pure (.bool (← Bridge.refresh h))
  | .refreshAll => outcome do
    Bridge.refreshAll
    pure .null
  | .push n => do
    let h ← handle n
    outcome do pure (.bool (← Bridge.pushToManaged h))
  | .pushAll => outcome do
    Bridge.pushBackAll
    pure .null
  | .refCreate n permanent => do
    let h ← handle n
    outcome do pure (Json.ofNat (← Bridge.createRef h permanent).ref)
  | .refFind n => do
    let h ← handle n
    outcome do pure (Json.ofOption (fun g : Handle => Json.ofNat g.ref) (← Bridge.findRef h))
  | .refCheck n => do
    let h ← handle n
    outcome do pure (Json.ofNat (← Bridge.checkRef h).ref)
  | .refRelease n => do
    let h ← handle n
    outcome do pure (Json.ofNat (← Bridge.releaseRef h))
  | .fail message => pure (.failed (.host "native" message) [])
  | .panic message => throw (.panic message)
  | .withCall token ops => do
    let mark := (← get).host.transcript.size
    let r ← Op.attempt (Bridge.withCall token (runUntilFault ops))
    let inner ← takeNotes mark
    match r with
    | .ok () => pure (.value (.obj [("inner", .arr inner)]))
    | .error f => pure (.failed f [("inner", .arr inner)])
  | .scope token ops exit => do
    match ← Op.attempt (Bridge.openScope token) with
    | .error f => pure (.failed f [])
    | .ok depth =>
      let mark := (← get).host.transcript.size
      scopeBody depth (runEvery ops)
      let inner ← takeNotes mark
      let extra := [("inner", Json.arr inner), ("scope_depth", Json.ofNat depth)]
      if exit then
        match ← Op.attempt (Bridge.exitToDepth depth) with
        | .ok () => pure (.value (.obj extra))
        | .error f => pure (.failed f extra)
      else
        Bridge.dropScope depth
        pure (.value (.obj extra))
  | .config => do
    pure (.value (← get).config.toJson)
  | .codecExtract n kind => do
    let h ← handle n
    outcome do
      let k ← Op.ofExcept kind
      let (array, buffer) ← Bridge.onHost (Codec.extract h k)
      let slot := (← get).host.held.size
      let hd : Held := ⟨k, h, array, buffer⟩
      onBench fun b => { b with held := b.held.push (some hd) }
      let r ← get
      pure (.obj [("array", Json.ofOption Json.ofNat array), ("buffer", heldJson r hd),
        ("slot", Json.ofNat slot)])
  | .codecPush slot kind noArray => do
    let hd ← takeHeld slot
    outcome do
      let k ← heldKind hd kind
      let array := if noArray then none else hd.array
      let pushed ← Op.attempt (Bridge.onHost (Codec.pushBack k hd.object array hd.buffer))
      putHeld slot hd
      Op.ofExcept pushed
      pure (.obj [("buffer", heldJson (← get) hd)])
  | .codecRefresh slot kind array noArray => do
    let hd ← takeHeld slot
    outcome do
      let k ← heldKind hd kind
      let a := array.getD ((if noArray then none else hd.array).getD 0)
      let usesArray := match hd.buffer with
        | .text _ => false
        | _ => true
      if usesArray && ((← get).host.heap.cells? a).isNone then refuse "unknown array"
      match ← Op.attempt (Bridge.onHost (Codec.refresh k a hd.buffer)) with
      | .ok buffer =>
        let hd := { hd with buffer }
        putHeld slot hd
        pure (.obj [("buffer", heldJson (← get) hd)])
      | .error f =>
        putHeld slot hd
        Op.fail f
  | .codecRelease slot mode kind noArray => do
    let hd ← takeHeld slot
    outcome do
      let k ← Op.ofExcept (kind.getD (.ok hd.kind))
      let array := if noArray then none else hd.array
      Bridge.onHost (Codec.release ⟨k, hd.object, array, hd.buffer⟩ mode)
      pure .null
  | .refused reason => refuse reason

/-- Run nested steps, keeping each answer, until one fails; its fault fails the run. -/
def runUntilFault : List Step → Op Rig Unit
  | [] => pure ()
  | s :: rest => do
    let o ← perform s
    note (← settle o)
    match o with
    | .failed f _ => Op.fail f
    | .value _ => runUntilFault rest

/-- Run every nested step, keeping each answer. -/
def runEvery : List Step → Op Rig Unit
  | [] => pure ()
  | s :: rest => do
    let o ← perform s
    note (← settle o)
    runEvery rest

end

end Rig

/-- The answer of a step that unwound with a panic or a fatal error. -/
def stopAnswer (label message : String) (r : Rig) : Json × Rig :=
  match Rig.drain r with
  | .ok events r' =>
    (.obj [("error", .str label), ("events", .arr events), ("message", .str message),
      ("state", stateJson r')], r')
  | .error _ r' => (.obj [("error", .str label), ("message", .str message)], r')

/-- Run the steps of a session in order; a refused step refuses the whole session. -/
def runSteps (r : Rig) : List Step → Except String (List Json)
  | [] => .ok []
  | s :: rest =>
    let clear (r : Rig) : Rig := { r with host := { r.host with transcript := #[] } }
    match (do Rig.settle (← Rig.perform s) : Op Rig Json) r with
    | .ok a r' => (a :: ·) <$> runSteps (clear r') rest
    | .error (.fault f) r' =>
      let (a, r'') := match Rig.settle (.failed f []) r' with
        | .ok a r'' => (a, r'')
        | .error _ r'' => (faultAnswer f, r'')
      (a :: ·) <$> runSteps (clear r'') rest
    | .error (.panic message) r' =>
      let (a, r'') := stopAnswer "Panic" message r'
      (a :: ·) <$> runSteps (clear r'') rest
    | .error (.fatal message) r' => .ok [(stopAnswer "Fatal" message r').1]
    | .error (.misuse reason) _ => .error reason
    | .error .abort _ => .ok []

/-- The largest depth or capacity a session may be configured with. -/
def sessionLimit : Nat := 1048576

/-- Answer a session request. -/
def sessionRequest (j : Json) : Decode Json := do
  let config ← match j.field? "config" with
    | none => pure (Except.ok Config.default)
    | some c => pure (Config.ofJsonText c.render)
  match config with
  | .error f => pure (faultAnswer f)
  | .ok config =>
    if sessionLimit < config.maxCallDepth || sessionLimit < config.tableCapacity ||
        sessionLimit < config.refCapacity then
      throw "session limits exceeded"
    let checks ← match j.field? "host" with
      | none | some (.str "full") => pure true
      | some (.str "minimal") => pure false
      | some _ => throw "host must be 'full' or 'minimal'"
    let steps ← field j "steps" >>= asList "steps"
    match (Bridge.new (Bench.new checks) config : Except Fault Rig) with
    | .error f => pure (faultAnswer f)
    | .ok r =>
      match runSteps r (steps.map Step.ofJson) with
      | .ok answers => pure (.obj [("steps", .arr answers)])
      | .error reason => throw reason

end ArrayBridge.Request
