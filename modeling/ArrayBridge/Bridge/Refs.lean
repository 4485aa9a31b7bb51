import ArrayBridge.Bridge.Basic

/-
  The cache of long-lived references. A reference is looked up by the identity of the object it
  names; creating one for an object that already has one answers the cached reference. Slots are
  appended and never reused; releasing an object clears its transient slots in order and deletes
  their references, and never touches a permanent one.
-/

namespace ArrayBridge

namespace Bridge

variable {σ Obj Arr Pin : Type} [Host σ Obj Arr Pin]

/-- The cached reference for `o`, if any. -/
def findRef (o : Obj) : Op (Bridge σ Obj Arr Pin) (Option Obj) := do
  let b ← get
  match b.refs.firstMatch (fun r => Host.sameObject b.host r.ref o) with
  | some index =>
    match b.refs.get? index with
    | some r =>
      note .trace refsTarget s!"gref: cache hit: {index}"
      pure (some r.ref)
    | none => pure none
  | none => pure none

/-- The cached reference for `o`, or `o` itself. -/
def checkRef (o : Obj) : Op (Bridge σ Obj Arr Pin) Obj := do
  pure ((← findRef o).getD o)

/-- Cache a new long-lived reference for `o`. -/
def addRef (o : Obj) (permanent : Bool) : Op (Bridge σ Obj Arr Pin) Obj := do
  let b ← get
  if b.refs.hwm = b.refs.capacity then
    let refs := b.refs.reserve
    set { b with refs }
    note .trace refsTarget s!"gref: extending table to {refs.capacity}"
  let g ← onHost (Host.newGlobalRef o)
  let b ← get
  let (index, refs) := b.refs.push ⟨permanent, g⟩
  set { b with refs }
  note .trace refsTarget s!"gref: add: index {index}, ref {Host.showObject b.host g}, permanent {permanent}"
  pure g

/-- The long-lived reference for `o`, made on first request. -/
def createRef (o : Obj) (permanent : Bool) : Op (Bridge σ Obj Arr Pin) Obj := do
  validate o "create-global-ref"
  match ← findRef o with
  | some g => pure g
  | none => addRef o permanent

/-- Release the transient references of `o` among the slots `index, index + 1, …`, `count` of
them; a slot is cleared before its reference is deleted, and a failed deletion stops. -/
def releaseRefsFrom (o : Obj) (index : Nat) : (count : Nat) → Op (Bridge σ Obj Arr Pin) Nat
  | 0 => pure 0
  | count + 1 => do
    let b ← get
    let here ← match b.refs.get? index with
      | some r =>
        if !r.permanent && Host.sameObject b.host r.ref o then do
          note .trace refsTarget s!"gref: release: index {index}, gref: {Host.showObject b.host r.ref}"
          modify fun b => { b with refs := (b.refs.take index).2 }
          onHost (Host.deleteGlobalRef r.ref)
          pure 1
        else pure 0
      | none => pure 0
    let rest ← releaseRefsFrom o (index + 1) count
    pure (here + rest)

/-- Release every transient reference of `o`; answers how many were released. -/
def releaseRef (o : Obj) : Op (Bridge σ Obj Arr Pin) Nat := do
  releaseRefsFrom o 0 (← get).refs.hwm

end Bridge

end ArrayBridge
