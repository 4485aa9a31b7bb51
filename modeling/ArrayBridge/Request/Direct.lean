import ArrayBridge.Request.Basic
import ArrayBridge.Mirror.Table
import ArrayBridge.Mirror.CallStack

/-
  The table of lent buffers and the call stack, driven directly. A table request works on a table
  whose objects are 32-bit numbers compared by equality, each entry a logical scratch buffer of
  zeros whose array is its object plus 100 (wrapping). A stack request works on a bare call
  stack. Every operation answers its result with the structure's counters after it. The length
  of a new entry's buffer is read leniently: anything but an unsigned integer counts as 0.
-/

namespace ArrayBridge.Request

open ArrayBridge

/-- An entry of a directly driven table. -/
abbrev NumberedEntry := Entry UInt32 UInt32 Empty

/-- A number given leniently: an unsigned 64-bit integer, anything else counting as 0. -/
def wordOr0 : Option Json → Nat
  | some (.num (.nat n)) => n.toNat
  | _ => 0

/-- A table object: an unsigned number that fits in 32 bits. -/
def asObject (j : Json) : Decode UInt32 := do
  let n ← asWord "object" j
  if n < Nat.pow 2 32 then pure n.toUInt32 else throw "object must fit in 32 bits"

/-- The longest scratch buffer a directly driven table makes. -/
def maxScratchLen : Nat := 4096

/-- The size of one slot of a directly driven table, in bytes. -/
def slotBytes : Nat := 40

/-- The largest size in bytes of one allocation. -/
def maxAllocation : Nat := Nat.pow 2 63 - 1

/-- The deepest call stack a stack request may ask for. -/
def maxDriverDepth : Nat := 1048576

/-- Run one table operation; answers its result and the table after it. -/
def tableOp (t : Table NumberedEntry) (op : Json) : Decode (Json × Table NumberedEntry) := do
  let name ← field op "op" >>= asString "op"
  let object : Decode UInt32 := field op "object" >>= asObject
  let index : Decode Nat := field op "index" >>= asWord "index"
  match name with
  | "push" =>
    let o ← object
    let len := wordOr0 (op.field? "len")
    if maxScratchLen < len then throw "len too large"
    let (i, t) := t.push ⟨.logical, o, some (o + 100), .logical (List.replicate len 0)⟩
    pure (Json.ofNat i, t)
  | "reserve" => pure (.null, t.reserve)
  | "find" =>
    let o ← object
    let (found, t) := t.find (fun e => e.object == o)
    pure (Json.ofOption Json.ofNat found, t)
  | "matching" =>
    let o ← object
    pure (Json.ofNats (t.matching (fun e => e.object == o)), t)
  | "take" =>
    let (e, t) := t.take (← index)
    let r := Json.ofOption (fun (e : NumberedEntry) => .obj [
      ("array", Json.ofOption (fun a : UInt32 => Json.ofNat a.toNat) e.array), ("len", Json.ofNat e.buffer.len),
      ("object", Json.ofNat e.object.toNat)]) e
    pure (r, t)
  | "get" =>
    let r := Json.ofOption (fun (e : NumberedEntry) => .obj [
      ("array", Json.ofOption (fun a : UInt32 => Json.ofNat a.toNat) e.array), ("kind", .str e.kind.name),
      ("object", Json.ofNat e.object.toNat)]) (t.get? (← index))
    pure (r, t)
  | "get_mut" =>
    let i ← index
    match t.get? i with
    | some e =>
      let o ← object
      let t := t.update i (fun e => { e with object := o })
      pure (.obj [("array", Json.ofOption (fun a : UInt32 => Json.ofNat a.toNat) e.array),
        ("object", Json.ofNat o.toNat)], t)
    | none => pure (.null, t)
  | "truncate" =>
    let n ← field op "hwm" >>= asWord "hwm"
    if t.deadFrom n then pure (.null, t.truncate n)
    else throw "truncate would drop live entries"
  | "slot_state" => pure (.str (t.slotState (← index)).name, t)
  | other => throw s!"unknown table op '{other}'"

/-- Run table operations in order, answering each with the table's counters. -/
def tableOps (t : Table NumberedEntry) : List Json → Decode (List Json)
  | [] => pure []
  | op :: rest => do
    let (r, t) ← tableOp t op
    let a := Json.obj [("cap", Json.ofNat t.capacity), ("hwm", Json.ofNat t.hwm),
      ("live", Json.ofNat t.liveCount), ("result", r)]
    return a :: (← tableOps t rest)

/-- Answer a table request. -/
def tableRequest (j : Json) : Decode Json := do
  let capacity ← field j "capacity" >>= asWord "capacity"
  let ops ← field j "ops" >>= asList "ops"
  if maxAllocation < capacity * slotBytes then
    pure (.obj [("error", .str "Panic"), ("message", .str "capacity overflow")])
  else pure (okAnswer (.arr (← tableOps (Table.withCapacity capacity) ops)))

/-- The JSON form of a frame. -/
def frameJson (f : Frame) : Json := .obj [("hwm", Json.ofNat f.mark), ("token", Json.ofNat f.token)]

/-- Run one stack operation; answers its result and the stack after it. -/
def stackOp (s : CallStack) (op : Json) : Decode (Json × CallStack) := do
  let name ← field op "op" >>= asString "op"
  match name with
  | "push" =>
    let mark ← field op "hwm" >>= asWord "hwm"
    let token ← field op "token" >>= asWord "token"
    if let some top := s.current then
      if mark < top.mark then throw "frame marks must not decrease"
    match s.push mark token with
    | .ok (depth, s) => pure (Json.ofNat depth, s)
    | .error f => pure (faultAnswer f, s)
  | "pop" =>
    let (f, s) := s.pop
    pure (Json.ofOption frameJson f, s)
  | "current" => pure (Json.ofOption frameJson s.current, s)
  | "frames" => pure (.arr (s.bottomUp.map frameJson), s)
  | "pointer" =>
    let token ← field op "token" >>= asWord "token"
    pure (.obj [("ptr", Json.ofNat token), ("token", Json.ofNat token)], s)
  | other => throw s!"unknown stack op '{other}'"

/-- Run stack operations in order, answering each with the stack's depth. -/
def stackOps (s : CallStack) : List Json → Decode (List Json)
  | [] => pure []
  | op :: rest => do
    let (r, s) ← stackOp s op
    let a := Json.obj [("depth", Json.ofNat s.depth), ("max_depth", Json.ofNat s.maxDepth),
      ("result", r)]
    return a :: (← stackOps s rest)

/-- Answer a stack request. -/
def stackRequest (j : Json) : Decode Json := do
  let maxDepth ← field j "max_depth" >>= asWord "max_depth"
  if maxDriverDepth < maxDepth then throw "max_depth too large for the driver"
  let ops ← field j "ops" >>= asList "ops"
  pure (okAnswer (.arr (← stackOps (CallStack.new maxDepth) ops)))

end ArrayBridge.Request
