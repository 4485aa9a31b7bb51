import ArrayBridge.Request.Jvm.Step
import ArrayBridge.Request.Jvm.Logs
import ArrayBridge.Request.Session.Run
import ArrayBridge.Jvm.Process

/-
  Running a session against the virtual machine: a fresh process, its environment and the
  machine's setup come from the request, then the steps run in order. Each step answers its
  value with the calls reported and the log lines written since the last answer: the output
  stream's, then the error stream's, then the extra descriptor's. When the library ends the
  process through the machine the last answer is the fatal message; when the process aborts it
  is the error stream's non-JSON lines. A refused step refuses the whole session.

  Native code reads a lent buffer through its address as the requested kind: as many elements
  as the pin or the logical copy holds, or the text up to its terminator.
-/

namespace ArrayBridge.Request

open ArrayBridge ArrayBridge.Jvm

namespace Vm

variable {α : Type}

/-- Refuse the session. -/
def refuse (reason : String) : Op Process α := throw (.misuse reason)

/-- Run a machine operation. -/
def onVm (m : Op Machine α) : Op Process α := Process.onWorld (World.onVm m)

/-- The object a numbered reference leads to. -/
def objectOf (n : Nat) : Op Process (Nat × JObject) := do
  let vm := (← get).world.vm
  match vm.objectOf? (.handle n) with
  | some o =>
    match vm.objects[o]? with
    | some obj => pure (o, obj)
    | none => refuse s!"unknown handle {n}"
  | none => refuse s!"unknown handle {n}"

/-- The vector a numbered reference leads to. -/
def vectorOf (n : Nat) : Op Process (Nat × VectorType × Option Nat) := do
  match ← objectOf n with
  | (o, .vector t array) => pure (o, t, array)
  | _ => refuse s!"reference {n} is not a vector"

/-- Values for an array of a vector type. -/
def valuesFor (t : VectorType) (values : List Json) : Op Process Cells :=
  match cellsOf t.storage (.arr values) with
  | .ok c => pure c
  | .error reason => refuse reason

/-- The cells native code reads through an address as a kind. -/
def view (p : Process) (address : Address Nat) (kind : ElemKind) : Cells :=
  let t := kind.nativeCells
  match address with
  | .lent pin =>
    match p.world.vm.pins[pin]? with
    | some entry =>
      if kind = .char then .raw entry.cells.bytes
      else if entry.cells.cellType = t then entry.cells
      else Cells.zeros t entry.cells.length
    | none => Cells.zeros t 0
  | .owned slot =>
    match p.installed.bind (·.table.get? slot) with
    | some e =>
      match e.buffer with
      | .logical cells => .int cells
      | .text bytes => .raw bytes
      | .pinned _ n => Cells.zeros t n
    | none => Cells.zeros t 0
  | .dangling => Cells.zeros t 0

/-- The answer fields of an acquired address. -/
def acquired (p : Process) (address : Address Nat) (kind : ElemKind) : List (String × Json) :=
  let pin := match address with
    | .lent p => Json.ofNat p
    | _ => .null
  [("data", cellsJson (view p address kind)), ("pin", pin)]

/-- Read part of a step that could only be read once the step had started. -/
def decoded {β : Type} : Decode β → Op Process β
  | .ok v => pure v
  | .error reason => refuse reason

/-- Native code stores values through an address from `index` on; answers how many fitted. -/
def store (address : Address Nat) (index : Nat) (values : List Json) :
    Op Process Nat := do
  let p ← get
  match address with
  | .lent pin =>
    match p.world.vm.pins[pin]? with
    | some entry =>
      let (c, n) ← decoded (fillCells entry.cells index values)
      onVm (modify fun m => { m with pins := m.pins.modify pin (fun e => { e with cells := c }) })
      pure n
    | none => pure 0
  | .owned slot =>
    match p.installed with
    | some i =>
      match i.table.get? slot with
      | some ⟨_, _, _, .logical cells⟩ =>
        let (c, n) ← decoded (fillCells (.int cells) index values)
        let cells := match c with
          | .int ys => ys
          | _ => cells
        let table := i.table.update slot (fun e => { e with buffer := .logical cells })
        set { p with installed := some { i with table } }
        pure n
      | _ => refuse "text mirrors are read-only"
    | none => pure 0
  | .dangling => pure 0

/-- Run one step; answers its value. -/
def perform : VmStep → Op Process Json
  | .newVector t values => onVm do
    let array ← match values with
      | some c => some <$> Machine.addObject (.array c)
      | none => pure none
    let v ← Machine.addObject (.vector t array)
    let r ← Machine.newRef v false
    pure ((← get).shown r).toJson
  | .newText bytes => onVm do
    let s ← match bytes with
      | some b => some <$> Machine.addObject (.string b)
      | none => pure none
    let w ← Machine.addObject (.wrapper s)
    let r ← Machine.newRef w false
    pure ((← get).shown r).toJson
  | .newObject => onVm do
    let o ← Machine.addObject .upcalls
    let r ← Machine.newRef o false
    pure ((← get).shown r).toJson
  | .aliasRef n => do
    let (o, _) ← objectOf n
    onVm do
      let r ← Machine.newRef o false
      pure ((← get).shown r).toJson
  | .deleteRef n => do
    onVm (Machine.deleteRef (.handle n))
    pure .null
  | .reallocate n => do
    match ← objectOf n with
    | (v, .vector t (some a)) =>
      match (← get).world.vm.objects[a]? with
      | some (.array c) => onVm do
        let copy ← Machine.addObject (.array c)
        Machine.setObject v (.vector t (some copy))
        pure (Json.ofNat copy)
      | _ => pure .null
    | (_, .vector _ none) => pure .null
    | _ => refuse "not a vector"
  | .replace n values => do
    let (v, t, _) ← vectorOf n
    let c ← valuesFor t values
    onVm do
      let a ← Machine.addObject (.array c)
      Machine.setObject v (.vector t (some a))
      pure (Json.ofNat a)
  | .set n values => do
    match ← vectorOf n with
    | (_, t, some a) =>
      let c ← valuesFor t values
      match (← get).world.vm.objects[a]? with
      | some (.array old) =>
        if old.length = c.length then
          onVm (Machine.setObject a (.array c))
          pure .null
        else refuse "set needs as many values as the array holds"
      | _ => refuse s!"reference {n} has no array"
    | _ => refuse s!"reference {n} has no array"
  | .get n => do
    let vm := (← get).world.vm
    match ← objectOf n with
    | (_, .vector _ (some a)) =>
      match vm.objects[a]? with
      | some (.array c) => pure (.obj [("array", Json.ofNat a), ("values", cellsJson c)])
      | _ => pure (.obj [("array", Json.ofNat a)])
    | (_, .vector _ none) => pure (.obj [("array", .null)])
    | (_, .wrapper (some s)) =>
      match vm.objects[s]? with
      | some (.string b) => pure (.obj [("bytes", cellsJson (.raw b))])
      | _ => pure .null
    | _ => pure .null
  | .fail operations => do
    onVm (modify fun m => { m with failing := operations })
    pure .null
  | .throw cls => do
    onVm (Machine.raise cls)
    pure .null
  | .onload => pure (Json.ofNat interfaceVersion)
  | .embedded => do
    Process.setEmbedded
    pure .null
  | .init x => do
    Process.initBridge x
    pure .null
  | .enter env token => do
    Process.callEnter env token
    pure .null
  | .exit env => do
    Process.callExit env
    pure .null
  | .recovery => do pure (Json.ofNat (← Process.recoveryPoint))
  | .acquire env x code => do
    let address ← Process.nativeArray env x code
    let kind := (ElemKind.ofCode? code).getD .integer
    pure (.obj (acquired (← get) address kind))
  | .write env x code index values => do
    let kind := (ElemKind.ofCode? code).getD .integer
    let address ← Process.nativeArray env x code
    let index ← decoded (indexOf index)
    if kind = .char then refuse "text mirrors are read-only"
    let written ← store address index (← decoded (valuesOf values))
    pure (Json.ofFields (("written", Json.ofNat written) :: acquired (← get) address kind))
  | .invalidate env x => do
    Process.invalidate env x
    pure .null
  | .updateArrays env => do
    Process.updateArrays env
    pure .null
  | .updateObjects env => do
    Process.updateObjects env
    pure .null
  | .updateObject env x => do
    Process.updateObject env x
    pure .null
  | .refCreate env x permanent => do
    let r ← Process.createGlobalRef env x permanent
    pure ((← get).world.vm.shown r).toJson
  | .refRelease env x => do
    Process.releaseGlobalRef env x
    pure .null
  | .refCheck env x => do
    let r ← Process.checkRef env x
    pure ((← get).world.vm.shown r).toJson
  | .typeSize code => do pure (Json.ofNat (← Process.typeSize code))
  | .refused reason => refuse reason

/-- Take the calls reported and the lines written since the last answer. -/
def drain (p : Process) : List Json × List String × List String × Process :=
  let c := p.world.console
  let events := p.world.vm.events.toList.map Event.toJson
  let written := c.stdout.toList ++ c.stderr.toList ++ c.extra.toList
  let console := { c with stdout := #[], stderr := #[], extra := #[] }
  (events, written, c.stderr.toList,
    { p with world := { vm := { p.world.vm with events := #[] }, console } })

/-- The answer of a step that ran. -/
def settle (fields : List (String × Json)) (p : Process) : Json × Process :=
  let (events, written, _, p') := drain p
  (Json.ofFields (fields ++ [("events", .arr events), ("logs", .arr (written.filterMap reportLine))]), p')

/-- The lines of what was written to a stream as `writes`: split at line feeds, without a
carriage return before one, and without an empty line after a final line feed. -/
def streamLines (writes : List String) : List String :=
  let text := String.join (writes.map (· ++ "\n"))
  let pieces := (text.splitOn "\n").dropLast
  pieces.map fun l => if l.endsWith "\r" then l.dropEnd 1 |>.toString else l

/-- The answer of a step that aborted the process. -/
def aborted (p : Process) : Json :=
  let (_, _, errors, _) := drain p
  .obj [("error", .str "Abort"), ("stderr", .arr ((streamLines errors).filter (!·.startsWith "\x7b")
    |>.map (Json.str ∘ maskText)))]

end Vm

/-- Run the steps of a session in order. -/
def runVm (p : Process) : List VmStep → Except String (List Json)
  | [] => .ok []
  | s :: rest =>
    match Vm.perform s p with
    | .ok v p' =>
      let (a, p'') := Vm.settle [("ok", v)] p'
      (a :: ·) <$> runVm p'' rest
    | .error (.fatal message) p' => .ok [(Vm.settle [("fatal", .str message)] p').1]
    | .error .abort p' => .ok [Vm.aborted p']
    | .error (.misuse reason) _ => .error reason
    | .error (.fault f) p' =>
      let (a, p'') := Vm.settle (faultFields f) p'
      (a :: ·) <$> runVm p'' rest
    | .error (.panic message) p' => .ok [(Vm.settle [("panic", .str message)] p').1]

/-- The text standing for the captured descriptor in environment values. -/
def traceFdPlaceholder : String := "\x7btrace_fd\x7d"

/-- The machine's setup from a request's `jvm` object; `null` or an absent object sets up the
defaults. -/
def setupOf (j : Option Json) : Decode Setup := do
  let j := j.getD .null
  let names (k : String) : Decode (List String) := match j.field? k with
    | some v => listOf k (asString k) v
    | none => pure []
  let absentFunctions ← names "missing_fns"
  if let some f := absentFunctions.find? (!interfaceFunctions.contains ·) then
    throw s!"unknown JNI function '{f}'"
  let lookupNull := match j.field? "lookup_failure" with
    | some (.str "null") => true
    | _ => false
  let traceFd ← match j.field? "trace_fd" with
    | none => pure (some extraDescriptor)
    | some .null => pure none
    | some v => some <$> asInt32 "trace_fd" v
  pure ⟨← names "missing", absentFunctions, lookupNull, traceFd⟩

/-- Answer a session request against the virtual machine. -/
def vmSessionRequest (j : Json) : Decode Json := do
  let environ ← match j.field? "env" with
    | some (.obj fs) => fs.mapM fun (k, v) =>
        match v with
        | .str s => pure (k, s.replace traceFdPlaceholder (toString extraDescriptor))
        | _ => throw "env values must be strings"
    | none => pure []
    | some _ => throw "env must be an object"
  let setup ← setupOf (j.field? "jvm")
  let steps ← field j "steps" >>= asList "steps"
  let p := Process.start ⟨Machine.new setup, Console.empty⟩ environ
  match runVm p (steps.map VmStep.ofJson) with
  | .ok answers => pure (.obj [("steps", .arr answers)])
  | .error reason => throw reason

end ArrayBridge.Request
