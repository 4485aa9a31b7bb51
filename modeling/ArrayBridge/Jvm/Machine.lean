import ArrayBridge.Jvm.Event

/-
  The virtual machine: its objects, references and pins, the exception pending on the calling
  thread, the operations made to fail on purpose, what it lacks, and the calls reported so far.
  Each function here is one call of the machine's native interface as the machine carries it
  out; whether the interface offers the call at all (`has`) is for the caller to check.

  Failures are the machine's own: a call that fails returns null or leaves an exception pending,
  never stopping the caller. The operations are written for any error type so that callers with
  different error conventions share them.

  * An up-call on a vector of its own type answers a new local reference to the vector's array,
    or null when the vector has none; on anything else it throws `ClassCastException`.
  * Pinning copies the array and numbers pins in order; handing a pin back in mode 0 copies the
    pin into the array it came from and frees it, mode 1 only copies, mode 2 only frees.
  * Region copies throw `ArrayIndexOutOfBoundsException` out of bounds and
    `ArrayStoreException` on an array of another element type.
  * A deleted reference still leads to its object; only the validity test tells it apart.
  * Asking for an object's class, finding a class by name, a class's name and the trace
    descriptor each make a new auxiliary reference; deleting a local one goes unreported.
  * A lookup of a method or field finds what the class declares, less the names the machine is
    set up to lack; a reference the machine did not make leads to a plain object.
-/

namespace ArrayBridge.Jvm

open ArrayBridge

/-- What a numbered reference leads to. -/
structure RefEntry where
  object : Nat
  global : Bool
  deleted : Bool

/-- What an auxiliary reference leads to. -/
inductive AuxThing where
  /-- The class with this slash name. -/
  | cls (name : String)
  /-- A string holding a class's dotted name. -/
  | name (text : String)
  /-- A file descriptor object. -/
  | descriptor (fd : Int32)
  deriving DecidableEq, Repr

/-- The slash name of the class of what an auxiliary reference leads to. -/
def AuxThing.className : AuxThing → String
  | .cls _ => classClass
  | .name _ => stringClass
  | .descriptor _ => descriptorClass

/-- An auxiliary reference. -/
structure AuxEntry where
  thing : AuxThing
  /-- The number, counted from `auxBase`, of the first reference to the same thing; copies made
  by `NewGlobalRef` keep it. -/
  origin : Nat
  deleted : Bool

/-- A pinned copy of an array. -/
structure PinEntry where
  /-- The array object the copy was taken from. -/
  array : Nat
  cells : Cells
  live : Bool

/-- The functions of the machine's native interface that a setup can leave out, by name. -/
def interfaceFunctions : List String := [
  "GetObjectClass", "GetMethodID", "GetStaticMethodID", "GetFieldID", "FindClass", "GetJavaVM",
  "NewGlobalRef", "DeleteGlobalRef", "DeleteLocalRef", "IsSameObject", "GetObjectRefType",
  "ExceptionCheck", "ExceptionDescribe", "FatalError", "CallObjectMethodA",
  "CallStaticVoidMethodA", "CallStaticObjectMethodA", "GetObjectField", "GetIntField",
  "GetArrayLength", "GetIntArrayElements", "GetDoubleArrayElements", "GetByteArrayElements",
  "ReleaseIntArrayElements", "ReleaseDoubleArrayElements", "ReleaseByteArrayElements",
  "GetIntArrayRegion", "GetDoubleArrayRegion", "GetByteArrayRegion", "SetIntArrayRegion",
  "SetDoubleArrayRegion", "SetByteArrayRegion", "GetStringUTFLength", "GetStringUTFChars",
  "ReleaseStringUTFChars"]

/-- What the virtual machine lacks and how it answers lookups; fixed for a session. -/
structure Setup where
  /-- Members, and classes as `class:` and their slash name, the machine does not have. -/
  absent : List String
  /-- Functions missing from the native interface. -/
  absentFunctions : List String
  /-- A failed lookup answers null without an exception. -/
  lookupNull : Bool
  /-- The descriptor the managed side reports for tracing; `none` reports no descriptor. -/
  traceFd : Option Int32

/-- Exception thrown by a failing operation. -/
def runtimeException : String := "java/lang/RuntimeException"
/-- Exception of an up-call on an object of the wrong type. -/
def classCastException : String := "java/lang/ClassCastException"
/-- Exception of a field read on an object without the field. -/
def incompatibleClassChange : String := "java/lang/IncompatibleClassChangeError"
/-- Exception of a region out of bounds. -/
def indexOutOfBounds : String := "java/lang/ArrayIndexOutOfBoundsException"
/-- Exception of a region of the wrong element type. -/
def arrayStore : String := "java/lang/ArrayStoreException"

/-- The virtual machine's state. -/
structure Machine where
  objects : Array JObject
  refs : Array RefEntry
  aux : Array AuxEntry
  pins : Array PinEntry
  /-- The class of the exception pending on the calling thread. -/
  pending : Option String
  /-- Operations made to fail on purpose. -/
  failing : List String
  setup : Setup
  /-- Calls reported and not yet taken. -/
  events : Array Event

namespace Machine

variable {ε α : Type}

/-- A machine holding only the up-calls instance, with reference 0 to it. -/
def new (setup : Setup) : Machine :=
  ⟨#[.upcalls], #[⟨0, false, false⟩], #[], #[], none, [], setup, #[]⟩

/-- Whether the native interface offers a function. -/
def has (m : Machine) (function : String) : Bool := !m.setup.absentFunctions.contains function

/-- Whether an operation is made to fail. -/
def failsOn (m : Machine) (operation : String) : Bool := m.failing.contains operation

/-- The entry of a reference to an object. -/
def mainRef? (m : Machine) : Ref → Option RefEntry
  | .handle n => if n < auxBase then m.refs[n]? else none
  | .null => none

/-- The entry of an auxiliary reference. -/
def auxRef? (m : Machine) : Ref → Option AuxEntry
  | .handle n => if auxBase ≤ n then m.aux[n - auxBase]? else none
  | .null => none

/-- The object a reference leads to; deleted references still lead to theirs. -/
def objectOf? (m : Machine) (r : Ref) : Option Nat := (m.mainRef? r).map (·.object)

/-- The object behind a reference. -/
def deref? (m : Machine) (r : Ref) : Option JObject := (m.objectOf? r).bind (m.objects[·]?)

/-- How reports show a reference. -/
def shown (m : Machine) : Ref → Shown
  | .null => .null
  | .handle n =>
    if n < auxBase then .number n
    else match m.aux[n - auxBase]? with
      | some ⟨.cls name, _, _⟩ => .cls name
      | _ => .aux

/-- The slash name of the class of what a non-null reference leads to; a reference the machine
did not make leads to a plain object. -/
def classOf? (m : Machine) (r : Ref) : Option String :=
  match r, m.auxRef? r with
  | .null, _ => none
  | _, some e => some e.thing.className
  | _, none => some (((m.deref? r).map JObject.className).getD objectClass)

/-- Whether a class can be found by name. -/
def findsClass (m : Machine) (name : String) : Bool := !m.setup.absent.contains ("class:" ++ name)

/-- The methods and fields a class declares, by name. -/
def declaredMembers (cls : String) : List String :=
  if cls = upcallsClass then ["INTEGER", "REAL", "RAW", "LOGICAL", "setComplete"]
  else if cls = wrapperClass then ["contents"]
  else if cls = utilsClass then ["getTraceFileDescriptor"]
  else if cls = descriptorClass then ["fd"]
  else if cls = classClass then ["getName"]
  else []

/-- Whether a method or field can be looked up by name in the class behind `cls`: the class
declares it and the machine is not set up to lack it. -/
def hasMember (m : Machine) (cls : Ref) (name : String) : Bool :=
  !m.setup.absent.contains name &&
    match m.auxRef? cls with
    | some ⟨.cls c, _, _⟩ => (declaredMembers c).contains name
    | _ => false

/-- What tells apart the things references lead to. -/
inductive Identity where
  | object (id : Nat)
  | cls (name : String)
  /-- Another auxiliary thing, by the first reference made to it. -/
  | other (origin : Nat)
  deriving DecidableEq, Repr

/-- The identity of what a reference leads to, if it leads anywhere. -/
def identity? (m : Machine) (r : Ref) : Option Identity :=
  match m.objectOf? r with
  | some o => some (.object o)
  | none =>
    match m.auxRef? r with
    | some ⟨.cls c, _, _⟩ => some (.cls c)
    | some e => some (.other e.origin)
    | none => none

/-- Whether two references lead to the same thing: the same object, the same class, or the same
other auxiliary thing. Two null references are the same. -/
def sameObject (m : Machine) (a b : Ref) : Bool :=
  (a == .null && b == .null) ||
    match m.identity? a, m.identity? b with
    | some x, some y => x == y
    | _, _ => false

/-- Whether a reference is valid: made by the machine and not deleted. -/
def isValid (m : Machine) (r : Ref) : Bool :=
  match m.mainRef? r, m.auxRef? r with
  | some e, _ => !e.deleted
  | none, some e => !e.deleted
  | none, none => false

/-- Report a call. -/
def record (e : Event) : EStateM ε Machine Unit :=
  modify fun m => { m with events := m.events.push e }

/-- Leave an exception of a class pending. -/
def raise (cls : String) : EStateM ε Machine Unit :=
  modify fun m => { m with pending := some cls }

/-- A new object; answers its number. -/
def addObject (o : JObject) : EStateM ε Machine Nat :=
  modifyGet fun m => (m.objects.size, { m with objects := m.objects.push o })

/-- Replace an object. -/
def setObject (id : Nat) (o : JObject) : EStateM ε Machine Unit :=
  modify fun m => { m with objects := m.objects.setIfInBounds id o }

/-- A new reference to an object. -/
def newRef (object : Nat) (global : Bool) : EStateM ε Machine Ref :=
  modifyGet fun m => (.handle m.refs.size, { m with refs := m.refs.push ⟨object, global, false⟩ })

/-- A new auxiliary reference to a thing, or to the same thing as the reference `origin`. -/
def newAux (thing : AuxThing) (origin : Option Nat) : EStateM ε Machine Ref :=
  modifyGet fun m =>
    (.handle (auxBase + m.aux.size),
      { m with aux := m.aux.push ⟨thing, origin.getD m.aux.size, false⟩ })

/-- Mark a reference deleted. -/
def deleteRef (r : Ref) : EStateM ε Machine Unit :=
  match r with
  | .handle n =>
    if n < auxBase then
      modify fun m => { m with refs := m.refs.modify n (fun e => { e with deleted := true }) }
    else
      modify fun m => { m with aux := m.aux.modify (n - auxBase) (fun e => { e with deleted := true }) }
  | .null => pure ()

/-- A new auxiliary reference to the class of what `x` leads to; null when it leads nowhere. -/
def classRef (x : Ref) : EStateM ε Machine Ref := do
  match (← get).classOf? x with
  | some c => newAux (.cls c) none
  | none => pure .null

/-- The up-call of a vector type on `x`. -/
def upcall (t : VectorType) (x : Ref) : EStateM ε Machine Ref := do
  let m ← get
  let castFails : EStateM ε Machine Ref := do
    record (.upcall t.upcall (m.shown x) .threw)
    raise classCastException
    pure .null
  if m.failsOn t.upcall then
    record (.upcall t.upcall (m.shown x) .threw)
    raise runtimeException
    pure .null
  else
    match m.deref? x with
    | some (.vector u array) =>
      if u = t then
        match array with
        | some a =>
          let r ← newRef a false
          record (.upcall t.upcall (m.shown x) (.ref ((← get).shown r)))
          pure r
        | none =>
          record (.upcall t.upcall (m.shown x) (.ref .null))
          pure .null
      else castFails
    | _ => castFails

/-- The cells of the array behind a reference. -/
def arrayCells? (m : Machine) (r : Ref) : Option Cells :=
  match m.deref? r with
  | some (.array c) => some c
  | _ => none

/-- The number of elements of the array behind a reference; 0 for anything else. -/
def arrayLength (m : Machine) (r : Ref) : Nat := ((m.arrayCells? r).map Cells.length).getD 0

/-- Pin the array behind a reference as cells of type `t`; answers the pin, or none. -/
def pinElements (t : CellType) (array : Ref) : EStateM ε Machine (Option Nat) := do
  let m ← get
  let function := s!"Get{t.title}ArrayElements"
  let obj := m.objectOf? array
  let copy := if m.failsOn function then none else
    match obj, m.arrayCells? array with
    | some a, some c => if c.cellType = t then some (a, c) else none
    | _, _ => none
  match copy with
  | some (a, c) =>
    let p := m.pins.size
    set { m with pins := m.pins.push ⟨a, c, true⟩ }
    record (.elements function obj (some p))
    pure (some p)
  | none =>
    record (.elements function obj none)
    pure none

/-- Hand pin `p` back in a mode. -/
def releaseElements (t : CellType) (array : Ref) (p : Nat) (mode : Nat) :
    EStateM ε Machine Unit := do
  let m ← get
  record (.releaseElements s!"Release{t.title}ArrayElements" (m.objectOf? array) (some p) mode)
  match m.pins[p]? with
  | some entry =>
    if mode ≠ 2 then setObject entry.array (.array entry.cells)
    if mode ≠ 1 then
      modify fun m => { m with pins := m.pins.modify p (fun e => { e with live := false }) }
  | none => pure ()

/-- Cells `start` to `start + len - 1` of a run. -/
def window (c : Cells) (start len : Nat) : Cells :=
  match c with
  | .int xs => .int ((xs.drop start).take len)
  | .real xs => .real ((xs.drop start).take len)
  | .raw xs => .raw ((xs.drop start).take len)

/-- A run with the cells from `start` on replaced by `vs`, when the types agree. -/
def overlay (c : Cells) (start : Nat) (vs : Cells) : Cells :=
  match c, vs with
  | .int xs, .int ys => .int (xs.take start ++ ys ++ xs.drop (start + ys.length))
  | .real xs, .real ys => .real (xs.take start ++ ys ++ xs.drop (start + ys.length))
  | .raw xs, .raw ys => .raw (xs.take start ++ ys ++ xs.drop (start + ys.length))
  | _, _ => c

/-- Why a region copy of `len` cells of type `t` from `start` throws, if it does. -/
def regionFault (m : Machine) (function : String) (t : CellType) (array : Ref)
    (start len : Nat) : Option String :=
  if m.failsOn function then some indexOutOfBounds
  else match m.arrayCells? array with
    | some c =>
      if c.cellType ≠ t then some arrayStore
      else if c.length < start + len then some indexOutOfBounds
      else none
    | none => some arrayStore

/-- Copy `len` cells of type `t` out of an array from `start`; none when the copy throws. -/
def readRegion (t : CellType) (array : Ref) (start len : Nat) :
    EStateM ε Machine (Option Cells) := do
  let m ← get
  let function := s!"Get{t.title}ArrayRegion"
  match m.regionFault function t array start len with
  | some cls =>
    record (.region function (m.objectOf? array) start len true)
    raise cls
    pure none
  | none =>
    record (.region function (m.objectOf? array) start len false)
    pure ((m.arrayCells? array).map (window · start len))

/-- Copy cells into an array from `start`. -/
def writeRegion (array : Ref) (start : Nat) (cells : Cells) : EStateM ε Machine Unit := do
  let m ← get
  let function := s!"Set{cells.cellType.title}ArrayRegion"
  match m.regionFault function cells.cellType array start cells.length with
  | some cls =>
    record (.region function (m.objectOf? array) start cells.length true)
    raise cls
  | none =>
    record (.region function (m.objectOf? array) start cells.length false)
    match m.objectOf? array, m.arrayCells? array with
    | some a, some c => setObject a (.array (overlay c start cells))
    | _, _ => pure ()

/-- Read the `contents` field of a text wrapper: a new local reference to its string. -/
def contentsField (x : Ref) : EStateM ε Machine Ref := do
  let m ← get
  let incompatible : EStateM ε Machine Ref := do
    record (.objectField (m.shown x) .threw)
    raise incompatibleClassChange
    pure .null
  if m.failsOn "GetObjectField" then incompatible
  else
    match m.deref? x with
    | some (.wrapper (some s)) =>
      let r ← newRef s false
      record (.objectField (m.shown x) (.ref ((← get).shown r)))
      pure r
    | some (.wrapper none) =>
      record (.objectField (m.shown x) (.ref .null))
      pure .null
    | _ => incompatible

/-- The bytes of the string behind a reference. -/
def stringBytes? (m : Machine) (r : Ref) : Option (List UInt8) :=
  match m.deref? r with
  | some (.string bytes) => some bytes
  | _ => none

/-- The characters of a string, as native code borrows them; none when borrowing fails. -/
def utfChars? (m : Machine) (r : Ref) : Option (List UInt8) :=
  if m.failsOn "GetStringUTFChars" then none else m.stringBytes? r

/-- Report the conversion outcome of `x`. -/
def setComplete (x : Ref) (complete : Bool) : EStateM ε Machine Unit := do
  record (.setComplete ((← get).shown x) complete)
  if (← get).failsOn "setComplete" then raise runtimeException

/-- A new global reference to what `x` leads to; null when there is nothing or it fails. -/
def newGlobalRef (x : Ref) : EStateM ε Machine Ref := do
  let m ← get
  let r ← if m.failsOn "NewGlobalRef" then pure .null else
    match m.objectOf? x, m.auxRef? x with
    | some o, _ => newRef o true
    | none, some e => newAux e.thing (some e.origin)
    | none, none => pure .null
  record (.newGlobalRef (m.shown x) ((← get).shown r))
  pure r

/-- Delete a global reference. -/
def deleteGlobalRef (x : Ref) : EStateM ε Machine Unit := do
  record (.deleteGlobalRef ((← get).shown x))
  deleteRef x

/-- Delete a local reference; auxiliary references go unreported. -/
def deleteLocalRef (x : Ref) : EStateM ε Machine Unit := do
  match x with
  | .handle n => if n < auxBase then record (.deleteLocalRef (.number n))
  | .null => record (.deleteLocalRef .null)
  deleteRef x

/-- Describe the pending exception and clear it. -/
def describeException : EStateM ε Machine Unit := do
  match (← get).pending with
  | some cls =>
    record (.exceptionDescribe cls)
    modify fun m => { m with pending := none }
  | none => pure ()

/-- Take the calls reported so far. -/
def takeEvents : EStateM ε Machine (List Event) :=
  modifyGet fun m => (m.events.toList, { m with events := #[] })

theorem sameObject_comm (m : Machine) (a b : Ref) : m.sameObject a b = m.sameObject b a := by
  unfold sameObject
  rw [Bool.and_comm (a == .null)]
  cases m.identity? a <;> cases m.identity? b <;> simp only []
  rename_i x y
  have h : (x == y) = (y == x) := Bool.eq_iff_iff.mpr (by rw [beq_iff_eq, beq_iff_eq]; exact eq_comm)
  rw [h]

end Machine

end ArrayBridge.Jvm
