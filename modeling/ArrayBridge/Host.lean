import ArrayBridge.Mirror.Buffer
import ArrayBridge.Fault
import ArrayBridge.Log.Level
import ArrayBridge.Log.Entry

/-
  What the bridge needs from the managed runtime that owns the vectors, and how its operations
  end. An operation on a state `σ` (`Op σ α`) either answers a value or stops; a stop keeps every
  change made before it. A `fault` is an ordinary error handed back to the caller. A `panic`
  (native code unwinding), a `fatal` error reported to the runtime, a `misuse` by the calling
  program and an `abort` of the process all unwind: no caller sees them as a value, and call
  scopes clean up on the way out.

  `Host σ Obj Arr Pin` is a runtime whose state is `σ`, whose object and array references are
  `Obj` and `Arr` and whose pins are `Pin`. Identity of references goes through `sameObject` and
  `sameArray`, never through equality of the values. Native code reads and writes pinned storage
  directly: `loadPinned`, `readPinned` and `storePinned` are those native accesses, not runtime
  calls. The runtime also carries the process's log facade: `logs` says whether a record of a
  level would be kept, `log` keeps one, and `stamp` dates a structured entry.
-/

namespace ArrayBridge

/-- How an operation ends without a value. -/
inductive Stop where
  /-- An error handed back to the caller. -/
  | fault (f : Fault)
  /-- Native code panicked; the stack unwinds. -/
  | panic (message : String)
  /-- The runtime was told of a fatal error; nothing continues normally. -/
  | fatal (message : String)
  /-- The calling program used the bridge in a way it cannot answer (a dangling reference). -/
  | misuse (reason : String)
  /-- The process ended without telling the runtime. -/
  | abort
  deriving Repr, Inhabited

/-- An operation on state `σ`: it answers a value or stops, keeping the state reached. -/
abbrev Op (σ : Type) := EStateM Stop σ

namespace Op

variable {σ α : Type}

/-- Fail with a fault. -/
def fail (f : Fault) : Op σ α := throw (.fault f)

/-- Fail with a fault unless the result is a value. -/
def ofExcept : Except Fault α → Op σ α
  | .ok a => pure a
  | .error f => fail f

/-- Run an operation, answering a fault as a value; other stops go on unwinding. The state
reached is kept either way. -/
def attempt (m : Op σ α) : Op σ (Except Fault α) := fun s =>
  match m s with
  | .ok a s' => .ok (.ok a) s'
  | .error (.fault f) s' => .ok (.error f) s'
  | .error e s' => .error e s'

/-- Run an operation on one part of a larger state. -/
def focus {ρ : Type} (get : ρ → σ) (set : σ → ρ → ρ) (m : Op σ α) : Op ρ α := fun r =>
  match m (get r) with
  | .ok a s => .ok a (set s r)
  | .error e s => .error e (set s r)

theorem attempt_fail (f : Fault) (s : σ) :
    (attempt (fail f : Op σ α)) s = .ok (.error f) s := rfl

theorem attempt_pure (a : α) (s : σ) :
    (attempt (pure a : Op σ α)) s = .ok (.ok a) s := rfl

end Op

/-- A managed runtime as the bridge uses it. -/
class Host (σ : Type) (Obj Arr Pin : outParam Type) where
  /-- Whether two references name the same object. -/
  sameObject : σ → Obj → Obj → Bool
  /-- Whether two array references name the same array. -/
  sameArray : σ → Arr → Arr → Bool
  /-- Whether a reference is still valid; consulted only when validation is on. -/
  isValidRef : σ → Obj → Bool
  /-- The array currently behind an object, for a kind. -/
  backingArray : Obj → ElemKind → Op σ Arr
  /-- Drop an array reference obtained from `backingArray` that the bridge does not keep. -/
  releaseArray : Arr → Op σ Unit
  /-- Number of elements of an array. -/
  arrayLength : Arr → Op σ Nat
  /-- Pin an array's elements, answering the pin and the number of elements. -/
  pin : Arr → ElemKind → Op σ (Pin × Nat)
  /-- Hand a pin back. -/
  unpin : Arr → ElemKind → Pin → ReleaseMode → Op σ Unit
  /-- Copy an array's first `n` elements out, as cells of a type. -/
  readRegion : Arr → CellType → Nat → Op σ Cells
  /-- Copy cells into an array's first elements. -/
  writeRegion : Arr → Cells → Op σ Unit
  /-- The bytes of a text object, without a terminator. -/
  text : Obj → Op σ (List UInt8)
  /-- Tell an object whether its last round trip through native code was lossless. -/
  markConversion : Obj → Bool → Op σ Unit
  /-- A long-lived reference to an object. -/
  newGlobalRef : Obj → Op σ Obj
  /-- Delete a long-lived reference. -/
  deleteGlobalRef : Obj → Op σ Unit
  /-- The class name of an object, for trace output. -/
  describe : Obj → Op σ (Option String)
  /-- Report a fatal error; it never answers. -/
  fatalError : String → Op σ Empty
  /-- The `n` cells of a type that native code reads through a pin. -/
  loadPinned : σ → Pin → CellType → Nat → Cells
  /-- Native code stores cells through a pin. -/
  storePinned : Pin → Cells → σ → σ
  /-- Native code reads cells through a pin, as a step a runtime that watches native accesses
      can see; it reads what `loadPinned` gives and, unless a runtime says otherwise, changes
      nothing. -/
  readPinned : Pin → CellType → Nat → Op σ Cells := fun p t n s => .ok (loadPinned s p t n) s
  /-- How a reference prints in messages. -/
  showObject : σ → Obj → String
  /-- How an address prints in messages. -/
  showAddress : σ → Address Pin → String
  /-- The time and the writing thread and process, for structured entries. -/
  stamp : σ → Stamp
  /-- Whether a record of a level would be kept. -/
  logs : σ → Level → Bool
  /-- Keep a log record: level, target and message. -/
  log : Level → String → String → σ → σ

end ArrayBridge
