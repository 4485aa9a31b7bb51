import ArrayBridge.Kind

/-
  Why a bridge operation fails. Each constructor is one cause; `Fault.message` holds all the
  wording, `Fault.code` the stable code of structured logs. Every fault but an I/O failure is
  fatal: the C entry points hand it to the runtime's fatal-error path instead of returning it.
-/

namespace ArrayBridge

/-- The causes of a failed bridge operation. -/
inductive Fault where
  | binding (what name reason : String)
  | tableGrowth (table : String) (capacity : Nat)
  | callDepthOverflow (depth max : Nat)
  | unexpectedKind (detail : String)
  | noActiveCall (operation : String)
  | crossFrameRefresh (index frameMark : Nat)
  | invalidReference (operation : String)
  | pinFailed (kind : ElemKind)
  | pendingException (operation : String)
  | host (operation message : String)
  | interiorNul (position : Nat)
  | configuration (detail : String)
  | io (detail : String)
  deriving DecidableEq, Repr, Inhabited

namespace Fault

/-- The text a fault is displayed with. -/
def message : Fault → String
  | binding what name reason => s!"failed to bind {what} {name}: {reason}"
  | tableGrowth table capacity => s!"{table} table expansion failure at capacity {capacity}"
  | callDepthOverflow depth max => s!"call stack overflow: depth {depth} exceeds maximum {max}"
  | unexpectedKind detail => s!"unexpected element kind {detail}"
  | noActiveCall operation => s!"{operation} requires an active native call"
  | crossFrameRefresh index mark =>
    s!"refresh of entry {index} from an ancestor frame (frame mark {mark})"
  | invalidReference operation => s!"invalid managed reference in {operation}"
  | pinFailed kind => s!"failed to pin {kind.name} array"
  | pendingException operation => s!"managed exception pending after {operation}"
  | host operation message => s!"host operation {operation} failed: {message}"
  | interiorNul position => s!"text value contains an interior NUL byte at {position}"
  | configuration detail => s!"invalid configuration: {detail}"
  | io detail => s!"IO error: {detail}"

/-- The stable code of a fault in structured log entries. -/
def code : Fault → String
  | binding .. => "BINDING_FAILED"
  | tableGrowth .. => "TABLE_GROWTH"
  | callDepthOverflow .. => "CALL_DEPTH_OVERFLOW"
  | unexpectedKind .. => "UNEXPECTED_KIND"
  | noActiveCall .. => "NO_ACTIVE_CALL"
  | crossFrameRefresh .. => "CROSS_FRAME_REFRESH"
  | invalidReference .. => "INVALID_REFERENCE"
  | pinFailed .. => "PIN_FAILED"
  | pendingException .. => "PENDING_EXCEPTION"
  | host .. => "HOST_ERROR"
  | interiorNul .. => "INTERIOR_NUL"
  | configuration .. => "CONFIGURATION_ERROR"
  | io .. => "IO_ERROR"

/-- The name of a fault's cause. -/
def label : Fault → String
  | binding .. => "Binding"
  | tableGrowth .. => "TableGrowth"
  | callDepthOverflow .. => "CallDepthOverflow"
  | unexpectedKind .. => "UnexpectedKind"
  | noActiveCall .. => "NoActiveCall"
  | crossFrameRefresh .. => "CrossFrameRefresh"
  | invalidReference .. => "InvalidReference"
  | pinFailed .. => "PinFailed"
  | pendingException .. => "PendingException"
  | host .. => "Host"
  | interiorNul .. => "InteriorNul"
  | configuration .. => "Configuration"
  | io .. => "Io"

/-- Whether the fault ends the process when it reaches a C entry point. -/
def isFatal : Fault → Bool
  | io .. => false
  | _ => true

theorem isFatal_iff (f : Fault) : f.isFatal = false ↔ f.code = "IO_ERROR" := by
  cases f <;> simp [isFatal, code]

end Fault

/-- Name of the table of lent buffers in growth failures. -/
def lentTableName : String := "FFI copied vectors"
/-- Name of the global-reference cache in growth failures. -/
def refTableName : String := "FFI global refs"
/-- Reported when an entry point runs before the bridge is installed. -/
def notInitialised : String := "native bridge used before initialization"
/-- Warned when a refresh finds the managed array replaced. -/
def staleCopy : String := "data in managed array changed, invalidating the cached pointer"
/-- Prefix of messages about a cached buffer requested as another kind. -/
def kindMismatch : String := "cached mirror requested with a different element kind"

/-- The kind with a given type code, or the fault that names the unknown code. -/
def ElemKind.ofCode (c : Int32) : Except Fault ElemKind :=
  match ElemKind.ofCode? c with
  | some k => .ok k
  | none => .error (.unexpectedKind (toString c))

end ArrayBridge
