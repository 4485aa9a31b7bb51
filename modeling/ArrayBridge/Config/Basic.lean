import ArrayBridge.Fault
import ArrayBridge.Json.Value

/-
  The bridge configuration: where trace output goes, whether managed references are checked,
  whether the bridge runs embedded in a host application, how deep native calls may nest and how
  large the two tables start. `Config.check` is the one rule every configuration the bridge runs
  with obeys: a depth and capacities of at least one.
-/

namespace ArrayBridge

/-- Where trace output goes. -/
inductive TraceTarget where
  /-- No tracing; warnings and errors still reach the error stream. -/
  | off
  /-- Trace to standard output. -/
  | console
  /-- Trace to an open file descriptor. -/
  | descriptor (fd : Int32)
  deriving DecidableEq, Repr, Inhabited

/-- Whether trace records are written at all. -/
def TraceTarget.isEnabled : TraceTarget → Bool
  | .off => false
  | _ => true

/-- Startup settings of the bridge. -/
structure Config where
  trace : TraceTarget := .off
  validateRefs : Bool := false
  embedded : Bool := false
  maxCallDepth : Nat := 16
  tableCapacity : Nat := 64
  refCapacity : Nat := 64
  deriving DecidableEq, Repr, Inhabited

namespace Config

/-- The settings used when nothing says otherwise. -/
def default : Config := {}

/-- The rule every running configuration obeys. -/
def check (c : Config) : Except Fault Unit :=
  if c.maxCallDepth = 0 then .error (.configuration "max_call_depth must be at least 1")
  else if c.tableCapacity = 0 ∨ c.refCapacity = 0 then
    .error (.configuration "table capacities must be at least 1")
  else .ok ()

def withTrace (c : Config) (t : TraceTarget) : Config := { c with trace := t }
def withValidateRefs (c : Config) (b : Bool) : Config := { c with validateRefs := b }
def withMaxCallDepth (c : Config) (n : Nat) : Config := { c with maxCallDepth := n }
def withTableCapacity (c : Config) (n : Nat) : Config := { c with tableCapacity := n }

/-- The JSON form of a trace target. -/
def traceJson : TraceTarget → Json
  | .off => .str "none"
  | .console => .str "console"
  | .descriptor fd => .obj [("descriptor", Json.ofInt fd.toInt)]

/-- The JSON form of a configuration. -/
def toJson (c : Config) : Json :=
  .obj [("embedded", .bool c.embedded), ("initial_ref_capacity", Json.ofNat c.refCapacity),
    ("initial_table_capacity", Json.ofNat c.tableCapacity),
    ("max_call_depth", Json.ofNat c.maxCallDepth), ("trace_output", traceJson c.trace),
    ("validate_references", .bool c.validateRefs)]

theorem check_ok_iff (c : Config) :
    c.check = .ok () ↔ 0 < c.maxCallDepth ∧ 0 < c.tableCapacity ∧ 0 < c.refCapacity := by
  unfold check
  by_cases h1 : c.maxCallDepth = 0
  · simp [h1]
  · by_cases h2 : c.tableCapacity = 0 ∨ c.refCapacity = 0
    · simp only [h1, h2, if_false, if_true]
      constructor
      · intro h; cases h
      · intro h; omega
    · simp only [h1, h2, if_false]
      constructor
      · intro _; omega
      · intro _; trivial

end Config

end ArrayBridge
