import ArrayBridge.Log.Entry
import ArrayBridge.Log.Level
import ArrayBridge.Config.Basic

/-
  The structured logger: a component name, a threshold level and a sink. A record is kept when
  its level is at most the threshold; a kept record is written to the sink as one JSON entry
  line, its context holding the record's target and, when known, its source file and line.
  The logger a configuration selects traces everything when tracing is on and keeps warnings and
  errors otherwise; with tracing off it writes to the error stream, with console tracing to the
  output stream, and with a descriptor to a duplicate of that descriptor, which must be open.
-/

namespace ArrayBridge

/-- A log record as the bridge emits it. -/
structure Record where
  level : Level
  target : String
  message : String
  file : Option String
  line : Option Nat

/-- Where a logger writes its lines. -/
inductive Sink where
  | stdout
  | stderr
  /-- A duplicate of an open descriptor. -/
  | descriptor (fd : Int32)
  deriving DecidableEq, Repr

/-- The fault of duplicating a descriptor that is not open. -/
def badDescriptor : Fault := .io "Bad file descriptor (os error 9)"

/-- Open the sink of a trace target; `isOpen` says which descriptors the process has open. -/
def Sink.open (isOpen : Int32 → Bool) : TraceTarget → Except Fault Sink
  | .off => .ok .stderr
  | .console => .ok .stdout
  | .descriptor fd => if isOpen fd then .ok (.descriptor fd) else .error badDescriptor

/-- A structured logger. -/
structure Logger where
  component : String
  threshold : Level
  sink : Sink

namespace Logger

/-- The threshold a configuration selects: everything when tracing, else warnings. -/
def thresholdFor (c : Config) : Level := if c.trace.isEnabled then .trace else .warn

/-- The logger a configuration selects. -/
def forConfig (isOpen : Int32 → Bool) (c : Config) : Except Fault Logger := do
  let sink ← Sink.open isOpen c.trace
  pure ⟨bridgeComponentName, thresholdFor c, sink⟩
where
  bridgeComponentName : String := "rffi_bridge"

/-- Whether the logger keeps a record of level `l`. -/
def enabled (g : Logger) (l : Level) : Bool := Level.keeps g.threshold l

/-- The entry a record is written as. -/
def format (g : Logger) (stamp : Stamp) (r : Record) : LogEntry :=
  let e := (LogEntry.new stamp r.level.name g.component r.message).withContext "target" (.str r.target)
  let e := match r.file with
    | some f => e.withContext "file" (.str f)
    | none => e
  match r.line with
  | some n => e.withContext "line" (Json.ofNat n)
  | none => e

/-- The line written for a record, if the record is kept. -/
def line (g : Logger) (stamp : Stamp) (r : Record) : Option String :=
  if g.enabled r.level then some (g.format stamp r).render else none

theorem line_eq_none_iff (g : Logger) (stamp : Stamp) (r : Record) :
    g.line stamp r = none ↔ g.enabled r.level = false := by
  unfold line
  split <;> simp_all

end Logger

end ArrayBridge
