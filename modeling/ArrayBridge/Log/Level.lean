/-
  Severity of a log record. The levels run from the most severe (`error`) to the least
  (`trace`); a logger with threshold `t` keeps a record of level `l` exactly when `l ≤ t` in
  this order, so every logger keeps errors and only a tracing logger keeps trace records.
-/

namespace ArrayBridge

/-- Severity of a log record, most severe first. -/
inductive Level where
  | error
  | warn
  | info
  | debug
  | trace
  deriving DecidableEq, Repr, Inhabited

namespace Level

/-- Position in the severity order, 1 for `error` up to 5 for `trace`. -/
def rank : Level → Nat
  | error => 1
  | warn => 2
  | info => 3
  | debug => 4
  | trace => 5

instance : LE Level := ⟨fun a b => a.rank ≤ b.rank⟩

instance (a b : Level) : Decidable (a ≤ b) := inferInstanceAs (Decidable (a.rank ≤ b.rank))

/-- Whether a logger with threshold `t` keeps a record of level `l`. -/
def keeps (t l : Level) : Bool := decide (l ≤ t)

/-- The upper-case name of a level, as log entries write it. -/
def name : Level → String
  | error => "ERROR"
  | warn => "WARN"
  | info => "INFO"
  | debug => "DEBUG"
  | trace => "TRACE"

/-- All levels, most severe first. -/
def all : List Level := [error, warn, info, debug, trace]

/-- The level with this name, in capitals as levels are written. -/
def ofName? (s : String) : Option Level :=
  all.find? (fun l => l.name == s)

theorem keeps_error (t : Level) : keeps t error = true := by
  cases t <;> decide

theorem keeps_trace_iff (t : Level) : keeps t trace = true ↔ t = trace := by
  cases t <;> decide

end Level

end ArrayBridge
