import ArrayBridge.Log.Logger

/-
  A process's log output: the lines written to its output and error streams and to the extra
  descriptors it has open, which all lead to one captured stream, and the logger, which a process installs at most once. Until a
  logger is installed every record is dropped; once it is, records it keeps are written as JSON
  entry lines to its sink. A descriptor sink writes to the stream that descriptor stands for; the
  input descriptor takes nothing.
-/

namespace ArrayBridge

/-- The last of the descriptors a process has open besides the three standard streams; the
managed side reports it as its trace descriptor. -/
def extraDescriptor : Int32 := 6

/-- The descriptors a process has open. -/
def isOpenDescriptor (fd : Int32) : Bool := 0 ≤ fd && fd ≤ extraDescriptor

/-- A process's log output and logger. -/
structure Console where
  logger : Option Logger
  stdout : Array String
  stderr : Array String
  /-- Lines written to the extra descriptors. -/
  extra : Array String

namespace Console

/-- A process that has written nothing and has no logger. -/
def empty : Console := ⟨none, #[], #[], #[]⟩

/-- Write a line to a sink. -/
def write (c : Console) (line : String) : Sink → Console
  | .stdout => { c with stdout := c.stdout.push line }
  | .stderr => { c with stderr := c.stderr.push line }
  | .descriptor fd =>
    if fd = 1 then { c with stdout := c.stdout.push line }
    else if fd = 2 then { c with stderr := c.stderr.push line }
    else if 3 ≤ fd && fd ≤ extraDescriptor then { c with extra := c.extra.push line }
    else c

/-- Whether a record of a level would be written. -/
def keeps (c : Console) (level : Level) : Bool :=
  match c.logger with
  | some g => g.enabled level
  | none => false

/-- Log a record through the installed logger, if any. -/
def log (c : Console) (stamp : Stamp) (level : Level) (target message : String) : Console :=
  match c.logger with
  | some g =>
    match g.line stamp ⟨level, target, message, none, none⟩ with
    | some line => c.write line g.sink
    | none => c
  | none => c

/-- Install a logger unless one is installed; answers the threshold of the logger in place. -/
def install (c : Console) (g : Logger) : Level × Console :=
  match c.logger with
  | some h => (h.threshold, c)
  | none => (g.threshold, { c with logger := some g })

theorem log_of_none (c : Console) (h : c.logger = none) (stamp : Stamp) (level : Level)
    (target message : String) : c.log stamp level target message = c := by
  simp [log, h]

theorem install_keeps (c : Console) (g h : Logger) (e : c.logger = some h) :
    c.install g = (h.threshold, c) := by
  simp [install, e]

end Console

end ArrayBridge
