import ArrayBridge.Json.Value
import ArrayBridge.Json.Writer

/-
  Structured log entries. An entry carries a level name, the component that wrote it, a message,
  an optional error code and a context of named JSON values (one per key, the last write wins),
  stamped with the time and the identity of the writing thread and process. Entries are written
  as one JSON object per line.
-/

namespace ArrayBridge

/-- When and by whom an entry was written. -/
structure Stamp where
  /-- The time, as an RFC 3339 text. -/
  time : String
  /-- The writing thread. -/
  thread : String
  /-- The writing process. -/
  process : Nat
  deriving Inhabited

/-- A structured log entry. -/
structure LogEntry where
  stamp : Stamp
  level : String
  component : String
  message : String
  errorCode : Option String
  /-- Named values, one per key, in key order. -/
  context : List (String × Json)

namespace LogEntry

/-- An entry without error code or context. -/
def new (stamp : Stamp) (level component message : String) : LogEntry :=
  ⟨stamp, level, component, message, none, []⟩

/-- Attach an error code. -/
def withErrorCode (e : LogEntry) (code : String) : LogEntry := { e with errorCode := some code }

/-- Add a named value to the context, replacing one of the same name. -/
def withContext (e : LogEntry) (key : String) (value : Json) : LogEntry :=
  { e with context := Json.insertField key value e.context }

/-- The entry as a JSON object. -/
def toJson (e : LogEntry) : Json :=
  .obj [("component", .str e.component), ("context", .obj e.context),
    ("error_code", Json.ofOption .str e.errorCode), ("level", .str e.level),
    ("message", .str e.message), ("process_id", Json.ofNat e.stamp.process),
    ("thread_id", .str e.stamp.thread), ("timestamp", .str e.stamp.time)]

/-- The entry as one line of JSON text. -/
def render (e : LogEntry) : String := e.toJson.render

theorem withContext_lookup (e : LogEntry) (k : String) (v : Json) :
    (e.withContext k v).context.lookup k = some v :=
  Json.insertField_lookup k v e.context

end LogEntry

end ArrayBridge
