import ArrayBridge.Request.Basic
import ArrayBridge.Log.Logger
import ArrayBridge.Json.Reader

/-
  Log entries and the logger, driven directly. Entries are answered as the objects they write,
  with the time, thread and process replaced by flags saying they were present, since those
  differ from run to run. A logger writing to a captured memory descriptor answers the lines it
  wrote; the output stream and descriptor 1 would write into the answer stream and are refused.
-/

namespace ArrayBridge.Request

open ArrayBridge

/-- An entry object with its time, thread and process replaced by presence flags. -/
def stripStamp (j : Json) : Json :=
  match j with
  | .obj fields =>
    let flag (k : String) : List (String × Json) :=
      match fields.lookup k with
      | some _ => [("has_" ++ k, .bool true)]
      | none => []
    let kept := fields.filter (fun (k, _) => k != "timestamp" && k != "thread_id" && k != "process_id")
    Json.ofFields (kept ++ flag "timestamp" ++ flag "thread_id" ++ flag "process_id")
  | other => other

/-- A stamp for entries made here; it never reaches an answer. -/
def localStamp : Stamp := ⟨"1970-01-01T00:00:00Z", "ThreadId(1)", 1⟩

/-- A level by name. -/
def levelOf (j : Json) : Decode Level := do
  let name ← asString "level" j
  match Level.ofName? name with
  | some l => pure l
  | none => throw s!"unknown level '{name}'"

/-- A value as it reads back after being written out: numbers that are not integers come back
through the reader's own rounding. -/
def reread (j : Json) : Json :=
  match Json.parse j.render with
  | .ok j' => j'
  | .error _ => j

/-- Answer a log entry request. -/
def logEntryRequest (j : Json) : Decode Json := do
  let level ← field j "level" >>= asString "level"
  let component ← field j "component" >>= asString "component"
  let message ← field j "message" >>= asString "message"
  let e := LogEntry.new localStamp level component message
  let e ← match j.field? "error_code" with
    | some (.str c) => pure (e.withErrorCode c)
    | some _ => throw "error_code must be a string"
    | none => pure e
  let pairs ← match j.field? "context" with
    | some (.arr ps) => pure ps
    | some _ => throw contextRefused
    | none => pure []
  let e ← pairs.foldlM (fun (e : LogEntry) p => do
    match p with
    | .arr [.str k, v] => pure (e.withContext k v)
    | _ => throw contextRefused) e
  pure (okAnswer (stripStamp (reread e.toJson)))
where
  contextRefused : String := "context must be a list of [key, value]"

/-- Where a directly driven logger writes: the error stream, a captured memory descriptor, or
a descriptor of the process. -/
inductive LoggerOutput where
  | none
  | memory
  | descriptor (fd : Int32)

/-- The descriptor number of the captured memory descriptor. -/
def memoryDescriptor : Int32 := 3

/-- Descriptors open in the answering process: the standard streams and the captured one. -/
def openHere (fd : Int32) : Bool := fd == 0 || fd == 1 || fd == 2 || fd == memoryDescriptor

/-- A record of a logger request. -/
def recordOf (j : Json) : Decode Record := do
  let level ← field j "level" >>= levelOf
  let target ← field j "target" >>= asString "target"
  let message ← field j "message" >>= asString "message"
  let file := match j.field? "file" with
    | some (.str f) => some f
    | _ => none
  let line := match j.field? "line" with
    | some (.num (.nat l)) => some (l.toNat % Nat.pow 2 32)
    | _ => none
  pure ⟨level, target, message, file, line⟩

/-- A trace target as a JSON value names it: `"none"`, `"console"`, or an object whose one key
`descriptor` holds a 32-bit descriptor; a target without data may also be an object whose one
key holds `null`. -/
def traceTargetOfValue? : Json → Option TraceTarget
  | .str "none" => some .off
  | .str "console" => some .console
  | .obj [("none", .null)] => some .off
  | .obj [("console", .null)] => some .console
  | .obj [("descriptor", v)] =>
    match intValue? v with
    | some n => if fitsInt32 n then some (.descriptor (Int32.ofInt n)) else none
    | none => none
  | _ => none

/-- Answer a logger request. -/
def loggerRequest (j : Json) : Decode Json := do
  let output ← match j.field? "trace" with
    | none => pure LoggerOutput.none
    | some (.str "memfd") => pure .memory
    | some t =>
      match traceTargetOfValue? t with
      | some .off => pure .none
      | some .console => throw "console output would write into the answer stream"
      | some (.descriptor fd) =>
        if fd == 1 then throw "descriptor 1 would write into the answer stream"
        else pure (.descriptor fd)
      | none => throw "trace output must be 'none', 'console' or \x7b\"descriptor\": fd\x7d"
  let target : TraceTarget := match output with
    | .none => .off
    | .memory => .descriptor memoryDescriptor
    | .descriptor fd => .descriptor fd
  let logger ← match j.field? "component" with
    | some c => do
      let component ← match c with
        | .str s => pure s
        | _ => throw "component must be a string"
      let level ← field j "level" >>= levelOf
      match Sink.open openHere target with
      | .ok sink => pure (Except.ok (Logger.mk component level sink))
      | .error f => pure (.error f)
    | none => pure (Logger.forConfig openHere (Config.default.withTrace target))
  match logger with
  | .error f => pure (faultAnswer f)
  | .ok g =>
    let records ← field j "records" >>= listOf "records" recordOf
    let formatted := records.map (fun r => stripStamp (g.format localStamp r).toJson)
    let lines := records.filterMap (g.line localStamp)
    let written := if g.sink == .descriptor memoryDescriptor then
        lines.filterMap (fun l => match Json.parse l with
          | .ok e => some (stripStamp e)
          | .error _ => none)
      else []
    pure (okAnswer (.obj [("enabled", .arr (records.map (fun r => .bool (g.enabled r.level)))),
      ("formatted", .arr formatted), ("min_level", .str g.threshold.name), ("written", .arr written)]))

end ArrayBridge.Request
