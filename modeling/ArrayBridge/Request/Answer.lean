import ArrayBridge.Request.Basic
import ArrayBridge.Request.Session.Run
import ArrayBridge.Request.Direct
import ArrayBridge.Request.Logging
import ArrayBridge.Request.Jvm.Run
import ArrayBridge.Json.Reader

/-
  The front end of the library: one JSON request in, one JSON answer out. The request's `op`
  names what to run; a request that is malformed or names nothing known is refused with the
  reason, and a line that is not JSON at all with the reader's error.
-/

namespace ArrayBridge.Request

open ArrayBridge

/-- The answer to a request. -/
def answer (j : Json) : Json :=
  let run : Decode Json := do
    let op ← field j "op" >>= asString "op"
    match op with
    | "kind" => kindRequest j
    | "kinds" => pure kindsRequest
    | "widen" => widenRequest j
    | "narrow" => narrowRequest j
    | "error_info" => errorInfoRequest j
    | "config_json" => configJsonRequest j
    | "config_env" => configEnvRequest j
    | "config_build" => configBuildRequest j
    | "session" => sessionRequest j
    | "table" => tableRequest j
    | "stack" => stackRequest j
    | "log_entry" => logEntryRequest j
    | "logger" => loggerRequest j
    | "jvm_session" => vmSessionRequest j
    | other => throw s!"unknown op '{other}'"
  match run with
  | .ok a => a
  | .error reason => refusal reason

/-- The answer line to a request line. -/
def answerLine (line : String) : String :=
  match Json.parse line with
  | .ok j => (answer j).render
  | .error e => (refusal ("bad JSON: " ++ e.message)).render

end ArrayBridge.Request
