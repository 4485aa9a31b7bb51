import ArrayBridge.Request.Decode
import ArrayBridge.Config.Json
import ArrayBridge.Config.Env

/-
  Requests about kinds, logical codes, faults and configuration, each answered from one call of
  the library: describing a kind, widening and narrowing logical values, the wording of a fault,
  and reading or building a configuration.
-/

namespace ArrayBridge.Request

open ArrayBridge

/-- The description of a kind. -/
def kindJson (k : ElemKind) : Json :=
  .obj [("code", Json.ofInt k.code.toInt), ("debug", .str k.debugName),
    ("has_backing_array", .bool k.hasBackingArray), ("is_pass_through", .bool k.isPassThrough),
    ("name", .str k.name), ("native_width", Json.ofNat k.width)]

/-- Describe the kind with a type code. -/
def kindRequest (j : Json) : Decode Json := do
  let code ← field j "code" >>= fun c =>
    match asInt32 "code" c with
    | .ok v => pure v
    | .error _ => throw "code must be a 32-bit integer"
  pure (resultAnswer kindJson (ElemKind.ofCode code))

/-- Describe every kind. -/
def kindsRequest : Json := okAnswer (.arr (ElemKind.all.map kindJson))

/-- Widen packed logicals. -/
def widenRequest (j : Json) : Decode Json := do
  let bytes ← field j "values" >>= listOf "values" asByte
  let wide := bytes.map (fun b => Json.ofInt (widenLogical b).toInt)
  pure (okAnswer (.obj [("each", .arr wide), ("values", .arr wide)]))

/-- Narrow native logicals. -/
def narrowRequest (j : Json) : Decode Json := do
  let vs ← field j "values" >>= listOf "values" int32Value
  let (bytes, complete) := narrowLogicals vs
  let each := vs.map (fun v =>
    let (b, exact) := narrowLogical v
    Json.arr [Json.ofNat b.toNat, .bool exact])
  pure (okAnswer (.obj [("complete", .bool complete), ("each", .arr each),
    ("values", .arr (bytes.map (fun b => Json.ofNat b.toNat)))]))

/-- A kind given by name. -/
def kindByName (name : String) : Decode ElemKind :=
  match ElemKind.all.find? (fun k => k.name == name) with
  | some k => .ok k
  | none => .error s!"unknown kind '{name}'"

/-- The fault a request describes by its cause and fields. -/
def faultOf (j : Json) : Decode Fault := do
  let variant ← field j "variant" >>= asString "variant"
  let str (k : String) : Decode String := field j k >>= asString k
  let word (k : String) : Decode Nat := field j k >>= asWord k
  match variant with
  | "Binding" => return .binding (← str "what") (← str "name") (← str "reason")
  | "TableGrowth" => return .tableGrowth (← str "table") (← word "capacity")
  | "CallDepthOverflow" => return .callDepthOverflow (← word "depth") (← word "max")
  | "UnexpectedKind" => return .unexpectedKind (← str "text")
  | "NoActiveCall" => return .noActiveCall (← str "text")
  | "CrossFrameRefresh" => return .crossFrameRefresh (← word "index") (← word "frame_hwm")
  | "InvalidReference" => return .invalidReference (← str "text")
  | "PinFailed" => return .pinFailed (← kindByName (← str "kind"))
  | "PendingException" => return .pendingException (← str "text")
  | "Host" => return .host (← str "operation") (← str "message")
  | "InteriorNul" => return .interiorNul (← word "position")
  | "Configuration" => return .configuration (← str "text")
  | "Io" => return .io (← str "text")
  | other => throw s!"unknown variant '{other}'"

/-- The wording, code and severity of a fault. -/
def errorInfoRequest (j : Json) : Decode Json := do
  let f ← faultOf j
  pure (okAnswer (.obj [("code", .str f.code), ("fatal", .bool f.isFatal),
    ("message", .str f.message), ("variant", .str f.label)]))

/-- Read a configuration from JSON text. -/
def configJsonRequest (j : Json) : Decode Json := do
  let text ← field j "json" >>= asString "json"
  pure (resultAnswer Config.toJson (Config.ofJsonText text))

/-- Read a configuration from variables. -/
def configEnvRequest (j : Json) : Decode Json := do
  let env ← match ← field j "env" with
    | .obj fs => pure (fs.filterMap fun (k, v) =>
        match v with
        | .str s => some (k, s)
        | _ => none)
    | _ => throw "env must be an object"
  pure (resultAnswer Config.toJson (Config.ofLookup (fun k => env.lookup k)))

/-- A trace target given in a request. -/
def traceTargetOf : Json → Decode TraceTarget
  | .str "none" => .ok .off
  | .str "console" => .ok .console
  | j => do
    let fd ← field j "descriptor" >>= asInt32 "descriptor"
    pure (.descriptor fd)

/-- Apply one builder step to a configuration. -/
def buildStep (c : Config) (step : Json) : Decode Config := do
  match ← asList "step" step with
  | [.str "trace_output", v] => return c.withTrace (← traceTargetOf v)
  | [.str "validate_references", v] => return c.withValidateRefs (← asBool "value" v)
  | [.str "max_call_depth", v] => return c.withMaxCallDepth (← asWord "value" v)
  | [.str "initial_table_capacity", v] => return c.withTableCapacity (← asWord "value" v)
  | _ => throw "unknown builder step"

/-- Build a configuration step by step from the defaults. -/
def configBuildRequest (j : Json) : Decode Json := do
  let steps ← field j "steps" >>= asList "steps"
  let c ← steps.foldlM buildStep Config.default
  let checked := match c.check with
    | .ok () => Json.null
    | .error f => faultAnswer f
  pure (okAnswer (.obj [("config", c.toJson), ("trace_enabled", .bool c.trace.isEnabled),
    ("validate", checked)]))

end ArrayBridge.Request
