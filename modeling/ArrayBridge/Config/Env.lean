import ArrayBridge.Config.Basic
import ArrayBridge.Text.Blank
import ArrayBridge.Text.Integer

/-
  Configuration from environment variables. Four keys are read, in this order: the trace target,
  reference checking, embedded mode and the call depth; the first bad value is the error, and the
  depth rule of `Config.check` comes last. Values are trimmed of blanks first; switches ignore
  ASCII case; a trace descriptor is a non-negative 32-bit integer after `fd:`.
-/

namespace ArrayBridge

/-- Variable naming the trace target. -/
def traceKey : String := "RFFI_TRACE"
/-- Variable switching reference checks. -/
def validateKey : String := "RFFI_VALIDATE_REFS"
/-- Variable switching embedded mode. -/
def embeddedKey : String := "RFFI_EMBEDDED"
/-- Variable giving the maximum call depth. -/
def depthKey : String := "RFFI_MAX_CALL_DEPTH"

namespace TraceTarget

/-- Read a trace target: empty, `none` or `off`; `console` or `stdout`; `fd:` and a descriptor. -/
def ofText (value : String) : Except Fault TraceTarget :=
  let t := trimBlank value
  if t = "" ∨ t = "none" ∨ t = "off" then .ok .off
  else if t = "console" ∨ t = "stdout" then .ok .console
  else
    let bad : Except Fault TraceTarget := .error (.configuration s!"unrecognised trace output '{t}'")
    if t.startsWith "fd:" then
      match readInt32? (String.ofList (t.toList.drop 3)) with
      | some fd => if 0 ≤ fd then .ok (.descriptor fd) else bad
      | none => bad
    else bad

end TraceTarget

/-- Read an on/off switch given under `key`. -/
def readSwitch (key value : String) : Except Fault Bool :=
  let t := (trimBlank value).toLower
  if t = "1" ∨ t = "true" ∨ t = "on" ∨ t = "yes" then .ok true
  else if t = "0" ∨ t = "false" ∨ t = "off" ∨ t = "no" then .ok false
  else .error (.configuration s!"{key} must be on or off, got '{value}'")

/-- Read the maximum call depth. -/
def readDepth (value : String) : Except Fault Nat :=
  match readWord? (trimBlank value) with
  | some n => .ok n
  | none => .error (.configuration s!"{depthKey} must be a number, got '{value}'")

namespace Config

/-- The defaults overridden by the variables that `lookup` finds. -/
def ofLookup (lookup : String → Option String) : Except Fault Config := do
  let c := Config.default
  let c ← match lookup traceKey with
    | some v => do let t ← TraceTarget.ofText v; pure { c with trace := t }
    | none => pure c
  let c ← match lookup validateKey with
    | some v => do let b ← readSwitch validateKey v; pure { c with validateRefs := b }
    | none => pure c
  let c ← match lookup embeddedKey with
    | some v => do let b ← readSwitch embeddedKey v; pure { c with embedded := b }
    | none => pure c
  let c ← match lookup depthKey with
    | some v => do let n ← readDepth v; pure { c with maxCallDepth := n }
    | none => pure c
  c.check
  pure c

end Config

end ArrayBridge
