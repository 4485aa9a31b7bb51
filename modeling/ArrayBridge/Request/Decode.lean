import ArrayBridge.Json.Value
import ArrayBridge.Json.Writer
import ArrayBridge.Fault

/-
  Requests arrive as JSON objects and answers leave as JSON objects. This module holds the small
  vocabulary both directions share: reading a field of a given shape, with the reason a request
  is refused when it is malformed, and the three answer shapes: a value, a fault of the bridge,
  or a refusal of the request itself.
-/

namespace ArrayBridge.Request

/-- Reading part of a request; an error is the reason the request is refused. -/
abbrev Decode := Except String

/-- A required field of an object. -/
def field (j : Json) (k : String) : Decode Json :=
  match j.field? k with
  | some v => .ok v
  | none => .error s!"missing field '{k}'"

/-- An optional field; `null` counts as absent. -/
def optField (j : Json) (k : String) : Option Json :=
  match j.field? k with
  | some .null => none
  | other => other

/-- A string. -/
def asString (k : String) : Json → Decode String
  | .str s => .ok s
  | _ => .error s!"field '{k}' must be a string"

/-- A boolean. -/
def asBool (k : String) : Json → Decode Bool
  | .bool b => .ok b
  | _ => .error s!"field '{k}' must be a boolean"

/-- A list. -/
def asList (k : String) : Json → Decode (List Json)
  | .arr xs => .ok xs
  | _ => .error s!"field '{k}' must be an array"

/-- An integer that fits a signed 64-bit word. -/
def asInt (k : String) : Json → Decode Int
  | .num (.nat n) => if n.toNat < Nat.pow 2 63 then .ok n.toNat else .error s!"field '{k}' must be an integer"
  | .num (.neg n) => .ok n.toInt
  | _ => .error s!"field '{k}' must be an integer"

/-- A natural number below `2 ^ 64`. -/
def asWord (k : String) : Json → Decode Nat
  | .num (.nat n) => .ok n.toNat
  | _ => .error s!"field '{k}' must be a non-negative integer"

/-- The integer a number holds, if it holds one. -/
def intValue? : Json → Option Int
  | .num (.nat n) => some n.toNat
  | .num (.neg n) => some n.toInt
  | _ => none

/-- Whether an integer fits a signed 32-bit word. -/
def fitsInt32 (n : Int) : Bool := -2147483648 ≤ n && n ≤ 2147483647

/-- A 32-bit signed integer field. -/
def asInt32 (k : String) (j : Json) : Decode Int32 :=
  match intValue? j with
  | some n => if fitsInt32 n then .ok (Int32.ofInt n) else .error s!"field '{k}' must be a 32-bit integer"
  | none => .error s!"field '{k}' must be a 32-bit integer"

/-- A value for a 32-bit integer element. -/
def int32Value (j : Json) : Decode Int32 :=
  match intValue? j with
  | some n => if fitsInt32 n then .ok (Int32.ofInt n) else .error s!"not a 32-bit integer: {j.render}"
  | none => .error s!"not a 32-bit integer: {j.render}"

/-- A value for a byte element. -/
def asByte (j : Json) : Decode UInt8 :=
  match j with
  | .num (.nat n) => if n.toNat ≤ 255 then .ok (UInt8.ofNat n.toNat) else .error s!"not a byte: {j.render}"
  | _ => .error s!"not a byte: {j.render}"

/-- A value for a double element: a number, or one of the texts `NaN`, `Infinity` and
`-Infinity`. -/
def asReal : Json → Decode Float
  | .num (.real x) => .ok x
  | .num (.nat n) => .ok (Float.ofNat n.toNat)
  | .num (.neg n) => .ok (Float.ofInt n.toInt)
  | .str "NaN" => .ok (0.0 / 0.0)
  | .str "Infinity" => .ok (1.0 / 0.0)
  | .str "-Infinity" => .ok (-1.0 / 0.0)
  | j => .error s!"not a real: {j.render}"

/-- A list of elements of one shape. -/
def listOf {α : Type} (what : String) (f : Json → Decode α) (j : Json) : Decode (List α) := do
  let xs ← asList what j
  xs.mapM f

/-- A double in answers: a number when finite, else its name. -/
def realJson (x : Float) : Json :=
  if x.isNaN then .str "NaN"
  else if x.isInf then .str (if x > 0 then "Infinity" else "-Infinity")
  else .num (.real x)

/-- The answer for a value. -/
def okAnswer (v : Json) : Json := .obj [("ok", v)]

/-- The fields that describe a fault. -/
def faultFields (f : Fault) : List (String × Json) :=
  [("code", .str f.code), ("error", .str f.label), ("message", .str f.message)]

/-- The answer for a fault of the bridge. -/
def faultAnswer (f : Fault) : Json := .obj (faultFields f)

/-- The answer for a request that cannot be run. -/
def refusal (reason : String) : Json :=
  .obj [("error", .str "DriverError"), ("message", .str reason)]

/-- The answer for a fallible result. -/
def resultAnswer {α : Type} (enc : α → Json) : Except Fault α → Json
  | .ok v => okAnswer (enc v)
  | .error f => faultAnswer f

end ArrayBridge.Request
