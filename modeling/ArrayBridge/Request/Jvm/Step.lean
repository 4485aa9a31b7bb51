import ArrayBridge.Request.Session.Step
import ArrayBridge.Jvm.Object
import ArrayBridge.Jvm.Host

/-
  The steps of a session against the virtual machine, read from their JSON form. Steps on the
  managed side change the machine directly; the others call the library's entry points, with
  or without an interface pointer. A reference is given by number, or as `null` for a null
  reference; a kind by name or by type code, which the entry point itself checks. As in other
  sessions a malformed step is kept as `refused` and refuses the session only when reached.
-/

namespace ArrayBridge.Request

open ArrayBridge ArrayBridge.Jvm

/-- One step of a session against the virtual machine. -/
inductive VmStep where
  /-- A new vector; without values it has no array. -/
  | newVector (t : VectorType) (values : Option Cells)
  /-- A new text wrapper; without bytes its field is null. -/
  | newText (bytes : Option (List UInt8))
  | newObject
  | aliasRef (ref : Nat)
  | deleteRef (ref : Nat)
  | reallocate (ref : Nat)
  | replace (ref : Nat) (values : List Json)
  | set (ref : Nat) (values : List Json)
  | get (ref : Nat)
  | fail (operations : List String)
  | throw (cls : String)
  | onload
  | embedded
  /-- Initialise the bridge; the managed side always passes its interface pointer. -/
  | init (x : Ref)
  | enter (env : Env) (token : Nat)
  | exit (env : Env)
  | recovery
  | acquire (env : Env) (x : Ref) (code : Int32)
  /-- Store values through what `acquire` answers; the index and the values are read only once
  the acquisition succeeded, and only the values that fit. -/
  | write (env : Env) (x : Ref) (code : Int32) (index : Option Json) (values : Option Json)
  | invalidate (env : Env) (x : Ref)
  | updateArrays (env : Env)
  | updateObjects (env : Env)
  | updateObject (env : Env) (x : Ref)
  | refCreate (env : Env) (x : Ref) (permanent : Int32)
  | refRelease (env : Env) (x : Ref)
  | refCheck (env : Env) (x : Ref)
  | typeSize (code : Int32)
  /-- A malformed step, with the reason. -/
  | refused (reason : String)

/-- A reference: a number whose pointer fits in a word, or `null`. -/
def refOf : Json → Decode Ref
  | .null => .ok .null
  | j => do
    let n ← asWord "h" j
    match Ref.overflow? n with
    | some reason => throw s!"panic: {reason}"
    | none => pure (.handle n)

/-- A kind as a type code: a kind name, or the code itself. -/
def kindCode : Json → Decode Int32
  | .str name => do pure (← kindByName name).code
  | j =>
    match intValue? j with
    | some n =>
      if fitsInt32 n then .ok (Int32.ofInt n)
      else .error "field 'kind' must be a kind name or a 32-bit type code"
    | none => .error "field 'kind' must be a kind name or a 32-bit type code"

/-- Read one step. -/
def vmStepOf (j : Json) : Decode VmStep := do
  let op ← field j "op" >>= asString "op"
  let env : Env := match j.field? "null_env" with
    | some (.bool true) => .null
    | _ => .live
  let number : Decode Nat := field j "h" >>= asWord "h"
  let ref : Decode Ref := match j.field? "h" with
    | some h => refOf h
    | none => pure .null
  let kind : Decode Int32 := field j "kind" >>= kindCode
  let values : Decode (List Json) := field j "values" >>= asList "values"
  match op with
  | "new_vector" =>
    let name ← field j "type" >>= asString "type"
    match VectorType.ofName? name with
    | some t =>
      match ← field j "values" with
      | .null => return .newVector t none
      | v => return .newVector t (some (← cellsOf t.storage v))
    | none => throw s!"unknown vector type '{name}'"
  | "new_text" =>
    match j.field? "text" with
    | some .null => return .newText none
    | some t => return .newText (some (← textField t).toUTF8.toList)
    | none => return .newText (some (← field j "bytes" >>= listOf "bytes" asByte))
  | "new_object" => return .newObject
  | "alias" => return .aliasRef (← number)
  | "delete_ref" => return .deleteRef (← number)
  | "reallocate" => return .reallocate (← number)
  | "replace" => return .replace (← number) (← values)
  | "set" => return .set (← number) (← values)
  | "get" => return .get (← number)
  | "jvm_fail" => return .fail (← field j "ops" >>= listOf "ops" (asString "ops"))
  | "throw" => return .throw (← field j "class" >>= asString "class")
  | "onload" => return .onload
  | "embedded" => return .embedded
  | "init" =>
    match j.field? "h" with
    | some h => return .init (← refOf h)
    | none => return .init (.handle 0)
  | "enter" => return .enter env (← field j "token" >>= asWord "token")
  | "exit" => return .exit env
  | "recovery" => return .recovery
  | "acquire" => return .acquire env (← ref) (← kind)
  | "write" => return .write env (← ref) (← kind) (j.field? "index") (j.field? "values")
  | "invalidate" => return .invalidate env (← ref)
  | "update_arrays" => return .updateArrays env
  | "update_jobjects" => return .updateObjects env
  | "update_jobject" => return .updateObject env (← ref)
  | "gref_create" =>
    return .refCreate env (← ref) (Int32.ofInt (← field j "permanent" >>= asInt "permanent"))
  | "gref_release" => return .refRelease env (← ref)
  | "check_ref" => return .refCheck env (← ref)
  | "type_size" => return .typeSize (← kind)
  | other => throw s!"unknown step op '{other}'"

/-- Read a step, keeping a malformed one as refused. -/
def VmStep.ofJson (j : Json) : VmStep :=
  match vmStepOf j with
  | .ok s => s
  | .error reason => .refused reason

end ArrayBridge.Request
