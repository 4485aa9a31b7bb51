import ArrayBridge.Request.Basic
import ArrayBridge.Mirror.Cells

/-
  The steps of a session, read from their JSON form. A step is read in full before the session
  starts, but a malformed step is kept as `refused` and refuses the session only when it is
  reached, so a session that ends earlier (a fatal error) answers normally. A kind given by type
  code is decoded when the step runs: an unknown code is a fault of that step.
-/

namespace ArrayBridge.Request

/-- A kind as a step gives it: by name, or by a type code that may be unknown. -/
abbrev KindArg := Except Fault ElemKind

/-- New contents for an object. -/
inductive Fill where
  | cells (c : Cells)
  | text (bytes : List UInt8)

/-- One step of a session. References, arrays and held buffers are given by number. -/
inductive Step where
  | newArray (cells : Cells)
  | newText (bytes : List UInt8)
  | aliasRef (ref : Nat)
  | reallocate (ref : Nat)
  | replace (ref : Nat) (fill : Fill)
  | set (ref : Nat) (values : List Json)
  | get (ref : Nat)
  | invalidateRef (ref : Nat)
  | hostFail (operations : List String)
  | enter (token : Nat)
  | exit
  | exitTo (depth : Nat)
  | recovery
  | acquire (ref : Nat) (kind : KindArg)
  /-- Store values through what `acquire` answers; the index and the values are read only once
  the acquisition succeeded, and only the values that fit. -/
  | write (ref : Nat) (kind : KindArg) (index : Option Json) (values : Option Json)
  | invalidate (ref : Nat)
  | release (index : Nat) (mode : ReleaseMode)
  | refresh (ref : Nat)
  | refreshAll
  | push (ref : Nat)
  | pushAll
  | refCreate (ref : Nat) (permanent : Bool)
  | refFind (ref : Nat)
  | refCheck (ref : Nat)
  | refRelease (ref : Nat)
  | fail (message : String)
  | panic (message : String)
  | withCall (token : Nat) (ops : List Step)
  | scope (token : Nat) (ops : List Step) (exit : Bool)
  | config
  | codecExtract (ref : Nat) (kind : KindArg)
  | codecPush (slot : Nat) (kind : Option KindArg) (noArray : Bool)
  | codecRefresh (slot : Nat) (kind : Option KindArg) (array : Option Nat) (noArray : Bool)
  | codecRelease (slot : Nat) (mode : ReleaseMode) (kind : Option KindArg) (noArray : Bool)
  /-- A malformed step, with the reason. -/
  | refused (reason : String)

/-- A kind by name, or by a type code decoded later. -/
def kindArg : Json → Decode KindArg
  | .str name => return .ok (← kindByName name)
  | j =>
    match intValue? j with
    | some n => if fitsInt32 n then .ok (ElemKind.ofCode (Int32.ofInt n)) else kindRefused
    | none => kindRefused
where
  kindRefused : Decode KindArg := .error "field 'kind' must be a kind name or a 32-bit type code"

/-- A release mode by name. -/
def modeOf (j : Json) : Decode ReleaseMode := do
  match ← asString "mode" j with
  | "copy_back" => pure .copyBack
  | "abort" => pure .abort
  | other => throw s!"unknown mode '{other}'"

/-- The `text` field: a string. -/
def textField (j : Json) : Decode String := asString "text" j

/-- Bytes given as a text (its UTF-8 encoding) or as a list; a text, when present, wins. -/
def bytesOf (j : Json) : Decode (List UInt8) := do
  match j.field? "text" with
  | some t => pure (← textField t).toUTF8.toList
  | none => field j "bytes" >>= listOf "bytes" asByte

/-- Values of one element type. -/
def cellsOf (t : CellType) (j : Json) : Decode Cells :=
  match t with
  | .int => Cells.int <$> listOf "values" int32Value j
  | .real => Cells.real <$> listOf "values" asReal j
  | .raw => Cells.raw <$> listOf "values" asByte j

/-- The `index` of a write, read once its target is known; 0 when absent. -/
def indexOf : Option Json → Decode Nat
  | none => .ok 0
  | some j => asWord "index" j

/-- The `values` of a write, read once its target is known. -/
def valuesOf : Option Json → Decode (List Json)
  | none => .error "missing field 'values'"
  | some j => asList "values" j

/-- Overwrite elements from `index` on with values read by `f`, reading only the values that
fit; answers the elements and how many values fit. -/
def overwriteWith {α : Type} (f : Json → Decode α) (xs : List α) (index : Nat)
    (vs : List Json) : Decode (List α × Nat) := do
  let n := min vs.length (xs.length - index)
  let ys ← (vs.take n).mapM f
  pure (xs.take index ++ ys ++ xs.drop (index + n), n)

/-- Overwrite cells from `index` on with values of their own element type, reading only the
values that fit. -/
def fillCells (c : Cells) (index : Nat) (vs : List Json) : Decode (Cells × Nat) :=
  match c with
  | .int xs => (fun (zs, n) => (Cells.int zs, n)) <$> overwriteWith int32Value xs index vs
  | .real xs => (fun (zs, n) => (Cells.real zs, n)) <$> overwriteWith asReal xs index vs
  | .raw xs => (fun (zs, n) => (Cells.raw zs, n)) <$> overwriteWith asByte xs index vs

/-- An optional field read with `f`; `null` is read like any other value. -/
def optionally {α : Type} (j : Json) (k : String) (f : Json → Decode α) : Decode (Option α) :=
  match j.field? k with
  | some v => some <$> f v
  | none => pure none

/-- A flag given leniently: `true` sets it, anything else leaves it clear. -/
def flagOf (j : Json) (k : String) : Bool :=
  match j.field? k with
  | some (.bool b) => b
  | _ => false

/-- Read one step; `inner` reads the steps nested in it. -/
def stepOf (inner : Json → Step) (j : Json) : Decode Step := do
  let op ← field j "op" >>= asString "op"
  let ref : Decode Nat := field j "h" >>= asWord "h"
  let word (k : String) : Decode Nat := field j k >>= asWord k
  let kind : Decode KindArg := field j "kind" >>= kindArg
  let values : Decode (List Json) := field j "values" >>= asList "values"
  let ops : Decode (List Step) := do
    let xs ← field j "ops" >>= asList "ops"
    pure (xs.map inner)
  match op with
  | "new_ints" => return .newArray (← field j "values" >>= cellsOf .int)
  | "new_reals" => return .newArray (← field j "values" >>= cellsOf .real)
  | "new_raw" | "new_logicals" => return .newArray (← field j "values" >>= cellsOf .raw)
  | "new_text" => return .newText (← bytesOf j)
  | "alias" => return .aliasRef (← ref)
  | "reallocate" => return .reallocate (← ref)
  | "replace" =>
    let h ← ref
    match ← field j "type" >>= asString "type" with
    | "ints" => return .replace h (.cells (← field j "values" >>= cellsOf .int))
    | "reals" => return .replace h (.cells (← field j "values" >>= cellsOf .real))
    | "raw" | "logicals" => return .replace h (.cells (← field j "values" >>= cellsOf .raw))
    | "text" => return .replace h (.text (← bytesOf j))
    | other => throw s!"unknown storage type '{other}'"
  | "set" => return .set (← ref) (← values)
  | "get" => return .get (← ref)
  | "invalidate_handle" => return .invalidateRef (← ref)
  | "host_fail" => return .hostFail (← field j "ops" >>= listOf "ops" (asString "ops"))
  | "enter" => return .enter (← word "token")
  | "exit" => return .exit
  | "exit_to" => return .exitTo (← word "depth")
  | "recovery" => return .recovery
  | "acquire" => return .acquire (← ref) (← kind)
  | "write" => return .write (← ref) (← kind) (j.field? "index") (j.field? "values")
  | "invalidate" => return .invalidate (← ref)
  | "release" => return .release (← word "index") (← field j "mode" >>= modeOf)
  | "refresh" => return .refresh (← ref)
  | "refresh_all" => return .refreshAll
  | "push" => return .push (← ref)
  | "push_all" => return .pushAll
  | "gref_create" => return .refCreate (← ref) (← field j "permanent" >>= asBool "permanent")
  | "gref_find" => return .refFind (← ref)
  | "gref_check" => return .refCheck (← ref)
  | "gref_release" => return .refRelease (← ref)
  | "fail" => return .fail (← field j "message" >>= asString "message")
  | "panic" => return .panic (← field j "message" >>= asString "message")
  | "with_call" => return .withCall (← word "token") (← ops)
  | "scope" => return .scope (← word "token") (← ops) (flagOf j "exit")
  | "config" => return .config
  | "codec_extract" => return .codecExtract (← ref) (← kind)
  | "codec_push" =>
    let k ← optionally j "kind" kindArg
    return .codecPush (← word "slot") k (flagOf j "no_array")
  | "codec_refresh" =>
    let k ← optionally j "kind" kindArg
    let array ← optionally j "array" (asWord "array")
    return .codecRefresh (← word "slot") k array (flagOf j "no_array")
  | "codec_release" =>
    let k ← optionally j "kind" kindArg
    return .codecRelease (← word "slot") (← field j "mode" >>= modeOf) k (flagOf j "no_array")
  | other => throw s!"unknown step op '{other}'"

/-- Read a step whose nesting is at most `fuel` deep. -/
def decodeWithin : Nat → Json → Step
  | 0, _ => .refused "steps nested too deeply"
  | fuel + 1, j =>
    match stepOf (decodeWithin fuel) j with
    | .ok s => s
    | .error reason => .refused reason

/-- Read a step and the steps nested in it. -/
def Step.ofJson (j : Json) : Step := decodeWithin (j.depth + 1) j

end ArrayBridge.Request
