import ArrayBridge.Config.Basic
import ArrayBridge.Json.Reader
import ArrayBridge.Json.Writer
import ArrayBridge.Text.Quote

/-
  Configuration from JSON text, read in one pass with the wording and positions of a strict
  typed reader. The text is an object whose known fields replace the defaults (unknown fields
  are skipped, a repeated known field is an error), or a list of the six settings in field
  order, missing trailing ones taking their defaults. The trace target is `"none"`,
  `"console"`, `{"descriptor": n}` or a one-field object naming a variant. A value of the wrong
  JSON type is reported with what was found and what was expected (`invalid type: string "4",
  expected usize`), a number out of range as an invalid value. Reading stops at the first error;
  after the value only blanks may follow. A configuration read this way must still pass
  `Config.check`.
-/

namespace ArrayBridge

/-- What a typed reader found instead of what it expected. -/
inductive Unexpected where
  | null
  | bool (b : Bool)
  | nat (n : Nat)
  | int (n : Int)
  | real (x : Float)
  | str (s : String)
  | list
  | map
  | unitVariant

/-- How a found value is named in messages. -/
def Unexpected.text : Unexpected → String
  | .null => "null"
  | .bool b => "boolean `" ++ toString b ++ "`"
  | .nat n => "integer `" ++ toString n ++ "`"
  | .int n => "integer `" ++ toString n ++ "`"
  | .real x => "floating point `" ++ floatText x ++ "`"
  | .str s => "string " ++ debugQuote s
  | .list => "sequence"
  | .map => "map"
  | .unitVariant => "unit variant"

/-- What a read number is, as found. -/
def Unexpected.ofNumber : Number → Unexpected
  | .nat n => .nat n.toNat
  | .neg n => .int n.toInt
  | .real x => .real x

/-- A value of the wrong JSON type; placed later. -/
def invalidType (u : Unexpected) (expected : String) : ReadError :=
  let found := u.text
  { issue := .custom s!"invalid type: {found}, expected {expected}" }

/-- A value of the right type outside the range; placed later. -/
def invalidValue (u : Unexpected) (expected : String) : ReadError :=
  let found := u.text
  { issue := .custom s!"invalid value: {found}, expected {expected}" }

/-- The error for a value of the wrong type at `i`, reading the value to name it. -/
def peekInvalidType (s : Src) (i : Nat) (expected : String) : ReadError :=
  let fail (u : Unexpected) (j : Nat) : ReadError := (invalidType u expected).place s j
  let lift (r : Except ReadError ReadError) : ReadError :=
    match r with
    | .ok e => e
    | .error e => e
  match s.at? i with
  | some c =>
    if c == 0x6E then lift ((s.expectWord [0x75, 0x6C, 0x6C] (i + 1)).map (fail .null))
    else if c == 0x74 then lift ((s.expectWord [0x72, 0x75, 0x65] (i + 1)).map (fail (.bool true)))
    else if c == 0x66 then
      lift ((s.expectWord [0x61, 0x6C, 0x73, 0x65] (i + 1)).map (fail (.bool false)))
    else if c == 0x2D then
      lift ((parseInteger s false (i + 1)).map (fun (n, j) => fail (.ofNumber n) j))
    else if Src.isDigit c then
      lift ((parseInteger s true i).map (fun (n, j) => fail (.ofNumber n) j))
    else if c == 0x22 then lift ((parseString s (i + 1)).map (fun (t, j) => fail (.str t) j))
    else if c == 0x5B then fail .list i
    else if c == 0x7B then fail .map i
    else lift (s.peekError i .expectedValue)
  | none => lift (s.peekError i .expectedValue)

/-- A typed reading step: its value and the index after it, or an error and the index where
reading stopped (where an unplaced error is placed by the caller). -/
abbrev Typed (α : Type) := Except (ReadError × Nat) (α × Nat)

/-- A step whose errors are all placed. -/
def Typed.ofScan {α : Type} (r : Scan α) : Typed α :=
  match r with
  | .ok v => .ok v
  | .error e => .error (e, 0)

/-- Read a number and classify it, for an integer field. -/
def readNumberAt (s : Src) (i : Nat) (expected : String) : Scan Number :=
  let i := s.skipBlank i
  match s.at? i with
  | none => s.peekError i .eofInValue
  | some c =>
    if c == 0x2D then parseInteger s false (i + 1)
    else if Src.isDigit c then parseInteger s true i
    else .error (peekInvalidType s i expected)

/-- Read an unsigned 64-bit integer. -/
def readWordAt (s : Src) (i : Nat) : Scan Nat :=
  match readNumberAt s i "usize" with
  | .error e => .error e
  | .ok (.nat v, j) => .ok (v.toNat, j)
  | .ok (.neg v, j) => .error ((invalidValue (.int v.toInt) "usize").place s j)
  | .ok (.real x, j) => .error ((invalidType (.real x) "usize").place s j)

/-- Read a signed 32-bit integer. -/
def readInt32At (s : Src) (i : Nat) : Scan Int32 :=
  match readNumberAt s i "i32" with
  | .error e => .error e
  | .ok (.nat v, j) =>
    if v.toNat ≤ 2147483647 then .ok (Int32.ofNat v.toNat, j)
    else .error ((invalidValue (.nat v.toNat) "i32").place s j)
  | .ok (.neg v, j) =>
    if -2147483648 ≤ v.toInt then .ok (Int32.ofInt v.toInt, j)
    else .error ((invalidValue (.int v.toInt) "i32").place s j)
  | .ok (.real x, j) => .error ((invalidType (.real x) "i32").place s j)

/-- Read a boolean. -/
def readBoolAt (s : Src) (i : Nat) : Scan Bool :=
  let i := s.skipBlank i
  match s.at? i with
  | none => s.peekError i .eofInValue
  | some c =>
    if c == 0x74 then (s.expectWord [0x72, 0x75, 0x65] (i + 1)).map (fun j => (true, j))
    else if c == 0x66 then (s.expectWord [0x61, 0x6C, 0x73, 0x65] (i + 1)).map (fun j => (false, j))
    else .error (peekInvalidType s i "a boolean")

/-- Read the content of a variant without data: `null`. -/
def readUnitAt (s : Src) (i : Nat) : Scan Unit :=
  let i := s.skipBlank i
  match s.at? i with
  | none => s.peekError i .eofInValue
  | some c =>
    if c == 0x6E then (s.expectWord [0x75, 0x6C, 0x6C] (i + 1)).map (fun j => ((), j))
    else .error (peekInvalidType s i "unit")

/-- The names of the trace target's variants. -/
def traceVariants : List String := ["none", "console", "descriptor"]

/-- Read the name of a trace target's variant. -/
def readVariantAt (s : Src) (i : Nat) : Scan String :=
  let i := s.skipBlank i
  match s.at? i with
  | none => s.peekError i .eofInValue
  | some c =>
    if c == 0x22 then
      match parseString s (i + 1) with
      | .error e => .error e
      | .ok (name, j) =>
        if traceVariants.contains name then .ok (name, j)
        else
          let msg := s!"unknown variant `{name}`, expected one of `none`, `console`, `descriptor`"
          .error (({ issue := .custom msg } : ReadError).place s j)
    else .error (peekInvalidType s i "variant identifier")

/-- Read the colon after an object key. -/
def readColonAt (s : Src) (i : Nat) : Except ReadError Nat :=
  let i := s.skipBlank i
  match s.at? i with
  | some 0x3A => .ok (i + 1)
  | some _ => s.peekError i .expectedColon
  | none => s.peekError i .eofInObject

/-- The data-less trace target a variant name stands for. -/
def unitTarget (name : String) : TraceTarget :=
  if name == "none" then .off else .console

/-- Read a trace target: a variant name, or an object of one variant and its content. -/
def readTraceAt (s : Src) (i : Nat) : Typed TraceTarget :=
  let i := s.skipBlank i
  match s.at? i with
  | some 0x7B =>
    Typed.ofScan <|
      match readVariantAt s (i + 1) with
      | .error e => .error e
      | .ok (name, j) =>
        match readColonAt s j with
        | .error e => .error e
        | .ok j =>
          let content : Scan TraceTarget :=
            if name == "descriptor" then (readInt32At s j).map (fun (fd, k) => (.descriptor fd, k))
            else (readUnitAt s j).map (fun (_, k) => (unitTarget name, k))
          match content with
          | .error e => .error e
          | .ok (t, k) =>
            let k := s.skipBlank k
            match s.at? k with
            | some 0x7D => .ok (t, k + 1)
            | some _ => s.error k .expectedValue
            | none => s.error k .eofInObject
  | some 0x22 =>
    match readVariantAt s i with
    | .error e => .error (e, 0)
    | .ok (name, j) =>
      if name == "descriptor" then .error (invalidType .unitVariant "newtype variant", j)
      else .ok (unitTarget name, j)
  | some _ => Typed.ofScan (s.peekError i .expectedValue)
  | none => Typed.ofScan (s.peekError i .eofInValue)

/-- The settings found so far while reading. -/
structure ConfigFields where
  trace : Option TraceTarget := none
  validateRefs : Option Bool := none
  embedded : Option Bool := none
  maxCallDepth : Option Nat := none
  tableCapacity : Option Nat := none
  refCapacity : Option Nat := none

/-- The configuration with the found settings over the defaults. -/
def ConfigFields.toConfig (f : ConfigFields) : Config :=
  { trace := f.trace.getD .off
    validateRefs := f.validateRefs.getD false
    embedded := f.embedded.getD false
    maxCallDepth := f.maxCallDepth.getD 16
    tableCapacity := f.tableCapacity.getD 64
    refCapacity := f.refCapacity.getD 64 }

/-- The error for a known field given twice; placed later. -/
def duplicateField (name : String) : ReadError :=
  { issue := .custom s!"duplicate field `{name}`" }

/-- Whether a known field has been read already. -/
def ConfigFields.has (f : ConfigFields) (name : String) : Bool :=
  (name == "trace_output" && f.trace.isSome)
    || (name == "validate_references" && f.validateRefs.isSome)
    || (name == "embedded" && f.embedded.isSome)
    || (name == "max_call_depth" && f.maxCallDepth.isSome)
    || (name == "initial_table_capacity" && f.tableCapacity.isSome)
    || (name == "initial_ref_capacity" && f.refCapacity.isSome)

/-- Read one field's value into the settings, after its key ending at `k`. -/
def readField (s : Src) (f : ConfigFields) (name : String) (k : Nat) : Typed ConfigFields :=
  let scalar {α : Type} (r : Scan α) (set : α → ConfigFields) : Typed ConfigFields :=
    match r with
    | .ok (v, j) => .ok (set v, j)
    | .error e => .error (e, 0)
  if f.has name then .error (duplicateField name, k)
  else
    match readColonAt s k with
    | .error e => .error (e, 0)
    | .ok j =>
      if name == "trace_output" then
        (readTraceAt s j).map (fun (t, m) => ({ f with trace := some t }, m))
      else if name == "validate_references" then
        scalar (readBoolAt s j) (fun b => { f with validateRefs := some b })
      else if name == "embedded" then
        scalar (readBoolAt s j) (fun b => { f with embedded := some b })
      else if name == "max_call_depth" then
        scalar (readWordAt s j) (fun n => { f with maxCallDepth := some n })
      else if name == "initial_table_capacity" then
        scalar (readWordAt s j) (fun n => { f with tableCapacity := some n })
      else if name == "initial_ref_capacity" then
        scalar (readWordAt s j) (fun n => { f with refCapacity := some n })
      else
        match skipValue s j with
        | .ok m => .ok (f, m)
        | .error e => .error (e, 0)

/-- Read the fields of an object up to its closing brace, which is left unread. -/
def readFields (s : Src) : Nat → ConfigFields → Bool → Nat → Typed ConfigFields
  | 0, _, _, _ => .error ({ issue := .custom "too many fields" }, 0)
  | fuel + 1, f, first, i =>
    let i := s.skipBlank i
    let start : Except ReadError (Option Nat) :=
      match s.at? i with
      | some 0x7D => .ok none
      | some 0x2C => if first then .ok (some i) else .ok (some (s.skipBlank (i + 1)))
      | some _ => if first then .ok (some i) else s.peekError i .expectedObjectCommaOrEnd
      | none => s.peekError i .eofInObject
    match start with
    | .error e => .error (e, 0)
    | .ok none => .ok (f, i)
    | .ok (some j) =>
      let key : Scan String :=
        match s.at? j with
        | some 0x22 => parseString s (j + 1)
        | some 0x7D => s.peekError j .trailingComma
        | some _ => s.peekError j .keyMustBeString
        | none => s.peekError j .eofInValue
      match key with
      | .error e => .error (e, 0)
      | .ok (name, k) =>
        match readField s f name k with
        | .error e => .error e
        | .ok (f, m) => readFields s fuel f false m

/-- The start of the next list element, or none at the closing bracket. -/
def nextElement (s : Src) (first : Bool) (i : Nat) : Except ReadError (Option Nat) :=
  let i := s.skipBlank i
  match s.at? i with
  | some 0x5D => .ok none
  | some 0x2C =>
    if first then .ok (some i)
    else
      let j := s.skipBlank (i + 1)
      match s.at? j with
      | some 0x5D => s.peekError j .trailingComma
      | some _ => .ok (some j)
      | none => s.peekError j .eofInValue
  | some _ => if first then .ok (some i) else s.peekError i .expectedListCommaOrEnd
  | none => s.peekError i .eofInList

/-- Read one list element of the settings, in field order, if the list has one more. -/
def readElement {α : Type} (s : Src) (first : Bool) (i : Nat) (r : Nat → Typed α) :
    Typed (Option α) :=
  match nextElement s first i with
  | .error e => .error (e, 0)
  | .ok none => .ok (none, i)
  | .ok (some j) => (r j).map (fun (v, k) => (some v, k))

/-- A reading step whose errors are all placed, as a typed step. -/
def scalarAt {α : Type} (r : Nat → Scan α) : Nat → Typed α := fun j => Typed.ofScan (r j)

/-- Read the settings given as a list, up to its closing bracket, which is left unread. -/
def readList (s : Src) (i : Nat) : Except (ReadError × Nat) (ConfigFields × Nat) := do
  let (t, i) ← readElement s true i (readTraceAt s)
  let (v, i) ← readElement s false i (scalarAt (readBoolAt s))
  let (e, i) ← readElement s false i (scalarAt (readBoolAt s))
  let (d, i) ← readElement s false i (scalarAt (readWordAt s))
  let (tc, i) ← readElement s false i (scalarAt (readWordAt s))
  let (rc, i) ← readElement s false i (scalarAt (readWordAt s))
  pure ({ trace := t, validateRefs := v, embedded := e, maxCallDepth := d, tableCapacity := tc,
          refCapacity := rc }, i)

/-- After a list: its closing bracket, or the error for what stands there, and where reading
stopped. -/
def closeList (s : Src) (i : Nat) : Option ReadError × Nat :=
  let i := s.skipBlank i
  match s.at? i with
  | some 0x5D => (none, i + 1)
  | some 0x2C =>
    let j := s.skipBlank (i + 1)
    let issue := if s.at? j == some 0x5D then ReadIssue.trailingComma else .trailingCharacters
    match (s.peekError j issue : Except ReadError Unit) with
    | .error e => (some e, j)
    | .ok _ => (none, j)
  | some _ =>
    match (s.peekError i .trailingCharacters : Except ReadError Unit) with
    | .error e => (some e, i)
    | .ok _ => (none, i)
  | none =>
    match (s.peekError i .eofInList : Except ReadError Unit) with
    | .error e => (some e, i)
    | .ok _ => (none, i)

/-- After an object's fields: its closing brace, or the error for what stands there, and where
reading stopped. -/
def closeObject (s : Src) (i : Nat) : Option ReadError × Nat :=
  let i := s.skipBlank i
  let fail (issue : ReadIssue) : Option ReadError × Nat :=
    match (s.peekError i issue : Except ReadError Unit) with
    | .error e => (some e, i)
    | .ok _ => (none, i)
  match s.at? i with
  | some 0x7D => (none, i + 1)
  | some 0x2C => fail .trailingComma
  | some _ => fail .trailingCharacters
  | none => fail .eofInObject

/-- Read the settings at `i`, with the index after them. -/
def readConfigAt (s : Src) (i : Nat) : Except ReadError (ConfigFields × Nat) :=
  let i := s.skipBlank i
  let finish (r : Typed ConfigFields) (close : Nat → Option ReadError × Nat) :
      Except ReadError (ConfigFields × Nat) :=
    let stop := match r with
      | .ok (_, j) => j
      | .error (_, j) => j
    let (closed, k) := close stop
    match r, closed with
    | .error (e, _), _ => .error (e.place s k)
    | .ok _, some e => .error e
    | .ok (f, _), none => .ok (f, k)
  match s.at? i with
  | none => s.peekError i .eofInValue
  | some c =>
    if c == 0x7B then finish (readFields s (s.size + 1) {} true (i + 1)) (closeObject s)
    else if c == 0x5B then finish (readList s (i + 1)) (closeList s)
    else .error (peekInvalidType s i "struct BridgeConfig")

namespace Config

/-- Read a configuration from JSON text and check it. -/
def ofJsonText (text : String) : Except Fault Config :=
  let s : Src := text.toUTF8
  match readConfigAt s 0 with
  | .error e => .error (.configuration e.message)
  | .ok (f, i) =>
    let i := s.skipBlank i
    if i < s.size then
      match (s.peekError i .trailingCharacters : Except ReadError Unit) with
      | .error e => .error (.configuration e.message)
      | .ok _ => .error (.configuration "trailing characters")
    else
      let c := f.toConfig
      match c.check with
      | .error e => .error e
      | .ok () => .ok c

end Config

end ArrayBridge
