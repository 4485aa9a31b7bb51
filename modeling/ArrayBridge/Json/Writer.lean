import ArrayBridge.Json.Value
import ArrayBridge.Text.Shortest

/-
  Writing JSON text in compact form. Doubles are written with their shortest digits
  (`Binary.shortest`): positionally with a point when the decimal point falls within the first
  sixteen digits (an integral value ends in `.0`), positionally after `0.` when at most four zeros
  follow the point, and otherwise as digits and an exponent (`1e+30`, `1.5e-7`: the exponent
  signed, not padded). A double without a finite value has no JSON form and is written `null`; in messages
  it reads `NaN`, `inf` or `-inf`. Strings escape the quote, the backslash and the control
  characters, the usual five by name and the rest as four lower-case hex digits.
-/

namespace ArrayBridge

namespace Decimal

/-- Text of a decimal with its digits placed as the double layout says. -/
def layout (d : Decimal) : String :=
  let ds := toString d.digits
  let n : Int := ds.length
  let point := n + d.exponent
  let body :=
    if 0 ≤ d.exponent ∧ point ≤ 16 then
      ds ++ String.ofList (List.replicate d.exponent.toNat '0') ++ ".0"
    else if 0 < point ∧ point ≤ 16 then
      String.ofList (ds.toList.take point.toNat) ++ "." ++ String.ofList (ds.toList.drop point.toNat)
    else if -5 < point ∧ point ≤ 0 then
      "0." ++ String.ofList (List.replicate (-point).toNat '0') ++ ds
    else
      let mant := match ds.toList with
        | [c] => String.singleton c
        | c :: rest => String.singleton c ++ "." ++ String.ofList rest
        | [] => "0"
      let e := point - 1
      mant ++ "e" ++ (if 0 ≤ e then "+" else "") ++ toString e
  (if d.negative then "-" else "") ++ body

end Decimal

/-- Text of a double in the double layout; `NaN`, `inf` and `-inf` for the others. -/
def floatText (x : Float) : String :=
  match Binary.ofFloat? x with
  | some b =>
    if b.mantissa = 0 then (if b.negative then "-0.0" else "0.0")
    else b.shortest.layout
  | none => if x.isNaN then "NaN" else if x > 0 then "inf" else "-inf"

/-- Lower-case hexadecimal digit. -/
def hexDigit (n : Nat) : Char :=
  if n < 10 then Char.ofNat (48 + n) else Char.ofNat (87 + n)

/-- The escaped form of one character inside a JSON string. -/
def escapeChar (c : Char) : String :=
  if c = '"' then "\\\""
  else if c = '\\' then "\\\\"
  else if c = '\n' then "\\n"
  else if c = '\r' then "\\r"
  else if c = '\t' then "\\t"
  else if c = '\x08' then "\\b"
  else if c = '\x0c' then "\\f"
  else if c.toNat < 0x20 then
    "\\u00" ++ String.singleton (hexDigit (c.toNat / 16)) ++ String.singleton (hexDigit (c.toNat % 16))
  else String.singleton c

/-- A string as a JSON string literal. -/
def quoteString (s : String) : String :=
  "\"" ++ String.join (s.toList.map escapeChar) ++ "\""

namespace Number

/-- Text of a number; a double without a finite value is written `null`. -/
def render : Number → String
  | .nat n => toString n.toNat
  | .neg n => toString n.toInt
  | .real x => if x.isNaN || x.isInf then "null" else floatText x

end Number

namespace Json

/-- Compact JSON text of a value. -/
def render : Json → String
  | .null => "null"
  | .bool b => if b then "true" else "false"
  | .num n => n.render
  | .str s => quoteString s
  | .arr items => "[" ++ ",".intercalate (items.attach.map (fun ⟨j, _⟩ => render j)) ++ "]"
  | .obj fields =>
    "\x7b" ++ ",".intercalate (fields.attach.map (fun ⟨(k, v), _⟩ => quoteString k ++ ":" ++ render v))
      ++ "\x7d"
termination_by j => sizeOf j
decreasing_by
  all_goals simp_wf
  · have := List.sizeOf_lt_of_mem ‹_›
    omega
  · rename_i h
    have := List.sizeOf_lt_of_mem h
    simp at this
    omega

end Json

end ArrayBridge
