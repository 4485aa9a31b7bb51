/-
  Integers written in decimal, read the strict way: an optional sign, then one or more ASCII
  digits and nothing else; no blanks, no prefix, no separators. A reader for an unsigned type
  accepts a plus sign only. The value must lie in the target range.
-/

namespace ArrayBridge

/-- The value of a string of ASCII digits, if it is one and not empty. -/
def digitsValue? (cs : List Char) : Option Nat :=
  if cs.isEmpty || !cs.all Char.isDigit then none
  else some (cs.foldl (fun acc c => acc * 10 + (c.toNat - 48)) 0)

/-- A signed decimal integer. -/
def readSigned? (s : String) : Option Int :=
  match s.toList with
  | '+' :: rest => (digitsValue? rest).map (fun n => (n : Int))
  | '-' :: rest => (digitsValue? rest).map (fun n => -(n : Int))
  | cs => (digitsValue? cs).map (fun n => (n : Int))

/-- An unsigned decimal integer: a plus sign is allowed, a minus sign is not. -/
def readUnsigned? (s : String) : Option Nat :=
  match s.toList with
  | '+' :: rest => digitsValue? rest
  | cs => digitsValue? cs

/-- A decimal integer that fits in 32 signed bits. -/
def readInt32? (s : String) : Option Int32 :=
  match readSigned? s with
  | some n => if -2147483648 ≤ n ∧ n ≤ 2147483647 then some (Int32.ofInt n) else none
  | none => none

/-- A decimal integer that fits in 64 unsigned bits. -/
def readWord? (s : String) : Option Nat :=
  match readUnsigned? s with
  | some n => if n < Nat.pow 2 64 then some n else none
  | none => none

end ArrayBridge
