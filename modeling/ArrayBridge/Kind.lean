/-
  Element kinds of managed vectors, and the logical-value codes on both sides of the boundary.
  Each kind has a type code of the C interface, a printed name and the width of one element as
  native code sees it. Logical vectors are packed one byte per element on the managed side and
  widened to 32-bit integers for native code: 0 and 1 keep their value, every other byte becomes
  the native missing value. Narrowing is exact on 0 and 1 and stores the managed missing byte
  otherwise; `narrow_widen` says that widening then narrowing keeps every byte 0 or 1.
-/

namespace ArrayBridge

/-- The kinds of vector that can be lent to native code. -/
inductive ElemKind where
  | integer
  | real
  | raw
  | logical
  | char
  deriving DecidableEq, Repr, Inhabited

namespace ElemKind

/-- Every kind, in the order of the C interface's tables. -/
def all : List ElemKind := [.integer, .real, .raw, .logical, .char]

/-- The type code of the C interface. -/
def code : ElemKind → Int32
  | .integer => 13
  | .real => 14
  | .raw => 24
  | .logical => 10
  | .char => 9

/-- The kind with a given type code, if any. -/
def ofCode? (c : Int32) : Option ElemKind :=
  all.find? (fun k => k.code == c)

/-- The lower-case name used in messages. -/
def name : ElemKind → String
  | .integer => "integer"
  | .real => "real"
  | .raw => "raw"
  | .logical => "logical"
  | .char => "char"

/-- The capitalised name used in debugging output. -/
def debugName : ElemKind → String
  | .integer => "Integer"
  | .real => "Real"
  | .raw => "Raw"
  | .logical => "Logical"
  | .char => "Char"

/-- Bytes of one element as native code sees it. -/
def width : ElemKind → Nat
  | .integer | .logical => 4
  | .real => 8
  | .raw | .char => 1

/-- Whether the lent buffer stands for a managed primitive array. -/
def hasBackingArray : ElemKind → Bool
  | .char => false
  | _ => true

/-- Whether the runtime's own storage can be lent out as it is. -/
def isPassThrough : ElemKind → Bool
  | .integer | .real | .raw => true
  | _ => false

theorem ofCode?_code (k : ElemKind) : ofCode? k.code = some k := by
  cases k <;> rfl

theorem code_injective {a b : ElemKind} (h : a.code = b.code) : a = b := by
  have := ofCode?_code a
  rw [h, ofCode?_code b] at this
  exact (Option.some.inj this).symm

end ElemKind

/-- Managed code of a logical false. -/
def managedFalse : UInt8 := 0
/-- Managed code of a logical true. -/
def managedTrue : UInt8 := 1
/-- Managed code of a missing logical. -/
def managedMissing : UInt8 := 255
/-- Native missing value of integers and logicals. -/
def nativeMissing : Int32 := Int32.minValue

/-- Widen one packed logical to its native value. -/
def widenLogical (b : UInt8) : Int32 :=
  if b = managedFalse then 0 else if b = managedTrue then 1 else nativeMissing

/-- Narrow one native logical; the flag is false when the value had to become missing. -/
def narrowLogical (v : Int32) : UInt8 × Bool :=
  if v = 0 then (managedFalse, true) else if v = 1 then (managedTrue, true)
  else (managedMissing, false)

/-- Narrow native logicals, with whether every value was 0 or 1. -/
def narrowLogicals (vs : List Int32) : List UInt8 × Bool :=
  (vs.map (fun v => (narrowLogical v).1), vs.all (fun v => (narrowLogical v).2))

theorem narrow_widen (b : UInt8) (h : b = 0 ∨ b = 1) : (narrowLogical (widenLogical b)).1 = b := by
  rcases h with rfl | rfl <;> decide

theorem narrowLogical_exact_iff (v : Int32) : (narrowLogical v).2 = true ↔ v = 0 ∨ v = 1 := by
  unfold narrowLogical
  by_cases h0 : v = 0
  · simp [h0]
  · by_cases h1 : v = 1
    · simp [h1]
    · simp [h0, h1]

end ArrayBridge
