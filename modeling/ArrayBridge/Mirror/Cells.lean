import ArrayBridge.Kind

/-
  Runs of elements as they cross between native memory and a managed array: 32-bit integers,
  doubles or bytes. Integer, real and raw vectors travel as themselves; a logical vector travels
  as its packed bytes. How a finished buffer goes back to the runtime is a `ReleaseMode`.
-/

namespace ArrayBridge

/-- The element type of a run of cells. -/
inductive CellType where
  | int
  | real
  | raw
  deriving DecidableEq, Repr, Inhabited

/-- The name of a cell type in host-call records. -/
def CellType.name : CellType → String
  | .int => "int"
  | .real => "real"
  | .raw => "raw"

/-- The name of a cell type in the array functions of a managed runtime's native interface. -/
def CellType.title : CellType → String
  | .int => "Int"
  | .real => "Double"
  | .raw => "Byte"

/-- A run of cells of one element type. -/
inductive Cells where
  | int (xs : List Int32)
  | real (xs : List Float)
  | raw (xs : List UInt8)
  deriving Inhabited

namespace Cells

/-- The element type of a run. -/
def cellType : Cells → CellType
  | int _ => .int
  | real _ => .real
  | raw _ => .raw

/-- The number of cells in a run. -/
def length : Cells → Nat
  | int xs => xs.length
  | real xs => xs.length
  | raw xs => xs.length

/-- The bytes of a byte run; other runs hold no bytes. -/
def bytes : Cells → List UInt8
  | raw xs => xs
  | _ => []

/-- A run of `n` zero cells of type `t`. -/
def zeros : CellType → Nat → Cells
  | .int, n => int (List.replicate n 0)
  | .real, n => real (List.replicate n 0)
  | .raw, n => raw (List.replicate n 0)

/-- The `n` bytes a zeroed region of `n` bytes holds once a run is copied into it: the run's
first bytes, and zeros past its end. -/
def region (n : Nat) (c : Cells) : List UInt8 := (c.bytes ++ List.replicate n 0).take n

theorem length_region (n : Nat) (c : Cells) : (c.region n).length = n := by
  simp [region]

theorem length_zeros (t : CellType) (n : Nat) : (zeros t n).length = n := by
  cases t <;> simp [zeros, length]

theorem cellType_zeros (t : CellType) (n : Nat) : (zeros t n).cellType = t := by
  cases t <;> rfl

end Cells

/-- The cells a pass-through kind is lent as; `none` for logical and char. -/
def ElemKind.cells? : ElemKind → Option CellType
  | .integer => some .int
  | .real => some .real
  | .raw => some .raw
  | .logical => none
  | .char => none

theorem ElemKind.cells?_isSome (k : ElemKind) : k.cells?.isSome = k.isPassThrough := by
  cases k <;> rfl

/-- The cells native code sees for a kind: 32-bit integers for integer and logical vectors,
doubles for real vectors, bytes for raw vectors and text. -/
def ElemKind.nativeCells : ElemKind → CellType
  | .integer | .logical => .int
  | .real => .real
  | .raw | .char => .raw

theorem ElemKind.cells?_eq_some (k : ElemKind) (t : CellType) (h : k.cells? = some t) :
    k.nativeCells = t := by
  cases k <;> simp_all [cells?, nativeCells]

/-- How a finished buffer is handed back. -/
inductive ReleaseMode where
  /-- Copy native edits back and report whether the round trip was lossless. -/
  | copyBack
  /-- Free the buffer without copying anything back. -/
  | abort
  deriving DecidableEq, Repr, Inhabited

/-- The name of a mode in host-call records. -/
def ReleaseMode.name : ReleaseMode → String
  | .copyBack => "copy_back"
  | .abort => "abort"

/-- The name of a mode in trace messages. -/
def ReleaseMode.title : ReleaseMode → String
  | .copyBack => "CopyBack"
  | .abort => "Abort"

end ArrayBridge
