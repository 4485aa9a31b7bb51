import ArrayBridge.Mirror.Cells

/-
  The objects of the virtual machine a session drives the bridge against, and the references
  native code holds to them. Objects are numbered in creation order; object 0 is the up-calls
  instance. Native code sees a reference as a pointer `0x10000 + 16 n`, and the reference is
  known here by that `n`. Below `auxBase` the numbers are the references to objects, made in
  creation order; from `auxBase` on they are the machine's auxiliary references, to classes,
  to the strings classes report their names in and to file descriptors, numbered apart in the
  order the machine makes them. A number nothing was made for is still a reference: it leads
  nowhere.

  A vector object points at the array object holding its elements: 32-bit integers, doubles or
  bytes, a logical vector packing one byte per element. A text object is a wrapper whose
  `contents` field points at a string object.
-/

namespace ArrayBridge.Jvm

open ArrayBridge

/-- A reference as native code holds it. -/
inductive Ref where
  | null
  /-- The reference whose pointer is `0x10000 + 16 n`. -/
  | handle (n : Nat)
  deriving DecidableEq, Repr, Inhabited

/-- The first number of the auxiliary references: their pointers start at `0x80000`. -/
def auxBase : Nat := 28672

/-- Lower-case hexadecimal text of a natural number, with its `0x` prefix. -/
def hexText (n : Nat) : String := "0x" ++ String.ofList (Nat.toDigits 16 n)

namespace Ref

/-- The pointer value native code sees. -/
def pointer : Ref → Nat
  | null => 0
  | handle n => 0x10000 + 16 * n

/-- How a reference prints in messages. -/
def text (r : Ref) : String := hexText r.pointer

theorem pointer_injective {m n : Nat} (h : (handle m).pointer = (handle n).pointer) : m = n := by
  simp only [pointer] at h
  omega

theorem pointer_auxBase : (handle auxBase).pointer = 0x80000 := rfl

/-- Why reference number `n` has no pointer: native code computes `0x10000 + 16 n` in 64-bit
words and stops when the product or the sum overflows. -/
def overflow? (n : Nat) : Option String :=
  if Nat.pow 2 64 ≤ 16 * n then some "attempt to multiply with overflow"
  else if Nat.pow 2 64 ≤ 0x10000 + 16 * n then some "attempt to add with overflow"
  else none

end Ref

/-- The class of the up-calls instance. -/
def upcallsClass : String := "com/oracle/truffle/r/ffi/impl/jni/JNIUpCallsRFFIImpl"
/-- The class of text wrappers. -/
def wrapperClass : String := "com/oracle/truffle/r/runtime/ffi/CharSXPWrapper"
/-- The class holding the embedded trace descriptor. -/
def utilsClass : String := "com/oracle/truffle/r/runtime/ffi/RFFIUtils"
/-- The class of file descriptors. -/
def descriptorClass : String := "java/io/FileDescriptor"
/-- The class of classes. -/
def classClass : String := "java/lang/Class"
/-- The class of strings. -/
def stringClass : String := "java/lang/String"
/-- The class of plain objects. -/
def objectClass : String := "java/lang/Object"

/-- The element types of managed vectors. -/
inductive VectorType where
  | ints
  | reals
  | raw
  | logicals
  deriving DecidableEq, Repr, Inhabited

namespace VectorType

/-- Every vector type. -/
def all : List VectorType := [.ints, .reals, .raw, .logicals]

/-- The name steps give the type by. -/
def name : VectorType → String
  | .ints => "ints"
  | .reals => "reals"
  | .raw => "raw"
  | .logicals => "logicals"

/-- The vector type with a name. -/
def ofName? (s : String) : Option VectorType := all.find? (fun t => t.name == s)

/-- The cells of the vector's array: logical vectors are packed one byte per element. -/
def storage : VectorType → CellType
  | .ints => .int
  | .reals => .real
  | .raw | .logicals => .raw

/-- The up-call that answers the array of a vector of this type. -/
def upcall : VectorType → String
  | .ints => "INTEGER"
  | .reals => "REAL"
  | .raw => "RAW"
  | .logicals => "LOGICAL"

/-- The slash name of the vector class. -/
def className : VectorType → String
  | .ints => "com/oracle/truffle/r/runtime/data/RIntVector"
  | .reals => "com/oracle/truffle/r/runtime/data/RDoubleVector"
  | .raw => "com/oracle/truffle/r/runtime/data/RRawVector"
  | .logicals => "com/oracle/truffle/r/runtime/data/RLogicalVector"

theorem ofName?_name (t : VectorType) : ofName? t.name = some t := by
  cases t <;> rfl

end VectorType

/-- The vector type whose up-call backs a kind; text has no backing array. -/
def vectorOf? : ElemKind → Option VectorType
  | .integer => some .ints
  | .real => some .reals
  | .raw => some .raw
  | .logical => some .logicals
  | .char => none

/-- An object of the virtual machine. -/
inductive JObject where
  /-- An instance of the up-calls implementation class: the machine starts with one, and every
  plain object made later is another. -/
  | upcalls
  /-- A vector and the array object holding its elements, if any. -/
  | vector (t : VectorType) (array : Option Nat)
  /-- A primitive array. -/
  | array (cells : Cells)
  /-- A string, as its modified UTF-8 bytes. -/
  | string (bytes : List UInt8)
  /-- A text wrapper and the string object in its `contents` field, if any. -/
  | wrapper (contents : Option Nat)
  deriving Inhabited

/-- The slash name of an object's class. -/
def JObject.className : JObject → String
  | .upcalls => upcallsClass
  | .vector t _ => t.className
  | .array (.int _) => "[I"
  | .array (.real _) => "[D"
  | .array (.raw _) => "[B"
  | .string _ => stringClass
  | .wrapper _ => wrapperClass

/-- A class name with dots for slashes, as the class reports it. -/
def dotted (name : String) : String := name.map (fun c => if c = '/' then '.' else c)

end ArrayBridge.Jvm
