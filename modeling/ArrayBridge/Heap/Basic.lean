import ArrayBridge.Mirror.Cells

/-
  An in-memory managed heap: objects, arrays and references. Every object is either an array
  object, pointing at one array, or a text object holding bytes. Arrays are numbered in creation
  order and keep their element type and length for good: giving an object other contents
  creates a new array. References are numbered in creation order too, and several references may
  name one object. Pins hand out an array's own storage, so native code works on it in place.
-/

namespace ArrayBridge

/-- A reference to a managed object: the object, and the number of the reference. -/
structure Handle where
  object : Nat
  ref : Nat
  deriving DecidableEq, Repr

/-- How a reference prints in messages. -/
def Handle.text (h : Handle) : String :=
  "Handle \x7b object: " ++ toString h.object ++ ", alias: " ++ toString h.ref ++ " \x7d"

/-- What an object holds. -/
inductive Contents where
  /-- An array object and the number of its array. -/
  | array (id : Nat)
  /-- A text object and its bytes. -/
  | text (bytes : List UInt8)

/-- Objects, arrays and references of an in-memory runtime. -/
structure Heap where
  objects : Array Contents
  arrays : Array Cells
  /-- The object each reference names, by reference number. -/
  refs : Array Nat
  /-- Objects whose references are no longer valid. -/
  invalid : List Nat

namespace Heap

/-- The empty heap. -/
def empty : Heap := ⟨#[], #[], #[], []⟩

/-- The reference numbered `n`. -/
def handle? (heap : Heap) (n : Nat) : Option Handle :=
  heap.refs[n]?.map (fun o => ⟨o, n⟩)

/-- A new reference to object `o`. -/
def newRef (heap : Heap) (o : Nat) : Handle × Heap :=
  (⟨o, heap.refs.size⟩, { heap with refs := heap.refs.push o })

/-- A new object with new contents, and a reference to it. -/
def addObject (heap : Heap) (c : Contents) : Handle × Heap :=
  { heap with objects := heap.objects.push c }.newRef heap.objects.size

/-- A new array object holding `cells`, and a reference to it. -/
def addArray (heap : Heap) (cells : Cells) : Handle × Heap :=
  { heap with arrays := heap.arrays.push cells }.addObject (.array heap.arrays.size)

/-- A new text object, and a reference to it. -/
def addText (heap : Heap) (bytes : List UInt8) : Handle × Heap :=
  heap.addObject (.text bytes)

/-- What object `o` holds. -/
def contents? (heap : Heap) (o : Nat) : Option Contents := heap.objects[o]?

/-- The array behind object `o`, if it is an array object. -/
def arrayOf? (heap : Heap) (o : Nat) : Option Nat :=
  match heap.contents? o with
  | some (.array id) => some id
  | _ => none

/-- The elements of array `a`. -/
def cells? (heap : Heap) (a : Nat) : Option Cells := heap.arrays[a]?

/-- Give object `o` new contents. -/
def setContents (heap : Heap) (o : Nat) (c : Contents) : Heap :=
  { heap with objects := heap.objects.setIfInBounds o c }

/-- Overwrite the elements of array `a`. -/
def setCells (heap : Heap) (a : Nat) (cells : Cells) : Heap :=
  { heap with arrays := heap.arrays.setIfInBounds a cells }

/-- Point object `o` at a new array holding `cells`; answers the new array's number. -/
def attach (heap : Heap) (o : Nat) (cells : Cells) : Nat × Heap :=
  let id := heap.arrays.size
  (id, { heap with arrays := heap.arrays.push cells }.setContents o (.array id))

/-- Mark the references to object `o` invalid. -/
def invalidate (heap : Heap) (o : Nat) : Heap :=
  if heap.invalid.contains o then heap else { heap with invalid := o :: heap.invalid }

/-- Whether a reference is valid: its object exists and was not invalidated. -/
def isValid (heap : Heap) (h : Handle) : Bool :=
  decide (h.object < heap.objects.size) && !heap.invalid.contains h.object

theorem handle?_newRef (heap : Heap) (o : Nat) :
    (heap.newRef o).2.handle? (heap.newRef o).1.ref = some (heap.newRef o).1 := by
  simp [newRef, handle?]

end Heap

end ArrayBridge
