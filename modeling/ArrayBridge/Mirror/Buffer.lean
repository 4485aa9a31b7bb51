import ArrayBridge.Mirror.Cells

/-
  The native storage lent out for one vector. Integer, real and raw vectors lend the runtime's
  own pinned storage (`pinned`): native code works on the managed elements in place until the
  pin is handed back. A logical vector lends a scratch copy owned by the bridge, widened to one
  32-bit integer per element. A text value lends a copy of its bytes followed by a NUL byte,
  owned by the bridge and never synchronised again.

  Native code reaches a buffer through its `Address`: the pin for pinned storage, and for
  bridge-owned storage the table slot of the buffer's entry. A bridge-owned buffer without
  elements has no storage of its own; every such buffer has the one aligned, `dangling` address.
-/

namespace ArrayBridge

/-- Storage lent to native code for one vector. -/
inductive Buffer (Pin : Type) where
  /-- The runtime's storage, pinned, holding `len` elements. -/
  | pinned (pin : Pin) (len : Nat)
  /-- A bridge-owned widened copy of a packed logical vector. -/
  | logical (cells : List Int32)
  /-- A bridge-owned copy of a text value; its NUL terminator is not stored. -/
  | text (bytes : List UInt8)
  deriving DecidableEq

/-- Where native code finds a buffer's elements. -/
inductive Address (Pin : Type) where
  /-- Pinned runtime storage. -/
  | lent (pin : Pin)
  /-- Bridge-owned storage of the entry in this table slot. -/
  | owned (slot : Nat)
  /-- The address of every bridge-owned buffer without elements. -/
  | dangling
  deriving DecidableEq, Repr

namespace Buffer

variable {Pin : Type}

/-- Number of elements, the text terminator excluded. -/
def len : Buffer Pin → Nat
  | pinned _ n => n
  | logical cells => cells.length
  | text bytes => bytes.length

/-- Whether the buffer has no elements. -/
def isEmpty (b : Buffer Pin) : Bool := b.len == 0

/-- Whether the bridge owns the storage (everything but a pin). -/
def isBridgeOwned : Buffer Pin → Bool
  | pinned .. => false
  | _ => true

/-- The pin of pinned storage. -/
def pin? : Buffer Pin → Option Pin
  | pinned p _ => some p
  | _ => none

/-- The address of a buffer stored in table slot `slot`. A text copy always has storage, for
its terminator at least. -/
def address (slot : Nat) : Buffer Pin → Address Pin
  | pinned p _ => .lent p
  | logical cells => if cells.isEmpty then .dangling else .owned slot
  | text _ => .owned slot

theorem address_pinned (slot : Nat) (p : Pin) (n : Nat) :
    (pinned p n).address slot = .lent p := rfl

theorem isBridgeOwned_iff (b : Buffer Pin) : b.isBridgeOwned = false ↔ ∃ p n, b = pinned p n := by
  cases b <;> simp [isBridgeOwned]

end Buffer

end ArrayBridge
