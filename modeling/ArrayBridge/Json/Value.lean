/-
  JSON values as the bridge reads and writes them. A number keeps the class it was read with:
  an unsigned 64-bit integer, a negative 64-bit integer or a double, so a value written back
  keeps that class. Objects keep one field per key, in increasing key order; a later field
  with the same key replaces the earlier one (`Json.setField`).
-/

namespace ArrayBridge

/-- A JSON number, in the class it was read or built with. -/
inductive Number where
  | nat (n : UInt64)
  | neg (n : Int64)
  | real (x : Float)
  deriving Inhabited

/-- A JSON value. -/
inductive Json where
  | null
  | bool (b : Bool)
  | num (n : Number)
  | str (s : String)
  | arr (items : List Json)
  | obj (fields : List (String × Json))
  deriving Inhabited

namespace Json

/-- Insert a field into a key-ordered field list, replacing a field of the same key. -/
def insertField (k : String) (v : Json) : List (String × Json) → List (String × Json)
  | [] => [(k, v)]
  | (k', v') :: rest =>
    if k = k' then (k, v) :: rest
    else if k < k' then (k, v) :: (k', v') :: rest
    else (k', v') :: insertField k v rest

/-- An object from fields in reading order: keys sorted, the last of equal keys kept. -/
def ofFields (fs : List (String × Json)) : Json :=
  .obj (fs.foldl (fun acc (k, v) => insertField k v acc) [])

/-- The value of a field of an object. -/
def field? : Json → String → Option Json
  | .obj fs, k => fs.lookup k
  | _, _ => none

/-- A natural number as a JSON number. -/
def ofNat (n : Nat) : Json := .num (.nat n.toUInt64)

/-- An integer as a JSON number. -/
def ofInt (n : Int) : Json :=
  if 0 ≤ n then .num (.nat n.toNat.toUInt64) else .num (.neg (Int64.ofInt n))

/-- A double as a JSON number. -/
def ofFloat (x : Float) : Json := .num (.real x)

/-- A list of naturals as a JSON array. -/
def ofNats (ns : List Nat) : Json := .arr (ns.map ofNat)

/-- An optional value, with `null` for none. -/
def ofOption {α : Type} (f : α → Json) : Option α → Json
  | some a => f a
  | none => .null

/-- How deeply arrays and objects nest in a value; a scalar has depth 0. -/
def depth : Json → Nat
  | .arr items => 1 + (items.attach.map (fun ⟨j, _⟩ => depth j)).foldl max 0
  | .obj fields => 1 + (fields.attach.map (fun ⟨(_, v), _⟩ => depth v)).foldl max 0
  | _ => 0
termination_by j => sizeOf j
decreasing_by
  all_goals simp_wf
  · have := List.sizeOf_lt_of_mem ‹_›
    omega
  · rename_i h
    have := List.sizeOf_lt_of_mem h
    simp at this
    omega

theorem insertField_lookup (k : String) (v : Json) (fs : List (String × Json)) :
    (insertField k v fs).lookup k = some v := by
  induction fs with
  | nil => simp [insertField]
  | cons p rest ih =>
    obtain ⟨k', v'⟩ := p
    by_cases h : k = k'
    · simp [insertField, h]
    · by_cases hl : k < k'
      · simp [insertField, h, hl]
      · have hb : (k == k') = false := by simpa using h
        simp [insertField, h, hl, List.lookup_cons, hb, ih]

end Json

end ArrayBridge
