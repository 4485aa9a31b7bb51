import ArrayBridge.Json.Reader
import ArrayBridge.Json.Writer

/-
  Log lines as session answers report them. A line that is a JSON entry is kept only when its
  target belongs to the bridge; its time, thread and process are dropped, and so are the source
  file and line in its context, since they differ from build to build. A message that is itself
  an entry (the bridge's fatal report) is reduced the same way; in other messages every heap
  address, a `0x` number of at least `0x100000`, reads `0xADDR`. A line that is not JSON is kept
  as it is.
-/

namespace ArrayBridge.Request

open ArrayBridge

/-- Whether a character is a hexadecimal digit. -/
def isHexDigit (c : Char) : Bool :=
  c.isDigit || ('a' ≤ c && c ≤ 'f') || ('A' ≤ c && c ≤ 'F')

/-- The value of a hexadecimal digit. -/
def hexDigitValue (c : Char) : Nat :=
  if c.isDigit then c.toNat - '0'.toNat
  else if 'a' ≤ c && c ≤ 'f' then c.toNat - 'a'.toNat + 10
  else c.toNat - 'A'.toNat + 10

/-- The value of a run of hexadecimal digits. -/
def hexValue (ds : List Char) : Nat := ds.foldl (fun acc c => 16 * acc + hexDigitValue c) 0

/-- The hexadecimal digits at the head of a text, and what follows them. -/
def spanHex : List Char → List Char × List Char
  | c :: rest =>
    if isHexDigit c then
      let (ds, after) := spanHex rest
      (c :: ds, after)
    else ([], c :: rest)
  | [] => ([], [])

theorem spanHex_length (l : List Char) : (spanHex l).2.length ≤ l.length := by
  induction l with
  | nil => simp [spanHex]
  | cons c rest ih =>
    unfold spanHex
    split
    · simp only [List.length_cons]
      omega
    · simp

theorem length_lt_of_spanHex {rest after ds : List Char} {d : Char}
    (h : spanHex rest = (d :: ds, after)) : after.length < rest.length + 2 := by
  have hle := spanHex_length rest
  rw [h] at hle
  exact Nat.lt_of_le_of_lt hle (Nat.lt_add_of_pos_right (by decide))

/-- The least heap address. -/
def heapStart : Nat := 0x100000

/-- A text with every heap address masked. -/
def maskAddresses : List Char → List Char
  | '0' :: 'x' :: rest =>
    match h : spanHex rest with
    | ([], _) => '0' :: 'x' :: maskAddresses rest
    | (d :: ds, after) =>
      have : after.length < rest.length + 2 := length_lt_of_spanHex h
      (if heapStart ≤ hexValue (d :: ds) then "0xADDR".toList else '0' :: 'x' :: d :: ds) ++
        maskAddresses after
  | c :: rest => c :: maskAddresses rest
  | [] => []
termination_by l => l.length

/-- A message with every heap address masked. -/
def maskText (s : String) : String := String.ofList (maskAddresses s.toList)

/-- Keys of an entry that differ from run to run. -/
def unstableKeys : List String := ["timestamp", "thread_id", "process_id"]

/-- Keys of an entry's context that differ from build to build. -/
def unstableContext : List String := ["file", "line"]

/-- Drop some keys of an object. -/
def dropKeys (keys : List String) : Json → Json
  | .obj fields => .obj (fields.filter (fun (k, _) => !keys.contains k))
  | other => other

/-- Reduce an entry; a message that is itself an entry is reduced too, `depth` levels deep. -/
def reduceEntry : Nat → Json → Json
  | depth, .obj fields =>
    .obj ((fields.filter (fun (k, _) => !unstableKeys.contains k)).map fun (k, v) =>
      if k = "context" then (k, dropKeys unstableContext v)
      else if k = "message" then
        match v with
        | .str s =>
          match depth, Json.parse s with
          | depth + 1, .ok (.obj inner) => (k, reduceEntry depth (.obj inner))
          | _, _ => (k, .str (maskText s))
        | other => (k, other)
      else (k, v))
  | _, other => other

/-- Whether an entry was logged under one of the bridge's targets. -/
def bridgeTarget (j : Json) : Bool :=
  match (j.field? "context").bind (·.field? "target") with
  | some (.str t) => t.startsWith "rffi_bridge"
  | _ => false

/-- A written line as answers report it, if it is reported. -/
def reportLine (line : String) : Option Json :=
  match Json.parse line with
  | .ok j => if bridgeTarget j then some (reduceEntry 1 j) else none
  | .error _ => some (.obj [("raw", .str line)])

/-- Whether a line is a JSON value. -/
def isJsonLine (line : String) : Bool :=
  match Json.parse line with
  | .ok _ => true
  | .error _ => false

theorem maskText_plain (s : String) (h : ∀ c ∈ s.toList, c ≠ '0') : maskText s = s := by
  unfold maskText
  suffices ∀ l : List Char, (∀ c ∈ l, c ≠ '0') → maskAddresses l = l by
    rw [this s.toList h]
    simp
  intro l
  induction l with
  | nil => intro _; simp [maskAddresses]
  | cons c rest ih =>
    intro hl
    have hc : c ≠ '0' := hl c (by simp)
    have hr := ih (fun d hd => hl d (by simp [hd]))
    rw [maskAddresses.eq_def]
    split
    · rename_i rest' heq
      simp only [List.cons.injEq] at heq
      exact absurd heq.1 hc
    · rename_i c' rest' _ heq
      simp only [List.cons.injEq] at heq
      obtain ⟨rfl, rfl⟩ := heq
      rw [hr]
    · rename_i heq
      simp at heq

end ArrayBridge.Request
