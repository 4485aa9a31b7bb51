import ArrayBridge.Proofs.CurrentFrame

/-
  Logical vectors across the boundary. A logical vector is held by the runtime as packed bytes
  (0 false, 1 true, anything else missing) and lent to native code as a widened copy of 32-bit
  values (0, 1, or the native missing value). The two encodings are not inverse: widening sends
  every byte other than 0 and 1 to the missing value, and narrowing sends every value other than
  0 and 1 to the byte 255 and marks the conversion inexact.

  Whatever native code leaves in a live logical copy `w`, every path that hands it back (a
  release with `copyBack`, as exiting its frame and invalidating its object do, and a push)
  writes exactly the narrowed values into the entry's array and then reports whether every value
  was 0 or 1 (`handBackLogical`); a release with `abort` writes and reports nothing; a refresh
  widens the bytes the array holds. So an unedited copy goes back with 255 at exactly the bytes
  that were neither 0 nor 1, and a push read back by a refresh turns every value other than 0
  and 1 into the missing value.

  Main statement: `Reachable.logical_round_trip`.
-/

namespace ArrayBridge

/-! ## The two encodings -/

/-- A byte that is neither 0 nor 1 widens to the missing value. -/
theorem widenLogical_of_ne {x : UInt8} (h0 : x ≠ 0) (h1 : x ≠ 1) : widenLogical x = nativeMissing := by
  simp [widenLogical, managedFalse, managedTrue, h0, h1]

/-- A value that is neither 0 nor 1 narrows to the byte 255. -/
theorem narrowLogical_of_ne {v : Int32} (h0 : v ≠ 0) (h1 : v ≠ 1) :
    (narrowLogical v).1 = managedMissing := by
  simp [narrowLogical, h0, h1]

/-- Widening a byte and narrowing it back keeps 0 and 1 and turns every other byte into 255. -/
theorem narrow_widen_eq (x : UInt8) :
    (narrowLogical (widenLogical x)).1 = if x = 0 ∨ x = 1 then x else 255 := by
  by_cases h0 : x = 0
  · subst h0
    decide
  · by_cases h1 : x = 1
    · subst h1
      decide
    · rw [widenLogical_of_ne h0 h1, if_neg (by simp [h0, h1])]
      decide

/-- Narrowing a value and widening it back keeps 0 and 1 and turns every other value into the
    missing value. -/
theorem widen_narrow_eq (v : Int32) :
    widenLogical (narrowLogical v).1 = if v = 0 ∨ v = 1 then v else nativeMissing := by
  by_cases h0 : v = 0
  · subst h0
    decide
  · by_cases h1 : v = 1
    · subst h1
      decide
    · rw [narrowLogical_of_ne h0 h1, if_neg (by simp [h0, h1])]
      decide

/-- A byte widens to 0 or 1 exactly when it is 0 or 1. -/
theorem widenLogical_exact_iff (x : UInt8) : widenLogical x = 0 ∨ widenLogical x = 1 ↔ x = 0 ∨ x = 1 := by
  by_cases h0 : x = 0
  · subst h0
    decide
  · by_cases h1 : x = 1
    · subst h1
      decide
    · rw [widenLogical_of_ne h0 h1]
      simp only [h0, h1, or_self, iff_false]
      decide

/-- The narrowed copy reports exactness exactly when every value is 0 or 1. -/
theorem narrowLogicals_exact_iff (w : List Int32) :
    (narrowLogicals w).2 = true ↔ ∀ v ∈ w, v = 0 ∨ v = 1 := by
  simp only [narrowLogicals, List.all_eq_true, narrowLogical_exact_iff]

/-- An unedited widened copy narrows back to its bytes with 255 at every byte that was neither
    0 nor 1. -/
theorem narrowed_widened (p : List UInt8) :
    (narrowLogicals (p.map widenLogical)).1 = p.map fun x => if x = 0 ∨ x = 1 then x else 255 := by
  simp only [narrowLogicals, List.map_map]
  exact List.map_congr_left fun x _ => narrow_widen_eq x

/-- The narrowed bytes of `w`, widened again, are `w` with every value other than 0 and 1
    missing. -/
theorem widened_narrowed (w : List Int32) :
    (narrowLogicals w).1.map widenLogical = w.map fun v => if v = 0 ∨ v = 1 then v else nativeMissing := by
  simp only [narrowLogicals, List.map_map]
  exact List.map_congr_left fun v _ => widen_narrow_eq v

/-- A run of bytes of the region's length fills the region. -/
theorem Cells.region_raw {p : List UInt8} {n : Nat} (h : p.length = n) : (Cells.raw p).region n = p := by
  subst h
  simp [Cells.region, Cells.bytes]

/-! ## The codec on logical copies -/

variable {σ Obj Arr Pin : Type} [Host σ Obj Arr Pin]

open Op

/-- Handing the logical copy `w` back to array `a` of object `o`: write the narrowed values into
    the array, then tell the object whether every value was 0 or 1. -/
def handBackLogical (a : Arr) (o : Obj) (w : List Int32) : Op σ Unit := do
  Host.writeRegion a (.raw (w.map fun v => (narrowLogical v).1))
  Host.markConversion o (w.all fun v => v = 0 ∨ v = 1)

theorem narrowLogicals_eq (w : List Int32) :
    narrowLogicals w = (w.map fun v => (narrowLogical v).1, w.all fun v => v = 0 ∨ v = 1) := by
  simp only [narrowLogicals, Prod.mk.injEq, true_and]
  congr 1
  funext v
  rw [Bool.eq_iff_iff, narrowLogical_exact_iff, decide_eq_true_iff]

namespace Codec

/-- A logical vector is lent as the widened bytes the runtime reads out of its array. -/
theorem extract_logical {o : Obj} {h h₁ h₂ h₃ : σ} {a : Arr} {n : Nat} {p : List UInt8}
    (hback : Host.backingArray o .logical h = .ok a h₁) (hlen : Host.arrayLength a h₁ = .ok n h₂)
    (hread : Host.readRegion a .raw n h₂ = .ok (.raw p) h₃) (hp : p.length = n) :
    extract o .logical h = .ok (some a, .logical (p.map widenLogical)) h₃ := by
  simp only [extract, bind_apply, hback, hlen, hread, Cells.region_raw hp]
  rfl

theorem pushBack_logical (kind : ElemKind) (o : Obj) (a : Arr) (w : List Int32) :
    (pushBack kind o (some a) (.logical w) : Op σ Unit) = handBackLogical a o w := by
  simp only [pushBack, handBackLogical, narrowLogicals_eq]

theorem release_copyBack_logical (kind : ElemKind) (o : Obj) (a : Arr) (w : List Int32) :
    (release ⟨kind, o, some a, .logical w⟩ .copyBack : Op σ Unit) = handBackLogical a o w := by
  simp only [release, handBackLogical, narrowLogicals_eq, reduceCtorEq, if_false]

end Codec

/-! ## A live logical copy -/

namespace Bridge

variable {b : Bridge σ Obj Arr Pin} {i : Nat} {kind : ElemKind} {o : Obj} {a : Arr} {w : List Int32}

/-- How the live logical copy `w` of array `a` of object `o`, in slot `i` of `b`, crosses back. -/
structure LogicalLaws (b : Bridge σ Obj Arr Pin) (i : Nat) (o : Obj) (a : Arr) (w : List Int32) :
    Prop where
  /-- Finishing with `copyBack`, as exiting the frame and invalidating the object do, tombstones
      the slot, keeps a record, and hands the copy back. -/
  copyBack : ∃ h₁, Host.Logged b.host h₁ ∧
    (∀ h₂, handBackLogical a o w h₁ = .ok () h₂ →
      releaseEntry i .copyBack b = .ok true { b with table := (b.table.take i).2, host := h₂ }) ∧
    (∀ s h₂, handBackLogical a o w h₁ = .error s h₂ →
      releaseEntry i .copyBack b = .error s { b with table := (b.table.take i).2, host := h₂ })
  /-- Pushing back keeps a record and hands the copy back, keeping the entry. -/
  push : ∃ h₁, Host.Logged b.host h₁ ∧ pushEntry i b = onHost (handBackLogical a o w) { b with host := h₁ }
  /-- Finishing with `abort` tombstones the slot and keeps a record: nothing is written and
      nothing is reported. -/
  abort : ∃ h₁, Host.Logged b.host h₁ ∧
    releaseEntry i .abort b = .ok true { b with table := (b.table.take i).2, host := h₁ }
  /-- A refresh from the same array widens the bytes the array holds into the copy. -/
  refresh : ∀ current h₁ h₂, Host.backingArray o .logical b.host = .ok current h₁ →
    Host.releaseArray current h₁ = .ok () h₂ → Host.sameArray h₁ current a = true →
    ∃ h₃, Host.Logged h₂ h₃ ∧ ∀ p h₄, Host.readRegion a .raw w.length h₃ = .ok (.raw p) h₄ →
      p.length = w.length → refreshEntry i b =
        .ok () { b with host := h₄,
                        table := b.table.update i fun d => { d with buffer := .logical (p.map widenLogical) } }
  /-- An unedited copy of bytes `p` goes back as `p` with 255 at exactly the bytes that were
      neither 0 nor 1, reported exact exactly when there were none. -/
  unedited : ∀ p : List UInt8, w = p.map widenLogical →
    w.map (fun v => (narrowLogical v).1) = p.map (fun x => if x = 0 ∨ x = 1 then x else 255) ∧
    ((w.all fun v => v = 0 ∨ v = 1) = true ↔ ∀ x ∈ p, x = 0 ∨ x = 1)
  /-- The bytes handed back, widened again by a refresh, are the copy with every value other
      than 0 and 1 missing. -/
  reread : (w.map fun v => (narrowLogical v).1).map widenLogical =
    w.map fun v => if v = 0 ∨ v = 1 then v else nativeMissing

theorem logicalLaws_of_live (he : b.table.get? i = some ⟨.logical, o, some a, .logical w⟩)
    (hs : Entry.Shaped σ (⟨.logical, o, some a, .logical w⟩ : Entry Obj Arr Pin)) :
    LogicalLaws b i o a w := by
  refine ⟨?copyBack, ?push, ?abort, ?refresh, ?unedited, ?reread⟩
  case copyBack =>
    obtain ⟨h₁, hlog, hrel⟩ := releaseEntry_of_live .copyBack he
    refine ⟨h₁, hlog, fun h₂ hcall => ?_, fun s h₂ hcall => ?_⟩
    · rw [hrel, Codec.release_copyBack_logical, hcall]
    · rw [hrel, Codec.release_copyBack_logical, hcall]
  case push =>
    rw [pushEntry_of_live he, Codec.pushBack_logical]
    exact ⟨_, .single ⟨_, _, _, rfl⟩, rfl⟩
  case abort =>
    obtain ⟨h₁, hlog, hrel⟩ := releaseEntry_of_live .abort he
    exact ⟨h₁, hlog, by rw [hrel, Codec.release_abort_logical]⟩
  case refresh =>
    intro current h₁ h₂ hback hrel hsame
    obtain ⟨h₃, hlog, hcopy, -⟩ := (refreshOutcome_of_shaped he hs rfl).copies current h₁ h₂ hback hrel hsame
    refine ⟨h₃, hlog, fun p h₄ hread hp => ?_⟩
    have hcall : Codec.refresh .logical a (.logical w) h₃ = .ok (.logical (p.map widenLogical)) h₄ := by
      rw [Codec.refresh_logical, hread]
      dsimp only
      rw [Cells.region_raw hp]
    exact (hcopy _ _ hcall).1
  case unedited =>
    intro p hw
    have hbytes := narrowed_widened p
    have hexact := narrowLogicals_exact_iff (p.map widenLogical)
    rw [narrowLogicals_eq, ← hw] at hbytes hexact
    refine ⟨hbytes, hexact.trans ?_⟩
    rw [hw, List.forall_mem_map]
    exact forall₂_congr fun x _ => widenLogical_exact_iff x
  case reread =>
    have h := widened_narrowed w
    rw [narrowLogicals_eq] at h
    exact h

end Bridge

namespace Reachable

variable {env : σ → σ → Prop}

open Bridge

/-- A logical vector is lent as the widened bytes the runtime reads out of its array. In a
    reachable bridge a live entry requested as logical is such a copy `w` of an array `a`, and
    whatever native code has left in `w` crosses back as `LogicalLaws` says: finishing with
    `copyBack` and pushing back both write exactly the narrowed values into `a` and report
    whether every value was 0 or 1, finishing with `abort` writes and reports nothing, and a
    refresh from the same array widens the bytes it holds. -/
theorem logical_round_trip {b : Bridge σ Obj Arr Pin} (hb : Reachable env b) {i : Nat}
    {e : Entry Obj Arr Pin} (he : b.table.get? i = some e) (hkind : e.kind = .logical) :
    (∀ (o : Obj) (h h₁ h₂ h₃ : σ) (a : Arr) (n : Nat) (p : List UInt8), Host.backingArray o .logical h = .ok a h₁ →
      Host.arrayLength a h₁ = .ok n h₂ → Host.readRegion a .raw n h₂ = .ok (.raw p) h₃ →
      p.length = n → Codec.extract o .logical h = .ok (some a, .logical (p.map widenLogical)) h₃) ∧
    ∃ a w, e = ⟨.logical, e.object, some a, .logical w⟩ ∧ LogicalLaws b i e.object a w := by
  refine ⟨fun _ _ _ _ _ _ _ _ hback hlen hread hp => Codec.extract_logical hback hlen hread hp, ?_⟩
  -- a logical kind is never pinned, and only text is held without an array
  have hs := hb.shaped i e he
  cases hs with
  | pinned hpass =>
    cases hkind
    cases hpass
  | logical hlen => exact ⟨_, _, rfl, logicalLaws_of_live he (.logical hlen)⟩
  | text => cases hkind

/-- A bench bridge inside one call that has lent, as logicals, the packed vector `[0, 1, 7]` of
    the one object of its heap, named by reference 0. -/
def benchLogical : Bridge Bench Handle Nat Nat :=
  (Request.acquire ⟨0, 0⟩ .logical).run.after ((Request.enterCall 1).run.after
    { host := { Bench.new false with heap := (Heap.empty.addArray (.raw [0, 1, 7])).2 },
      config := .default, table := .withCapacity Config.default.tableCapacity,
      calls := .new Config.default.maxCallDepth, refs := .withCapacity Config.default.refCapacity })

theorem logical_round_trip_benchLogical :
    Reachable (fun _ _ => True) benchLogical ∧
      benchLogical.table.get? 0 = some ⟨.logical, ⟨0, 0⟩, some 0, .logical [0, 1, nativeMissing]⟩ ∧
      (⟨.logical, ⟨0, 0⟩, some 0, .logical [0, 1, nativeMissing]⟩ : Entry Handle Nat Nat).kind =
        .logical ∧
      (∀ (o : Handle) (h h₁ h₂ h₃ : Bench) (a n : Nat) (p : List UInt8), Host.backingArray o .logical h = .ok a h₁ →
        Host.arrayLength a h₁ = .ok n h₂ → Host.readRegion a .raw n h₂ = .ok (.raw p) h₃ →
        p.length = n → Codec.extract o .logical h = .ok (some a, .logical (p.map widenLogical)) h₃) ∧
      ∃ a w, (⟨.logical, ⟨0, 0⟩, some 0, .logical [0, 1, nativeMissing]⟩ : Entry Handle Nat Nat) =
        ⟨.logical, ⟨0, 0⟩, some a, .logical w⟩ ∧ LogicalLaws benchLogical 0 ⟨0, 0⟩ a w := by
  have hb : Reachable (fun _ _ => True) benchLogical :=
    ((Reachable.start (Bridge.new_of_check rfl)).step (.request _)).step (.request _)
  have he : benchLogical.table.get? 0 =
      some ⟨.logical, ⟨0, 0⟩, some 0, .logical [0, 1, nativeMissing]⟩ := by
    decide +kernel
  exact ⟨hb, he, rfl, logical_round_trip hb he rfl⟩

end Reachable

end ArrayBridge
