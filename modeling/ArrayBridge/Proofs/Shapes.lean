import ArrayBridge.Proofs.Reachable

/-
  The forms a lent entry takes. Integer, real and raw vectors are lent as their pinned storage,
  with the array behind them; a logical vector as a widened copy with its array, as long as the
  runtime said the array was when the copy was made; a text value as a copy with no array
  (`Entry.Shaped`). Extraction makes only these forms, and no step changes an entry's kind,
  array or storage, so every live entry of a reachable bridge has one of them
  (`Reachable.shaped`).

  Hence the codec's branches for storage without an array, and for pinned storage of a kind that
  is never pinned, are never taken; and a text entry is finished, pushed back and refreshed with
  no runtime call (`Entry.Shaped.release_text`, `Entry.Shaped.pushBack_text`,
  `refreshEntry_of_text`).
-/

namespace ArrayBridge

/-- The three forms a lent entry takes. -/
inductive Entry.Shaped (σ : Type) {Obj Arr Pin : Type} [Host σ Obj Arr Pin] :
    Entry Obj Arr Pin → Prop
  /-- Integer, real or raw storage pinned in place, with its array. -/
  | pinned {kind : ElemKind} {o : Obj} {a : Arr} {p : Pin} {n : Nat} :
      kind.isPassThrough = true → Entry.Shaped σ ⟨kind, o, some a, .pinned p n⟩
  /-- A widened logical copy with its array, as long as the runtime said the array was. -/
  | logical {o : Obj} {a : Arr} {cells : List Int32} :
      (∃ h h' : σ, Host.arrayLength a h = .ok cells.length h') →
      Entry.Shaped σ ⟨.logical, o, some a, .logical cells⟩
  /-- A text copy, with no array. -/
  | text {o : Obj} {bytes : List UInt8} : Entry.Shaped σ ⟨.char, o, none, .text bytes⟩

variable {σ Obj Arr Pin : Type} [Host σ Obj Arr Pin]

open Op

/-- Extraction makes an entry of one of the three forms. -/
theorem Codec.extract_shaped {o : Obj} {kind : ElemKind} {h h' : σ} {array : Option Arr}
    {buffer : Buffer Pin} (hx : Codec.extract o kind h = .ok (array, buffer) h') :
    Entry.Shaped σ ⟨kind, o, array, buffer⟩ := by
  cases kind with
  | logical =>
    obtain ⟨a, h₁, -, hx⟩ := bind_eq_ok.mp hx
    obtain ⟨len, h₂, hlen, hx⟩ := bind_eq_ok.mp hx
    obtain ⟨packed, h₃, -, hx⟩ := bind_eq_ok.mp hx
    cases hx
    refine .logical ⟨h₁, h₂, ?_⟩
    rw [List.length_map, Cells.length_region]
    exact hlen
  | char =>
    obtain ⟨bytes, h₁, -, hx⟩ := bind_eq_ok.mp hx
    cases hpos : bytes.idxOf? 0 with
    | some position =>
      rw [hpos] at hx
      cases hx
    | none =>
      rw [hpos] at hx
      cases hx
      exact .text
  | _ =>
    obtain ⟨a, h₁, -, hx⟩ := bind_eq_ok.mp hx
    obtain ⟨⟨p, n⟩, h₂, -, hx⟩ := bind_eq_ok.mp hx
    cases hx
    exact .pinned rfl

namespace Entry.Shaped

variable {e e' : Entry Obj Arr Pin}

/-- An entry keeps its form while its element values change. -/
theorem kept (hs : e.Shaped σ) (hk : e.Kept e') : e'.Shaped σ := by
  obtain ⟨kind', o', array', buffer'⟩ := e'
  obtain ⟨hkind, hobject, harray, hstorage⟩ := hk
  cases hs with
  | pinned hpass =>
    cases hkind
    cases harray
    cases buffer' with
    | pinned p' n' => exact .pinned hpass
    | logical _ => exact hstorage.elim
    | text _ => exact hstorage.elim
  | logical hlen =>
    cases hkind
    cases harray
    cases buffer' with
    | logical cells' =>
      have hsame : _ = cells'.length := hstorage
      exact .logical (hsame ▸ hlen)
    | pinned _ _ => exact hstorage.elim
    | text _ => exact hstorage.elim
  | text =>
    cases hkind
    cases harray
    cases buffer' with
    | text _ => exact .text
    | pinned _ _ => exact hstorage.elim
    | logical _ => exact hstorage.elim

/-- Storage without an array is a text copy: the codec's branch for an array-backed buffer
    without its array is never taken. -/
theorem text_of_array_none (hs : e.Shaped σ) (h : e.array = none) :
    ∃ bytes, e.buffer = .text bytes := by
  cases hs with
  | pinned _ => cases h
  | logical _ => cases h
  | text => exact ⟨_, rfl⟩

/-- Pinned storage is of a kind that pins: the codec's branch for pinned storage of another
    kind is never taken. -/
theorem pinnedCells_ok (hs : e.Shaped σ) {p : Pin} {n : Nat} (h : e.buffer = .pinned p n) :
    ∃ t, Codec.pinnedCells e.kind = .ok t := by
  cases hs with
  | pinned hpass =>
    rename_i kind _ _ _ _
    show ∃ t, Codec.pinnedCells kind = .ok t
    cases kind <;> first | exact ⟨_, rfl⟩ | cases hpass
  | logical _ => cases h
  | text => cases h

/-- A char entry is a text copy with no array. -/
theorem of_char (hs : e.Shaped σ) (h : e.kind = .char) :
    e.array = none ∧ ∃ bytes, e.buffer = .text bytes := by
  cases hs with
  | pinned hpass => cases h; cases hpass
  | logical _ => cases h
  | text => exact ⟨rfl, _, rfl⟩

/-- Finishing a char entry makes no runtime call. -/
theorem release_text (hs : e.Shaped σ) (hchar : e.kind = .char) (mode : ReleaseMode) (h : σ) :
    Codec.release e mode h = .ok () h := by
  obtain ⟨-, bytes, hbuf⟩ := hs.of_char hchar
  obtain ⟨kind, o, array, buffer⟩ := e
  cases hbuf
  exact Codec.release_text kind o array bytes mode h

/-- Pushing a char entry back makes no runtime call. -/
theorem pushBack_text (hs : e.Shaped σ) (hchar : e.kind = .char) (h : σ) :
    Codec.pushBack e.kind e.object e.array e.buffer h = .ok () h := by
  obtain ⟨-, bytes, hbuf⟩ := hs.of_char hchar
  rw [hbuf]
  rfl

end Entry.Shaped

namespace Bridge

/-- Every live entry has one of the three forms. -/
def Shaped (b : Bridge σ Obj Arr Pin) : Prop :=
  ∀ i e, b.table.get? i = some e → e.Shaped σ

theorem shaped_new {host : σ} {config : Config} {b : Bridge σ Obj Arr Pin}
    (h : Bridge.new host config = .ok b) : Shaped b := by
  obtain ⟨_, rfl⟩ := Bridge.new_eq_ok h
  intro i e he
  simp at he

theorem Shaped.settle {b b' : Bridge σ Obj Arr Pin} (h : Shaped b) (hs : Settle b b') :
    Shaped b' := by
  intro i e' he'
  obtain ⟨e, he, hk⟩ := hs.live he'
  exact (h i e he).kept hk

/-- A lend appends the entry of a successful extraction. -/
theorem Shaped.lend {b b' : Bridge σ Obj Arr Pin} {e : Entry Obj Arr Pin} (h : Shaped b)
    (hl : Lends b b' e) : Shaped b' := by
  intro i d hd
  rw [hl.get?_eq] at hd
  split at hd
  · cases hd
    obtain ⟨h₀, h₁, hx⟩ := hl.extracted
    exact Codec.extract_shaped hx
  · exact h i d hd

/-- A slot whose entry has no array is left alone by a refresh, with no runtime call. -/
theorem refreshEntry_of_text {b : Bridge σ Obj Arr Pin} {i : Nat} {e : Entry Obj Arr Pin}
    (he : b.table.get? i = some e) (harray : e.array = none) : refreshEntry i b = .ok () b := by
  unfold refreshEntry
  rw [bind_apply, get_apply]
  dsimp only
  rw [he]
  dsimp only
  rw [harray]
  rfl

end Bridge

namespace Reachable

variable {env : σ → σ → Prop}

theorem shaped {b : Bridge σ Obj Arr Pin} (h : Reachable env b) : b.Shaped :=
  h.invariant (fun _ _ _ => Bridge.shaped_new) (fun _ _ hb hs => hb.settle hs)
    (fun _ _ _ hb hl => hb.lend hl)

end Reachable

end ArrayBridge
