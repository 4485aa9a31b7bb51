import ArrayBridge.Mirror.Table

/-
  How the table's operations move its live slots, read through `get?`. `take` tombstones one
  slot, `update` changes the entry of a live slot, `push` adds a slot at the high-water mark and
  `truncate` drops every slot from a mark on; `find` and `reserve` leave the slots alone and move
  only the last hit and the capacity.

  `Within K t t'` says that `t'` has as many slots as `t` and that each live slot of `t'` was live
  in `t` with an entry related to it by `K`: slots may be tombstoned and live entries changed,
  but nothing is added. Every table operation but `push` and `truncate` keeps it.

  Main statements: `find_cases` (what a lookup can do, from which the other lookup facts are
  read), `find_live` and `find_eq_none_iff` (a lookup answers a live slot its predicate accepts,
  and answers nothing only when no live slot is accepted), `mem_matching`, the slot equations
  `get?_take`, `get?_update`, `get?_push`, `get?_truncate`, and what `push`, `take` and a
  truncation past the live slots do to the list of live slots (`matching_push`,
  `matching_take`, `matching_truncate`).
-/

namespace ArrayBridge
namespace Table

variable {ε : Type}

/-! ## Slots read through `get?` -/

theorem get?_of_slots {t t' : Table ε} (h : t'.slots = t.slots) (i : Nat) :
    t'.get? i = t.get? i := by
  simp only [get?, h]

theorem lt_hwm_of_get? {t : Table ε} {i : Nat} {e : ε} (h : t.get? i = some e) : i < t.hwm := by
  rw [get?_eq_some_iff] at h
  exact (Array.getElem?_eq_some_iff.mp h).1

theorem get?_eq_none_of_le {t : Table ε} {i : Nat} (h : t.hwm ≤ i) : t.get? i = none := by
  simp [get?, hwm] at h ⊢
  simp [Array.getElem?_eq_none h]

@[simp] theorem get?_withCapacity (c i : Nat) : (withCapacity c : Table ε).get? i = none := by
  simp [withCapacity, get?]

/-- What a lookup does: a live, accepted last hit is answered at once and nothing changes;
    otherwise the scan answers, and a slot it finds becomes the last hit. -/
theorem find_cases (t : Table ε) (hit : ε → Bool) :
    (∃ e, t.get? t.lastHit = some e ∧ hit e = true ∧ t.find hit = (some t.lastHit, t)) ∨
      ((∀ e, t.get? t.lastHit = some e → hit e = false) ∧
        t.find hit = (t.firstMatch hit, { t with lastHit := (t.firstMatch hit).getD t.lastHit })) := by
  unfold find
  split
  · next e he =>
    by_cases hhit : hit e = true
    · exact .inl ⟨e, he, hhit, by simp [hhit]⟩
    · refine .inr ⟨fun e' he' => ?_, ?_⟩
      · rw [he] at he'
        cases he'
        simpa using hhit
      · simp only [hhit, Bool.false_eq_true, if_false]
        split <;> simp_all
  · next he =>
    refine .inr ⟨fun e' he' => ?_, ?_⟩
    · rw [he'] at he
      cases he
    · split <;> simp_all

/-- A lookup moves only the last hit, and only onto the slot it answers. -/
theorem snd_find (t : Table ε) (hit : ε → Bool) :
    (t.find hit).2 = { t with lastHit := (t.find hit).1.getD t.lastHit } := by
  rcases find_cases t hit with ⟨-, -, -, hfind⟩ | ⟨-, hfind⟩
  · rw [hfind]
    rfl
  · rw [hfind]

@[simp] theorem slots_find (t : Table ε) (hit : ε → Bool) : (t.find hit).2.slots = t.slots := by
  rw [snd_find]

@[simp] theorem capacity_find (t : Table ε) (hit : ε → Bool) :
    (t.find hit).2.capacity = t.capacity := by
  rw [snd_find]

theorem capacity_take (t : Table ε) (i : Nat) : (t.take i).2.capacity = t.capacity := by
  unfold take
  split <;> rfl

theorem lastHit_take (t : Table ε) (i : Nat) : (t.take i).2.lastHit = t.lastHit := by
  unfold take
  split <;> rfl

theorem get?_take (t : Table ε) (i j : Nat) :
    (t.take i).2.get? j = if i = j then none else t.get? j := by
  unfold take
  split
  · next e he =>
    have hi : i < t.slots.size := lt_hwm_of_get? he
    by_cases hij : i = j
    · subst hij
      simp [get?, hi]
    · simp [get?, hij]
  · next he =>
    by_cases hij : i = j
    · subst hij
      simp [he]
    · simp [hij]

theorem fst_take (t : Table ε) (i : Nat) : (t.take i).1 = t.get? i := by
  unfold take
  split <;> simp_all

/-- Tombstoning a slot leaves every other slot, live or not, as it was. -/
theorem getElem?_slots_take_of_ne (t : Table ε) {i j : Nat} (hij : i ≠ j) :
    (t.take i).2.slots[j]? = t.slots[j]? := by
  unfold take
  split
  · simp [hij]
  · rfl

/-- Truncating at `n` loses nothing exactly when every slot from `n` on is a tombstone. -/
theorem deadFrom_iff (t : Table ε) (n : Nat) :
    t.deadFrom n = true ↔ ∀ i, n ≤ i → t.get? i = none := by
  unfold deadFrom
  rw [Array.all_eq_true]
  constructor
  · intro h i hi
    by_cases hlt : i < t.slots.size
    · have hk := h (i - n) (by simp; omega)
      simp only [Array.getElem_extract, Nat.add_sub_cancel' hi] at hk
      simp [get?, Array.getElem?_eq_getElem hlt, Option.isNone_iff_eq_none.mp hk]
    · exact get?_eq_none_of_le (Nat.le_of_not_lt hlt)
  · intro h k hk
    simp only [Array.size_extract] at hk
    have hi : n + k < t.slots.size := by omega
    have hnone := h (n + k) (Nat.le_add_right n k)
    simp only [get?, Array.getElem?_eq_getElem hi, Option.bind_some] at hnone
    simpa [Array.getElem_extract] using hnone

@[simp] theorem hwm_update (t : Table ε) (i : Nat) (f : ε → ε) : (t.update i f).hwm = t.hwm := by
  simp [update, hwm]

theorem get?_update (t : Table ε) (i j : Nat) (f : ε → ε) :
    (t.update i f).get? j = if i = j then (t.get? j).map f else t.get? j := by
  unfold update get?
  rw [Array.getElem?_modify]
  by_cases hij : i = j
  · subst hij
    cases t.slots[i]? with
    | none => simp
    | some slot => cases slot <;> simp
  · simp [hij]

theorem get?_push (t : Table ε) (e : ε) (j : Nat) :
    (t.push e).2.get? j = if j = t.hwm then some e else t.get? j := by
  unfold get? push hwm
  simp only [slots_reserve, Array.getElem?_push]
  split <;> simp

theorem get?_truncate (t : Table ε) (n j : Nat) :
    (t.truncate n).get? j = if j < n then t.get? j else none := by
  simp only [truncate, get?, Array.getElem?_extract, Nat.sub_zero, Nat.zero_add, Nat.lt_min]
  by_cases hjn : j < n
  · by_cases hjs : j < t.slots.size
    · simp [hjn, hjs]
    · simp [hjn, hjs]
  · simp [hjn]

/-- Truncating where every slot from the mark on is a tombstone keeps every slot's entry. -/
theorem get?_truncate_of_dead {t : Table ε} {n : Nat} (hdead : ∀ j, n ≤ j → t.get? j = none)
    (i : Nat) : (t.truncate n).get? i = t.get? i := by
  rw [get?_truncate]
  split
  · rfl
  · exact (hdead i (Nat.le_of_not_lt ‹_›)).symm

theorem isSome_get?_update (t : Table ε) (i j : Nat) (f : ε → ε) :
    ((t.update i f).get? j).isSome = (t.get? j).isSome := by
  rw [get?_update]
  split <;> simp

theorem get?_reserve (t : Table ε) (j : Nat) : t.reserve.get? j = t.get? j :=
  get?_of_slots (slots_reserve t) j

@[simp] theorem hwm_reserve (t : Table ε) : t.reserve.hwm = t.hwm := by
  simp [hwm, slots_reserve]

/-! ## Lookups -/

theorem accepts_eq_true {hit : ε → Bool} {slot : Option ε} :
    accepts hit slot = true ↔ ∃ e, slot = some e ∧ hit e = true := by
  cases slot <;> simp [accepts]

/-- The plain scan answers nothing exactly when no live slot is accepted. -/
theorem firstMatch_eq_none_iff (t : Table ε) (hit : ε → Bool) :
    t.firstMatch hit = none ↔ ∀ i e, t.get? i = some e → hit e = false := by
  unfold firstMatch
  rw [Array.findIdx?_eq_none_iff]
  constructor
  · intro h i e he
    rw [get?_eq_some_iff] at he
    have hmem : some e ∈ t.slots := Array.mem_of_getElem? he
    simpa [accepts] using h _ hmem
  · intro h slot hmem
    obtain ⟨i, hi, rfl⟩ := Array.getElem_of_mem hmem
    cases hs : t.slots[i] with
    | none => rfl
    | some e =>
      have he : t.get? i = some e := by
        rw [get?_eq_some_iff, Array.getElem?_eq_getElem hi, hs]
      simpa [accepts] using h i e he

/-- The plain scan answers the first live slot it accepts. -/
theorem firstMatch_eq_some {t : Table ε} {hit : ε → Bool} {i : Nat}
    (h : t.firstMatch hit = some i) :
    (∃ e, t.get? i = some e ∧ hit e = true) ∧
      ∀ j < i, ∀ e, t.get? j = some e → hit e = false := by
  unfold firstMatch at h
  obtain ⟨hi, hacc, hbefore⟩ := Array.findIdx?_eq_some_iff_getElem.mp h
  refine ⟨?_, ?_⟩
  · obtain ⟨e, he, hhit⟩ := accepts_eq_true.mp hacc
    exact ⟨e, by rw [get?_eq_some_iff, Array.getElem?_eq_getElem hi, he], hhit⟩
  · intro j hj e he
    rw [get?_eq_some_iff, Array.getElem?_eq_getElem (Nat.lt_trans hj hi)] at he
    have hno := hbefore j hj
    rw [Option.some.inj he] at hno
    simpa [accepts] using hno

/-- What a lookup answers is a live slot its predicate accepts. -/
theorem find_live {t : Table ε} {hit : ε → Bool} {i : Nat} (h : (t.find hit).1 = some i) :
    ∃ e, t.get? i = some e ∧ hit e = true := by
  rcases find_cases t hit with ⟨e, he, hhit, hfind⟩ | ⟨-, hfind⟩
  · rw [hfind] at h
    cases h
    exact ⟨e, he, hhit⟩
  · rw [hfind] at h
    exact (firstMatch_eq_some h).1

/-- A live, accepted last hit is the answer, whatever the slots below it hold. -/
theorem find_of_lastHit {t : Table ε} {hit : ε → Bool} {e : ε} (he : t.get? t.lastHit = some e)
    (hhit : hit e = true) : t.find hit = (some t.lastHit, t) := by
  rcases find_cases t hit with ⟨-, -, -, hfind⟩ | ⟨hmiss, -⟩
  · exact hfind
  · rw [hmiss e he] at hhit
    cases hhit

/-- A lookup answers nothing exactly when no live slot is accepted. -/
theorem find_eq_none_iff (t : Table ε) (hit : ε → Bool) :
    (t.find hit).1 = none ↔ ∀ i e, t.get? i = some e → hit e = false := by
  rw [← firstMatch_eq_none_iff]
  rcases find_cases t hit with ⟨e, he, hhit, hfind⟩ | ⟨-, hfind⟩
  · have hscan : t.firstMatch hit ≠ none := fun hn =>
      absurd ((firstMatch_eq_none_iff t hit).mp hn _ e he) (by simp [hhit])
    simp [hfind, hscan]
  · rw [hfind]

theorem mem_matching (t : Table ε) (hit : ε → Bool) (i : Nat) :
    i ∈ t.matching hit ↔ ∃ e, t.get? i = some e ∧ hit e = true := by
  unfold matching
  rw [List.mem_filter, List.mem_range, accepts_eq_true]
  constructor
  · exact fun h => h.2
  · rintro ⟨e, he, hhit⟩
    exact ⟨lt_hwm_of_get? he, e, he, hhit⟩

theorem nodup_matching (t : Table ε) (hit : ε → Bool) : (t.matching hit).Nodup :=
  (List.nodup_range).filter _

theorem accepts_true (slot : Option ε) : accepts (fun _ => true) slot = slot.isSome := by
  cases slot <;> rfl

/-- Tables with the same high-water mark and the same live slots list the same live slots. -/
theorem matching_true_congr {t t' : Table ε} (hhwm : t'.hwm = t.hwm)
    (hlive : ∀ i, (t'.get? i).isSome = (t.get? i).isSome) :
    t'.matching (fun _ => true) = t.matching (fun _ => true) := by
  unfold matching
  rw [hhwm]
  exact List.filter_congr fun i _ => by rw [accepts_true, accepts_true, hlive]

theorem matching_push (t : Table ε) (e : ε) (hit : ε → Bool) :
    (t.push e).2.matching hit = t.matching hit ++ if hit e then [t.hwm] else [] := by
  unfold matching
  rw [hwm_push, List.range_succ, List.filter_append]
  congr 1
  · refine List.filter_congr fun i hi => ?_
    rw [get?_push, if_neg (Nat.ne_of_lt (List.mem_range.mp hi))]
  · rw [List.filter_cons, List.filter_nil, get?_push, if_pos rfl]
    rfl

theorem matching_take (t : Table ε) (i : Nat) (hit : ε → Bool) :
    (t.take i).2.matching hit = (t.matching hit).filter (· ≠ i) := by
  unfold matching
  rw [hwm_take, List.filter_filter]
  refine List.filter_congr fun j _ => ?_
  rw [get?_take]
  by_cases hij : i = j
  · subst hij
    simp [accepts]
  · simp [hij, Ne.symm hij]

theorem matching_truncate {t : Table ε} {n : Nat} (hdead : ∀ j, n ≤ j → t.get? j = none)
    (hit : ε → Bool) : (t.truncate n).matching hit = t.matching hit := by
  obtain ⟨k, hk⟩ : ∃ k, t.hwm = min n t.hwm + k := ⟨t.hwm - min n t.hwm, by omega⟩
  have hrange : List.range t.hwm =
      List.range (min n t.hwm) ++ (List.range k).map (min n t.hwm + ·) := by
    rw [← List.range_add, ← hk]
  have hnil : ((List.range k).map (min n t.hwm + ·)).filter
      (fun i => accepts hit (t.get? i)) = [] := by
    refine List.filter_eq_nil_iff.mpr fun x hx => ?_
    obtain ⟨j, hj, rfl⟩ := List.mem_map.mp hx
    have hjk := List.mem_range.mp hj
    rw [hdead _ (by omega)]
    simp [accepts]
  unfold matching
  rw [hwm_truncate, hrange, List.filter_append, hnil, List.append_nil]
  exact List.filter_congr fun i _ => by rw [get?_truncate_of_dead hdead]

/-! ## Tables that keep their slots -/

/-- `t'` has the slots of `t`, each live slot of `t'` live in `t` with an entry related to its
    own by `K`: slots may have been tombstoned and entries changed, and nothing added. -/
structure Within (K : ε → ε → Prop) (t t' : Table ε) : Prop where
  hwm_eq : t'.hwm = t.hwm
  live : ∀ i e', t'.get? i = some e' → ∃ e, t.get? i = some e ∧ K e e'

variable {K : ε → ε → Prop}

theorem Within.of_slots (hK : ∀ e, K e e) {t t' : Table ε} (h : t'.slots = t.slots) :
    Within K t t' where
  hwm_eq := by simp [hwm, h]
  live i e' he' := ⟨e', by rw [← get?_of_slots h i]; exact he', hK e'⟩

theorem Within.trans {t₁ t₂ t₃ : Table ε} (h₁ : Within K t₁ t₂) (h₂ : Within K t₂ t₃)
    (hK : ∀ a b c, K a b → K b c → K a c) : Within K t₁ t₃ where
  hwm_eq := h₂.hwm_eq.trans h₁.hwm_eq
  live i e₃ he₃ := by
    obtain ⟨e₂, he₂, hk₂⟩ := h₂.live i e₃ he₃
    obtain ⟨e₁, he₁, hk₁⟩ := h₁.live i e₂ he₂
    exact ⟨e₁, he₁, hK _ _ _ hk₁ hk₂⟩

theorem within_take (hK : ∀ e, K e e) (t : Table ε) (i : Nat) : Within K t (t.take i).2 where
  hwm_eq := hwm_take t i
  live j e' he' := by
    rw [get?_take] at he'
    split at he'
    · cases he'
    · exact ⟨e', he', hK e'⟩

theorem within_update (hK : ∀ e, K e e) (t : Table ε) (i : Nat) (f : ε → ε)
    (hf : ∀ e, t.get? i = some e → K e (f e)) : Within K t (t.update i f) where
  hwm_eq := hwm_update t i f
  live j e' he' := by
    rw [get?_update] at he'
    split at he'
    · next hij =>
      subst hij
      obtain ⟨e, he, rfl⟩ := Option.map_eq_some_iff.mp he'
      exact ⟨e, he, hf e he⟩
    · exact ⟨e', he', hK e'⟩

/-- A table within another that keeps every live slot of it live lists the same live slots. -/
theorem Within.matching_eq {t t' : Table ε} (hw : Within K t t')
    (hlive : ∀ i, (t.get? i).isSome → (t'.get? i).isSome) :
    t'.matching (fun _ => true) = t.matching (fun _ => true) := by
  refine matching_true_congr hw.hwm_eq fun i => Bool.eq_iff_iff.mpr ⟨fun h' => ?_, hlive i⟩
  obtain ⟨d', hd'⟩ := Option.isSome_iff_exists.mp h'
  obtain ⟨d, hd, _⟩ := hw.live i d' hd'
  rw [hd]
  rfl

end Table
end ArrayBridge
