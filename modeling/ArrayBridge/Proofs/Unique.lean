import ArrayBridge.Proofs.Reachable

/-
  One live entry per object. When the runtime's identity of objects is an equivalence that no
  runtime state changes (`Host.StableIdentity`), no two live slots hold objects it identifies
  (`Bridge.Distinct`). Only a lend appends, and a lend checks first that no live entry stands
  for the object; tombstoning, truncating and refreshing only take entries away or keep them.

  Main statement: `live_objects_distinct`, with its consequences that invalidating an object
  finishes at most one buffer and that acquiring an alias of an object with a live buffer
  appends nothing.
-/

namespace ArrayBridge

/-- The runtime's identity of objects is an equivalence, and no runtime state changes it. -/
structure Host.StableIdentity (σ : Type) {Obj Arr Pin : Type} [Host σ Obj Arr Pin] : Prop where
  stable : ∀ h h' : σ, Host.sameObject h = Host.sameObject h'
  equiv : ∀ h : σ, Equivalence fun a c => Host.sameObject h a c = true

namespace Bridge

variable {σ Obj Arr Pin : Type} [Host σ Obj Arr Pin]

/-- No two live slots hold entries for objects the runtime identifies. -/
def Distinct (b : Bridge σ Obj Arr Pin) : Prop :=
  ∀ i j d e, b.table.get? i = some d → b.table.get? j = some e →
    Host.sameObject b.host d.object e.object = true → i = j

theorem distinct_new {host : σ} {config : Config} {b : Bridge σ Obj Arr Pin}
    (h : Bridge.new host config = .ok b) : Distinct b := by
  obtain ⟨_, rfl⟩ := Bridge.new_eq_ok h
  intro i j d e hd
  simp at hd

section Stable

variable (hid : Host.StableIdentity σ)
include hid

/-- A bridge whose table keeps only entries of another one, for the same objects, is distinct
    when that one is. -/
theorem Distinct.of_within {b b' : Bridge σ Obj Arr Pin} (h : Distinct b)
    (hw : b.table.Within Entry.Kept b'.table) : Distinct b' := by
  intro i j d' e' hd' he' hsame
  obtain ⟨d, hd, hkd⟩ := hw.live i d' hd'
  obtain ⟨e, he, hke⟩ := hw.live j e' he'
  refine h i j d e hd he ?_
  rw [hid.stable b.host b'.host, ← hkd.object, ← hke.object]
  exact hsame

/-- Every move of the frames and the table keeps live objects distinct. -/
theorem Distinct.settle {b b' : Bridge σ Obj Arr Pin} (h : Distinct b) (hs : Settle b b') :
    Distinct b' := by
  cases hs with
  | thin ht => exact h.of_within hid ht.table
  | enter _ _ _ htable _ =>
    refine h.of_within hid ?_
    rw [htable]
    exact Table.Within.of_slots Entry.Kept.refl rfl
  | exit frame _ _ _ _ htable _ =>
    intro i j d e hd he hsame
    rw [htable, Table.get?_truncate] at hd he
    split at hd
    · split at he
      · exact h i j d e hd he (by rw [hid.stable b.host b'.host]; exact hsame)
      · cases he
    · cases hd

/-- A lend appends an entry for an object no live entry stands for. -/
theorem Distinct.lend {b b' : Bridge σ Obj Arr Pin} {e : Entry Obj Arr Pin} (h : Distinct b)
    (hl : Lends b b' e) : Distinct b' := by
  -- the appended entry is told apart from every older one by the lend's own check
  have hfresh : ∀ k d, b.table.get? k = some d →
      Host.sameObject b'.host d.object e.object = false := by
    intro k d hd
    rw [hid.stable b'.host b.host]
    exact hl.fresh k d hd
  intro i j d₁ d₂ hd₁ hd₂ hsame
  rw [hl.get?_eq] at hd₁ hd₂
  split at hd₁ <;> split at hd₂
  · next hi hj => rw [hi, hj]
  · cases hd₁
    have hback : Host.sameObject b'.host d₂.object e.object = true :=
      (hid.equiv b'.host).symm hsame
    rw [hfresh j d₂ hd₂] at hback
    cases hback
  · cases hd₂
    rw [hfresh i d₁ hd₁] at hsame
    cases hsame
  · exact h i j d₁ d₂ hd₁ hd₂ (by rw [hid.stable b.host b'.host]; exact hsame)

/-- At most one live entry stands for an object. -/
theorem Distinct.length_matching_le {b : Bridge σ Obj Arr Pin} (h : Distinct b) (o : Obj) :
    (b.table.matching (holds b.host o)).length ≤ 1 := by
  have hall : ∀ i ∈ b.table.matching (holds b.host o), ∀ j ∈ b.table.matching (holds b.host o),
      i = j := by
    intro i hi j hj
    obtain ⟨d, hd, hdo⟩ := (Table.mem_matching _ _ _).mp hi
    obtain ⟨e, he, heo⟩ := (Table.mem_matching _ _ _).mp hj
    exact h i j d e hd he ((hid.equiv b.host).trans hdo ((hid.equiv b.host).symm heo))
  cases hl : b.table.matching (holds b.host o) with
  | nil => simp
  | cons i rest =>
    have hsub : i :: rest ⊆ [i] := by
      intro j hj
      rw [hall j (hl ▸ hj) i (hl ▸ List.mem_cons_self), List.mem_singleton]
    have hnodup : (i :: rest).Nodup := hl ▸ Table.nodup_matching _ _
    exact hnodup.length_le_of_subset hsub

end Stable

/-- Invalidating answers the number of live entries that stand for the object. -/
theorem invalidate_eq_ok {o : Obj} {b b' : Bridge σ Obj Arr Pin} {n : Nat}
    (h : invalidate o b = .ok n b') : n = (b.table.matching (holds b.host o)).length := by
  unfold invalidate at h
  obtain ⟨_, b₁, hv, h⟩ := Op.bind_eq_ok.mp h
  rw [validate_apply] at hv
  split at hv
  · cases hv
  · cases hv
    obtain ⟨_, _, hget, h⟩ := Op.bind_eq_ok.mp h
    cases hget
    split at h
    · next hempty =>
      obtain ⟨_, _, _, hzero⟩ := Op.bind_eq_ok.mp h
      cases hzero
      rw [List.isEmpty_iff.mp hempty, List.length_nil]
    · obtain ⟨_, _, _, hcount⟩ := Op.bind_eq_ok.mp h
      cases hcount
      rfl

/-- Acquiring an object that a live entry already stands for appends nothing. -/
theorem hwm_acquire_of_holds {o : Obj} (kind : ElemKind) {b : Bridge σ Obj Arr Pin} {i : Nat}
    {d : Entry Obj Arr Pin} (hd : b.table.get? i = some d) (hholds : holds b.host o d = true) :
    ((acquire o kind).after b).hwm = b.hwm := by
  rcases acquire_moves o kind b with hthin | ⟨e, rfl, _, hlend⟩
  · exact hthin.table.hwm_eq
  · -- a lend checks that no live entry stands for its object
    rw [hlend.fresh i d hd] at hholds
    cases hholds

end Bridge

namespace Reachable

variable {σ Obj Arr Pin : Type} [Host σ Obj Arr Pin] {env : σ → σ → Prop}

theorem distinct (hid : Host.StableIdentity σ) {b : Bridge σ Obj Arr Pin}
    (h : Reachable env b) : b.Distinct :=
  h.invariant (fun _ _ _ => Bridge.distinct_new) (fun _ _ hb hs => hb.settle hid hs)
    (fun _ _ _ hb hl => hb.lend hid hl)

/-- When the runtime's identity of objects is a stable equivalence, no two live slots of a
    reachable bridge hold objects it identifies. So invalidating an object finishes at most
    one buffer, and acquiring any alias of an object that has a live buffer appends nothing. -/
theorem live_objects_distinct (hid : Host.StableIdentity σ) {b : Bridge σ Obj Arr Pin}
    (hb : Reachable env b) :
    (∀ i j d e, b.table.get? i = some d → b.table.get? j = some e →
        Host.sameObject b.host d.object e.object = true → i = j) ∧
      (∀ o n b', Bridge.invalidate o b = .ok n b' → n ≤ 1) ∧
      ∀ i d o kind, b.table.get? i = some d → Host.sameObject b.host d.object o = true →
        ((Bridge.acquire o kind).after b).hwm = b.hwm := by
  have hdistinct := hb.distinct hid
  refine ⟨hdistinct, ?_, fun i d o kind hd hsame => Bridge.hwm_acquire_of_holds kind hd hsame⟩
  intro o n b' hinv
  rw [Bridge.invalidate_eq_ok hinv]
  exact hdistinct.length_matching_le hid o

end Reachable

/-- The test bench identifies references by the object they name. -/
theorem Bench.stableIdentity : Host.StableIdentity Bench where
  stable _ _ := rfl
  equiv _ :=
    { refl := fun a => beq_self_eq_true a.object
      symm := fun h => beq_iff_eq.mpr (beq_iff_eq.mp h).symm
      trans := fun h₁ h₂ => beq_iff_eq.mpr ((beq_iff_eq.mp h₁).trans (beq_iff_eq.mp h₂)) }

theorem live_objects_distinct_benchLent :
    Host.StableIdentity Bench ∧ Reachable (fun _ _ => True) (Reachable.benchLent false .default) ∧
      ((Reachable.benchLent false .default).table.get? 0).isSome = true ∧
      ((∀ i j d e, (Reachable.benchLent false .default).table.get? i = some d →
          (Reachable.benchLent false .default).table.get? j = some e →
          Host.sameObject (Reachable.benchLent false .default).host d.object e.object = true →
          i = j) ∧
        (∀ o n b', Bridge.invalidate o (Reachable.benchLent false .default) = .ok n b' → n ≤ 1) ∧
        ∀ i d o kind, (Reachable.benchLent false .default).table.get? i = some d →
          Host.sameObject (Reachable.benchLent false .default).host d.object o = true →
          ((Bridge.acquire o kind).after (Reachable.benchLent false .default)).hwm =
            (Reachable.benchLent false .default).hwm) := by
  have hb := Reachable.reachable_benchLent false .default rfl (fun _ _ => True)
  exact ⟨Bench.stableIdentity, hb, by decide +kernel,
    Reachable.live_objects_distinct Bench.stableIdentity hb⟩

end ArrayBridge
