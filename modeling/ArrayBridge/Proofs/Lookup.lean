import ArrayBridge.Proofs.Unique
import Mathlib.Data.List.Nodup

/-
  The lookup's last-hit cache against the plain scan. `find` answers the slot of the last hit at
  once when that slot is live and its entry is accepted, and only otherwise scans from the bottom
  (`firstMatch`), making a slot the scan finds the new last hit (`find_cases`). The two answers
  agree whenever at most one live slot is accepted (`OneAccepted`), wherever the last hit points:
  at a live slot, at a tombstone or past the high-water mark. For a lookup by object identity
  under an equivalence, that is a table whose live objects are pairwise distinct; and on every
  table where two live slots hold one object, a last hit on the later one answers it ahead of
  the scan.

  Main statements: `find_agrees_with_scan`, and `Reachable.lookup_answers_as_scan`, which reads
  it on every reachable bridge through the invariant that live objects are distinct.
-/

namespace ArrayBridge

/-- Whether an entry stands for object `o`, objects being identified by `same`. -/
def Entry.standsFor {Obj Arr Pin : Type} (same : Obj → Obj → Bool) (o : Obj)
    (e : Entry Obj Arr Pin) : Bool :=
  same e.object o

namespace Table

variable {ε : Type} {t : Table ε} {hit : ε → Bool}

/-- Slot `i` is the first live slot whose entry `hit` accepts. -/
def FirstAccepted (t : Table ε) (hit : ε → Bool) (i : Nat) : Prop :=
  (∃ e, t.get? i = some e ∧ hit e = true) ∧ ∀ j < i, ∀ e, t.get? j = some e → hit e = false

/-- At most one live slot holds an entry that `hit` accepts. -/
def OneAccepted (t : Table ε) (hit : ε → Bool) : Prop :=
  ∀ i j d e, t.get? i = some d → t.get? j = some e → hit d = true → hit e = true → i = j

/-- The lookup by `hit` answers as the plain scan does, the first live slot accepted or none
    when no live slot is accepted; it moves only the last hit, onto the slot it answers; and
    that slot is all that `matching` lists. -/
structure AnswersAsScan (t : Table ε) (hit : ε → Bool) : Prop where
  eq_scan : (t.find hit).1 = t.firstMatch hit
  some_iff : ∀ i, (t.find hit).1 = some i ↔ t.FirstAccepted hit i
  none_iff : (t.find hit).1 = none ↔ ∀ i e, t.get? i = some e → hit e = false
  moves_lastHit : (t.find hit).2 = { t with lastHit := (t.find hit).1.getD t.lastHit }
  matching_eq : t.matching hit = (t.find hit).1.toList

theorem FirstAccepted.unique {i k : Nat} (hi : t.FirstAccepted hit i)
    (hk : t.FirstAccepted hit k) : i = k := by
  obtain ⟨⟨d, hd, hdhit⟩, hbelow_i⟩ := hi
  obtain ⟨⟨e, he, hehit⟩, hbelow_k⟩ := hk
  rcases Nat.lt_trichotomy i k with hlt | heq | hgt
  · rw [hbelow_k i hlt d hd] at hdhit
    cases hdhit
  · exact heq
  · rw [hbelow_i k hgt e he] at hehit
    cases hehit

/-- The scan answers exactly the first accepted live slot. -/
theorem firstMatch_eq_some_iff {i : Nat} : t.firstMatch hit = some i ↔ t.FirstAccepted hit i := by
  refine ⟨firstMatch_eq_some, fun hi => ?_⟩
  cases hm : t.firstMatch hit with
  | none =>
    obtain ⟨⟨e, he, hhit⟩, -⟩ := hi
    rw [(firstMatch_eq_none_iff t hit).mp hm i e he] at hhit
    cases hhit
  | some k => rw [FirstAccepted.unique (firstMatch_eq_some hm) hi]

/-- With at most one accepted live slot, an accepted live slot is the first one. -/
theorem OneAccepted.firstAccepted (h : t.OneAccepted hit) {i : Nat} {e : ε}
    (he : t.get? i = some e) (hhit : hit e = true) : t.FirstAccepted hit i := by
  refine ⟨⟨e, he, hhit⟩, fun j hj d hd => ?_⟩
  cases hdhit : hit d with
  | false => rfl
  | true => exact absurd (h j i d e hd he hdhit hhit) (Nat.ne_of_lt hj)

/-- With at most one accepted live slot, the last hit answers what the scan answers. -/
theorem OneAccepted.find_eq_firstMatch (h : t.OneAccepted hit) :
    (t.find hit).1 = t.firstMatch hit := by
  rcases find_cases t hit with ⟨e, he, hhit, hfind⟩ | ⟨-, hfind⟩
  · rw [hfind, firstMatch_eq_some_iff.mpr (h.firstAccepted he hhit)]
  · rw [hfind]

/-- With at most one accepted live slot, that slot is all that `matching` lists. -/
theorem OneAccepted.matching_eq (h : t.OneAccepted hit) :
    t.matching hit = (t.firstMatch hit).toList := by
  cases hm : t.firstMatch hit with
  | none =>
    rw [Option.toList_none, List.eq_nil_iff_forall_not_mem]
    intro i hi
    obtain ⟨e, he, hhit⟩ := (mem_matching t hit i).mp hi
    rw [(firstMatch_eq_none_iff t hit).mp hm i e he] at hhit
    cases hhit
  | some k =>
    obtain ⟨⟨e, he, hhit⟩, -⟩ := firstMatch_eq_some hm
    have hk : k ∈ t.matching hit := (mem_matching t hit k).mpr ⟨e, he, hhit⟩
    have honly : ∀ i ∈ t.matching hit, i = k := by
      intro i hi
      obtain ⟨d, hd, hdhit⟩ := (mem_matching t hit i).mp hi
      exact h i k d e hd he hdhit hhit
    rw [Option.toList_some]
    by_contra hne
    rcases ((nodup_matching t hit).ne_singleton_iff k).mp hne with hnil | ⟨i, hi, hik⟩
    · rw [hnil] at hk
      cases hk
    · exact hik (honly i hi)

theorem OneAccepted.answersAsScan (h : t.OneAccepted hit) : t.AnswersAsScan hit := by
  have hscan : (t.find hit).1 = t.firstMatch hit := h.find_eq_firstMatch
  refine ⟨hscan, fun i => ?_, find_eq_none_iff t hit, snd_find t hit, ?_⟩
  · rw [hscan]
    exact firstMatch_eq_some_iff
  · rw [hscan]
    exact h.matching_eq

/-! ## Lookups by object identity -/

section Identity

variable {Obj Arr Pin : Type} {same : Obj → Obj → Bool} {t : Table (Entry Obj Arr Pin)}

/-- No two live slots hold entries for objects that `same` identifies. -/
def LiveDistinct (same : Obj → Obj → Bool) (t : Table (Entry Obj Arr Pin)) : Prop :=
  ∀ i j d e, t.get? i = some d → t.get? j = some e → same d.object e.object = true → i = j

/-- Two live slots that both stand for `o` hold objects identified with each other. -/
theorem LiveDistinct.oneAccepted (hsame : Equivalence fun a c => same a c = true)
    (h : t.LiveDistinct same) (o : Obj) : t.OneAccepted (Entry.standsFor same o) := by
  intro i j d e hd he hdo heo
  exact h i j d e hd he (hsame.trans hdo (hsame.symm heo))

/-- Where two live slots hold one object, a last hit on the later slot answers a lookup of its
    object, while the scan answers an earlier slot. -/
theorem find_later_duplicate (hsame : Equivalence fun a c => same a c = true)
    (hnd : ¬ t.LiveDistinct same) :
    ∃ o n i j, i < j ∧ ({ t with lastHit := n }.find (Entry.standsFor same o)).1 = some j ∧
      t.firstMatch (Entry.standsFor same o) = some i := by
  obtain ⟨i, j, d, e, hd, he, hde, hij⟩ : ∃ i j d e, t.get? i = some d ∧ t.get? j = some e ∧
      same d.object e.object = true ∧ i < j := by
    simp only [LiveDistinct, not_forall] at hnd
    obtain ⟨i, j, d, e, hd, he, hde, hne⟩ := hnd
    rcases Nat.lt_or_gt_of_ne hne with hlt | hgt
    · exact ⟨i, j, d, e, hd, he, hde, hlt⟩
    · exact ⟨j, i, e, d, he, hd, hsame.symm hde, hgt⟩
  have hfast : ({ t with lastHit := j }.find (Entry.standsFor same e.object)).1 = some j := by
    rw [find_of_lastHit (t := { t with lastHit := j }) (e := e) he (hsame.refl e.object)]
  cases hm : t.firstMatch (Entry.standsFor same e.object) with
  | none =>
    have hno := (firstMatch_eq_none_iff t _).mp hm i d hd
    rw [Entry.standsFor, hde] at hno
    cases hno
  | some k =>
    have hki : k ≤ i := by
      refine Nat.le_of_not_lt fun hik => ?_
      have hno := (firstMatch_eq_some hm).2 i hik d hd
      rw [Entry.standsFor, hde] at hno
      cases hno
    exact ⟨e.object, j, k, j, Nat.lt_of_le_of_lt hki hij, hfast, hm⟩

/-- For objects identified by an equivalence `same`, the lookup of any object on a table whose
    live objects are pairwise distinct answers as the plain scan does, whatever slot the last
    hit points at (see `AnswersAsScan`); on a table where two live slots hold one object, some
    last hit makes it answer a later slot than the scan. -/
theorem find_agrees_with_scan (hsame : Equivalence fun a c => same a c = true)
    (t : Table (Entry Obj Arr Pin)) :
    (t.LiveDistinct same → ∀ o, t.AnswersAsScan (Entry.standsFor same o)) ∧
      (¬ t.LiveDistinct same → ∃ o n i j, i < j ∧
        ({ t with lastHit := n }.find (Entry.standsFor same o)).1 = some j ∧
        t.firstMatch (Entry.standsFor same o) = some i) :=
  ⟨fun h o => (h.oneAccepted hsame o).answersAsScan, find_later_duplicate hsame⟩

/-- An entry for object `o` as the table's own tests make it: four logical cells. -/
def benchEntry (o : Nat) : Entry Nat Nat Nat := ⟨.logical, o, some (o + 100), .logical [0, 0, 0, 0]⟩

/-- Objects 1 and 2 lent and the buffer of 2 finished: the last hit stays on its tombstone. -/
def benchTombstoned : Table (Entry Nat Nat Nat) :=
  ((((withCapacity 4).push (benchEntry 1)).2.push (benchEntry 2)).2.take 1).2

/-- Objects 7, 8 and 7 lent in turn, with nothing to stop the second buffer for 7. -/
def benchLentTwice : Table (Entry Nat Nat Nat) :=
  ((((withCapacity 4).push (benchEntry 7)).2.push (benchEntry 8)).2.push (benchEntry 7)).2

theorem find_agrees_with_scan_bench :
    Equivalence (fun a c : Nat => (a == c) = true) ∧
      benchTombstoned.LiveDistinct (· == ·) ∧
      (∀ o, benchTombstoned.AnswersAsScan (Entry.standsFor (· == ·) o)) ∧
      ¬ benchLentTwice.LiveDistinct (· == ·) ∧
      (∃ o n i j, i < j ∧
        ({ benchLentTwice with lastHit := n }.find (Entry.standsFor (· == ·) o)).1 = some j ∧
        benchLentTwice.firstMatch (Entry.standsFor (· == ·) o) = some i) ∧
      (benchLentTwice.find (Entry.standsFor (· == ·) 7)).1 = some 2 ∧
      benchLentTwice.firstMatch (Entry.standsFor (· == ·) 7) = some 0 := by
  have hsame : Equivalence (fun a c : Nat => (a == c) = true) :=
    ⟨fun a => beq_self_eq_true a, fun h => beq_iff_eq.mpr (beq_iff_eq.mp h).symm,
      fun h₁ h₂ => beq_iff_eq.mpr ((beq_iff_eq.mp h₁).trans (beq_iff_eq.mp h₂))⟩
  have hlive : ∀ i d, benchTombstoned.get? i = some d → i = 0 := by
    intro i d hd
    have hlt : i < 2 := lt_hwm_of_get? hd
    rcases i with _ | _ | i
    · rfl
    · rw [show benchTombstoned.get? (0 + 1) = none by decide] at hd
      cases hd
    · omega
  have hdistinct : benchTombstoned.LiveDistinct (· == ·) := fun i j d e hd he _ =>
    (hlive i d hd).trans (hlive j e he).symm
  have hdup : ¬ benchLentTwice.LiveDistinct (· == ·) := fun h =>
    absurd (h 0 2 (benchEntry 7) (benchEntry 7) (by decide) (by decide) (by decide)) (by decide)
  exact ⟨hsame, hdistinct, (find_agrees_with_scan hsame benchTombstoned).1 hdistinct, hdup,
    (find_agrees_with_scan hsame benchLentTwice).2 hdup, by decide, by decide +kernel⟩

end Identity

end Table

namespace Reachable

variable {σ Obj Arr Pin : Type} [Host σ Obj Arr Pin] {env : σ → σ → Prop}

/-- With objects identified stably, the lookup of any object in a reachable bridge's table
    answers as the plain scan does, wherever its last hit points. -/
theorem lookup_answers_as_scan (hid : Host.StableIdentity σ) {b : Bridge σ Obj Arr Pin}
    (hb : Reachable env b) (o : Obj) : b.table.AnswersAsScan (Bridge.holds b.host o) :=
  (Table.LiveDistinct.oneAccepted (hid.equiv b.host) (hb.distinct hid) o).answersAsScan

end Reachable

end ArrayBridge
