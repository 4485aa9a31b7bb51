import ArrayBridge.Proofs.Frames
import ArrayBridge.Proofs.Unique

/-
  Acquiring an object that already has a live buffer. A reference that passes validation is
  looked up, and in a reachable bridge whose runtime identifies objects stably the lookup finds
  the object's one live entry (`find_eq_of_distinct`). The cached buffer is then answered: its
  address, with nothing appended, no runtime call made and only log records kept
  (`Host.Logged`); a kind of another element width is refused, and nothing changes but the
  table's last hit. An entry that no step finishes keeps its storage (`Reachable.kept_along`),
  so every later acquire answers the same address.

  Validation comes first: a reference it refuses is refused even when its object has a live
  buffer (`acquire_invalidated_reference_fails`). Main statement: `acquire_answers_cached`.
-/

namespace ArrayBridge

/-- `h'` is `h` with log records added: no runtime call was made between them. -/
def Host.Logged {σ Obj Arr Pin : Type} [Host σ Obj Arr Pin] (h h' : σ) : Prop :=
  Relation.ReflTransGen (fun x y => ∃ level target message, y = Host.log level target message x)
    h h'

namespace Bridge

variable {σ Obj Arr Pin : Type} [Host σ Obj Arr Pin]

open Op

/-! ## Answering a cached entry -/

theorem reuse_of_width_eq (o : Obj) {kind : ElemKind} (index : Nat) {e : Entry Obj Arr Pin}
    (b : Bridge σ Obj Arr Pin) (hw : e.kind.width = kind.width) :
    ∃ h' : σ, reuse o kind index e b = .ok (e.buffer.address index) { b with host := h' } ∧
      Host.Logged b.host h' := by
  unfold reuse
  rw [bind_apply, get_apply]
  dsimp only
  split
  · rw [if_neg fun hne => hne hw]
    simp only [note, bind_apply, modify_apply, pure_apply]
    exact ⟨_, rfl, .tail (.single ⟨_, _, _, rfl⟩) ⟨_, _, _, rfl⟩⟩
  · simp only [note, bind_apply, modify_apply, pure_apply]
    exact ⟨_, rfl, .single ⟨_, _, _, rfl⟩⟩

theorem reuse_of_width_ne (o : Obj) {kind : ElemKind} (index : Nat) {e : Entry Obj Arr Pin}
    (b : Bridge σ Obj Arr Pin) (hw : e.kind.width ≠ kind.width) :
    reuse o kind index e b = .error (.fault (.unexpectedKind
      s!"{kindMismatch}: {Host.showObject b.host o} cached as {e.kind.name}, requested as {kind.name}"))
      b := by
  have hk : e.kind ≠ kind := fun h => hw (h ▸ rfl)
  unfold reuse
  rw [bind_apply, get_apply]
  dsimp only
  rw [if_pos hk, if_pos hw]
  rfl

/-- Inside a call, a reference that passes validation and is found in slot `i` is answered from
    that slot's entry, once the lookup has moved the last hit. -/
theorem acquire_of_find {o : Obj} (kind : ElemKind) {b : Bridge σ Obj Arr Pin} {i : Nat}
    {e : Entry Obj Arr Pin} (hdepth : b.depth ≠ 0)
    (hvalid : (b.config.validateRefs && !Host.isValidRef b.host o) = false)
    (hfind : (b.table.find (holds b.host o)).1 = some i) (he : b.table.get? i = some e) :
    acquire o kind b = reuse o kind i e { b with table := (b.table.find (holds b.host o)).2 } := by
  unfold acquire
  rw [bind_apply, get_apply]
  dsimp only
  rw [if_neg hdepth, bind_apply, validate_apply, if_neg (Bool.eq_false_iff.mp hvalid)]
  dsimp only
  rw [bind_apply, lookup_apply]
  dsimp only
  rw [hfind]
  dsimp only
  rw [bind_apply, get_apply]
  dsimp only
  rw [Table.get?_of_slots (Table.slots_find _ _), he]

/-- Inside a call, a reference that validation refuses is refused before anything else. -/
theorem acquire_of_invalid {o : Obj} (kind : ElemKind) {b : Bridge σ Obj Arr Pin}
    (hdepth : b.depth ≠ 0) (hinvalid : (b.config.validateRefs && !Host.isValidRef b.host o) = true) :
    acquire o kind b = .error (.fault (.invalidReference "acquire")) b := by
  unfold acquire
  rw [bind_apply, get_apply]
  dsimp only
  rw [if_neg hdepth, bind_apply, validate_apply, if_pos hinvalid]

/-- With references validated, a reachable bridge can hold a live buffer for an object whose
    references the runtime has since invalidated: acquiring it again, as the kind it was lent
    as, is refused instead of answering the cached buffer. -/
theorem acquire_invalidated_reference_fails :
    ∃ (b : Bridge Bench Handle Nat Nat) (e : Entry Handle Nat Nat),
      Reachable (fun _ _ => True) b ∧ b.table.get? 0 = some e ∧
        Host.sameObject b.host e.object ⟨0, 0⟩ = true ∧
        acquire ⟨0, 0⟩ e.kind b = .error (.fault (.invalidReference "acquire")) b := by
  let lent := Reachable.benchLent true { validateRefs := true }
  let b : Bridge Bench Handle Nat Nat :=
    { lent with host := { lent.host with heap := lent.host.heap.invalidate 0 } }
  have hreach : Reachable (fun _ _ => True) b :=
    (Reachable.reachable_benchLent true { validateRefs := true } rfl _).step (.runtime trivial)
  refine ⟨b, ⟨.integer, ⟨0, 0⟩, some 0, .pinned 0 2⟩, hreach, by decide +kernel,
    by decide +kernel, ?_⟩
  exact acquire_of_invalid _ (by decide +kernel) (by decide +kernel)

/-- With objects identified stably and no two live slots for one object, the lookup of any
    reference to the object of a live entry finds that entry. -/
theorem find_eq_of_distinct (hid : Host.StableIdentity σ) {b : Bridge σ Obj Arr Pin}
    (h : Distinct b) {i : Nat} {e : Entry Obj Arr Pin} (he : b.table.get? i = some e) {o : Obj}
    (hsame : Host.sameObject b.host e.object o = true) :
    (b.table.find (holds b.host o)).1 = some i := by
  cases hfind : (b.table.find (holds b.host o)).1 with
  | none =>
    have hnot : Host.sameObject b.host e.object o = false :=
      (Table.find_eq_none_iff _ _).mp hfind i e he
    rw [hsame] at hnot
    cases hnot
  | some j =>
    obtain ⟨d, hd, hdo⟩ := Table.find_live hfind
    have hde : Host.sameObject b.host d.object e.object = true :=
      (hid.equiv b.host).trans hdo ((hid.equiv b.host).symm hsame)
    rw [h j i d e hd he hde]

/-- In a bridge whose stack fits its table and whose live objects are distinct, a reference to
    the object of a live entry that passes validation is answered with that entry's address
    when the kinds have one element width: nothing is appended and no runtime call is made. -/
theorem acquire_cached (hid : Host.StableIdentity σ) {b : Bridge σ Obj Arr Pin} (hs : Stacked b)
    (hd : Distinct b) {i : Nat} {e : Entry Obj Arr Pin} (he : b.table.get? i = some e) {o : Obj}
    (hsame : Host.sameObject b.host e.object o = true)
    (hvalid : (b.config.validateRefs && !Host.isValidRef b.host o) = false) {kind : ElemKind}
    (hw : e.kind.width = kind.width) :
    ∃ b', acquire o kind b = .ok (e.buffer.address i) b' ∧ b'.table.slots = b.table.slots ∧
      b'.table.capacity = b.table.capacity ∧ b'.calls = b.calls ∧ b'.refs = b.refs ∧
      b'.config = b.config ∧ Host.Logged b.host b'.host := by
  have hacquire := acquire_of_find kind (hs.depth_ne_zero he) hvalid
    (find_eq_of_distinct hid hd he hsame) he
  obtain ⟨h', hreuse, hlogged⟩ :=
    reuse_of_width_eq o i { b with table := (b.table.find (holds b.host o)).2 } hw
  refine ⟨_, hacquire.trans hreuse, ?_, ?_, rfl, rfl, rfl, hlogged⟩
  · exact Table.slots_find _ _
  · exact Table.capacity_find _ _

/-- The same request as a kind of another element width is refused with the kind mismatch;
    only the lookup's last hit has moved. -/
theorem acquire_mismatch (hid : Host.StableIdentity σ) {b : Bridge σ Obj Arr Pin}
    (hs : Stacked b) (hd : Distinct b) {i : Nat} {e : Entry Obj Arr Pin}
    (he : b.table.get? i = some e) {o : Obj} (hsame : Host.sameObject b.host e.object o = true)
    (hvalid : (b.config.validateRefs && !Host.isValidRef b.host o) = false) {kind : ElemKind}
    (hw : e.kind.width ≠ kind.width) :
    acquire o kind b = .error (.fault (.unexpectedKind
      s!"{kindMismatch}: {Host.showObject b.host o} cached as {e.kind.name}, requested as {kind.name}"))
      { b with table := (b.table.find (holds b.host o)).2 } := by
  rw [acquire_of_find kind (hs.depth_ne_zero he) hvalid (find_eq_of_distinct hid hd he hsame) he]
  exact reuse_of_width_ne o i _ hw

end Bridge

namespace Reachable

variable {σ Obj Arr Pin : Type} [Host σ Obj Arr Pin] {env : σ → σ → Prop}

/-- Along steps that leave slot `i` live, its entry keeps its kind, object, array and
    storage. -/
theorem kept_along {b b' : Bridge σ Obj Arr Pin} (hb : Reachable env b) {i : Nat}
    {e : Entry Obj Arr Pin} (he : b.table.get? i = some e)
    (hpath : Relation.ReflTransGen (fun x y => Step env x y ∧ ∃ d, y.table.get? i = some d) b b') :
    Reachable env b' ∧ ∃ d, b'.table.get? i = some d ∧ e.Kept d := by
  induction hpath with
  | refl => exact ⟨hb, e, he, Entry.Kept.refl e⟩
  | tail _ hstep ih =>
    obtain ⟨hr, d, hd, hk⟩ := ih
    obtain ⟨hs, d', hd'⟩ := hstep
    exact ⟨hr.step hs, d', hd', hk.trans (hs.kept hd hd')⟩

/-- In a reachable bridge whose runtime identifies objects stably, let slot `i` hold a live
    entry `e`, and let a reference `o` to its object pass validation. Acquiring `o` as a kind of
    `e`'s element width answers `e`'s address, appends nothing, and changes nothing but the
    table's last hit and the runtime's log; as a kind of another width it is refused with the
    kind mismatch, and nothing changes but the last hit. Along any run that leaves slot `i`
    live, every such acquire answers that same address and appends nothing. -/
theorem acquire_answers_cached (hid : Host.StableIdentity σ) {b : Bridge σ Obj Arr Pin}
    (hb : Reachable env b) {i : Nat} {e : Entry Obj Arr Pin} (he : b.table.get? i = some e)
    (kind : ElemKind) :
    (∀ o, Host.sameObject b.host e.object o = true →
      (b.config.validateRefs && !Host.isValidRef b.host o) = false →
      (e.kind.width = kind.width → ∃ b', Bridge.acquire o kind b = .ok (e.buffer.address i) b' ∧
          b'.table.slots = b.table.slots ∧ b'.table.capacity = b.table.capacity ∧
          b'.calls = b.calls ∧ b'.refs = b.refs ∧ b'.config = b.config ∧
          Host.Logged b.host b'.host) ∧
        (e.kind.width ≠ kind.width → ∃ b', Bridge.acquire o kind b = .error (.fault
            (.unexpectedKind s!"{kindMismatch}: {Host.showObject b.host o} cached as {e.kind.name}, requested as {kind.name}"))
            b' ∧
          b'.table.slots = b.table.slots ∧ b'.table.capacity = b.table.capacity ∧
          b'.host = b.host ∧ b'.calls = b.calls ∧ b'.refs = b.refs ∧ b'.config = b.config)) ∧
    ∀ b', Relation.ReflTransGen (fun x y => Step env x y ∧ ∃ d, y.table.get? i = some d) b b' →
      ∀ o, Host.sameObject b'.host e.object o = true →
        (b'.config.validateRefs && !Host.isValidRef b'.host o) = false →
        e.kind.width = kind.width →
        ∃ b'', Bridge.acquire o kind b' = .ok (e.buffer.address i) b'' ∧
          b''.table.slots = b'.table.slots := by
  have hs := hb.stacked
  have hd := hb.distinct hid
  refine ⟨fun o hsame hvalid => ⟨fun hw => Bridge.acquire_cached hid hs hd he hsame hvalid hw,
    fun hw => ⟨_, Bridge.acquire_mismatch hid hs hd he hsame hvalid hw, Table.slots_find _ _,
      Table.capacity_find _ _, rfl, rfl, rfl, rfl⟩⟩, ?_⟩
  intro b' hpath o hsame hvalid hw
  obtain ⟨hb', d, hd', hk⟩ := hb.kept_along he hpath
  have hsame' : Host.sameObject b'.host d.object o = true := by
    rw [hk.object]
    exact hsame
  have hw' : d.kind.width = kind.width := by
    rw [hk.kind]
    exact hw
  obtain ⟨b'', hacquire, hslots, -⟩ :=
    Bridge.acquire_cached hid hb'.stacked (hb'.distinct hid) hd' hsame' hvalid hw'
  refine ⟨b'', ?_, hslots⟩
  rw [hacquire, ← hk.storage.address_eq i]

theorem acquire_answers_cached_benchLent :
    Host.StableIdentity Bench ∧ Reachable (fun _ _ => True) (benchLent false .default) ∧
      (benchLent false .default).table.get? 0 = some ⟨.integer, ⟨0, 0⟩, some 0, .pinned 0 2⟩ ∧
      ((∀ o, Host.sameObject (benchLent false .default).host ⟨0, 0⟩ o = true →
        ((benchLent false .default).config.validateRefs &&
            !Host.isValidRef (benchLent false .default).host o) = false →
        (ElemKind.integer.width = ElemKind.integer.width → ∃ b',
            Bridge.acquire o .integer (benchLent false .default) = .ok (Address.lent 0) b' ∧
            b'.table.slots = (benchLent false .default).table.slots ∧
            b'.table.capacity = (benchLent false .default).table.capacity ∧
            b'.calls = (benchLent false .default).calls ∧
            b'.refs = (benchLent false .default).refs ∧
            b'.config = (benchLent false .default).config ∧
            Host.Logged (benchLent false .default).host b'.host) ∧
          (ElemKind.integer.width ≠ ElemKind.integer.width → ∃ b',
            Bridge.acquire o .integer (benchLent false .default) = .error (.fault
              (.unexpectedKind s!"{kindMismatch}: {Host.showObject (benchLent false .default).host o} cached as {ElemKind.integer.name}, requested as {ElemKind.integer.name}"))
              b' ∧
            b'.table.slots = (benchLent false .default).table.slots ∧
            b'.table.capacity = (benchLent false .default).table.capacity ∧
            b'.host = (benchLent false .default).host ∧
            b'.calls = (benchLent false .default).calls ∧
            b'.refs = (benchLent false .default).refs ∧
            b'.config = (benchLent false .default).config)) ∧
        ∀ b', Relation.ReflTransGen (fun x y => Step (fun _ _ => True) x y ∧
            ∃ d, y.table.get? 0 = some d) (benchLent false .default) b' →
          ∀ o, Host.sameObject b'.host ⟨0, 0⟩ o = true →
            (b'.config.validateRefs && !Host.isValidRef b'.host o) = false →
            ElemKind.integer.width = ElemKind.integer.width →
            ∃ b'', Bridge.acquire o .integer b' = .ok (Address.lent 0) b'' ∧
              b''.table.slots = b'.table.slots) := by
  have hb := reachable_benchLent false .default rfl (fun _ _ => True)
  have he : (benchLent false .default).table.get? 0 =
      some ⟨.integer, ⟨0, 0⟩, some 0, .pinned 0 2⟩ := by decide +kernel
  exact ⟨Bench.stableIdentity, hb, he, acquire_answers_cached Bench.stableIdentity hb he .integer⟩

end Reachable

end ArrayBridge
