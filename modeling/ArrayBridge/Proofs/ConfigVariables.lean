import ArrayBridge.Config.Env

/-
  The configuration read from environment variables, against the rule each variable's text
  follows. A present variable is trimmed of blanks first. The trace target is then empty, `none`
  or `off`, `console` or `stdout`, or `fd:` followed by a 32-bit integer that is not negative
  (`TraceTarget.Reads`); a switch, in ASCII lower case, is one of four words that turn it on or
  four that turn it off (`SwitchReads`); the call depth is an unsigned 64-bit integer
  (`DepthReads`). An absent variable leaves its setting at the default (`Setting`).

  Each reader answers exactly the values its rule gives a text and refuses every other text with
  one error that quotes it (`Reader`). Reading the configuration answers exactly the
  configurations the variables describe, with a call depth of at least one and both capacities
  at their defaults (`Config.Reads`). Otherwise it fails with the error of the first variable
  refused, in the order trace target, reference checks, embedded mode, call depth, and last with
  the rule that the depth be at least one (`Config.LookupErrors`).

  Main statement: `Config.ofLookup_reads`.
-/

namespace ArrayBridge

/-- The value a looked-up variable gives a setting: what its text reads as when it is present,
    the default when it is absent. -/
def Setting {α : Type} (reads : String → α → Prop) (default : α) : Option String → α → Prop
  | some text, a => reads text a
  | none, a => a = default

/-- Read a setting from a looked-up variable: its text when present, the default when absent. -/
def readSetting {α : Type} (read : String → Except Fault α) (default : α) :
    Option String → Except Fault α
  | some text => read text
  | none => pure default

/-- A reader of texts: `read` answers exactly the values `reads` relates a text to, and refuses
    every other text with `refusal` of that text. -/
structure Reader {α : Type} (read : String → Except Fault α) (reads : String → α → Prop)
    (refusal : String → Fault) : Prop where
  ok_iff : ∀ text a, read text = .ok a ↔ reads text a
  error_iff : ∀ text f, read text = .error f ↔ (∀ a, ¬ reads text a) ∧ f = refusal text

namespace Reader

variable {α : Type} {read : String → Except Fault α} {reads : String → α → Prop}
  {refusal : String → Fault}

/-- A reader that is sound and complete for its rule and refuses with one error. -/
theorem of_sound (sound : ∀ text a, read text = .ok a → reads text a)
    (complete : ∀ text a, reads text a → read text = .ok a)
    (refuses : ∀ text f, read text = .error f → f = refusal text) : Reader read reads refusal where
  ok_iff text a := ⟨sound text a, complete text a⟩
  error_iff text f := by
    constructor
    · intro h
      refine ⟨fun a ha => ?_, refuses text f h⟩
      rw [complete text a ha] at h
      cases h
    · rintro ⟨hnone, rfl⟩
      cases h : read text with
      | error f => rw [refuses text f h]
      | ok a => exact absurd (sound text a h) (hnone a)

/-- A setting read by a reader is read exactly as the setting's rule says. -/
theorem setting_ok_iff (hr : Reader read reads refusal) (default : α) (x : Option String)
    (a : α) : readSetting read default x = .ok a ↔ Setting reads default x a := by
  cases x with
  | some text => exact hr.ok_iff text a
  | none => exact ⟨fun h => by cases h; rfl, fun h => by rw [Setting] at h; rw [h]; rfl⟩

end Reader

/-! ## The trace target -/

namespace TraceTarget

/-- The trace target a value names, once trimmed: tracing is off for an empty value, `none` and
    `off`, goes to standard output for `console` and `stdout`, and to descriptor `fd` for `fd:`
    followed by the text of `fd` as a 32-bit integer, when `fd` is not negative. -/
inductive Reads : String → TraceTarget → Prop
  | off {value : String} : trimBlank value ∈ ["", "none", "off"] → Reads value .off
  | console {value : String} : trimBlank value ∈ ["console", "stdout"] → Reads value .console
  | descriptor {value digits : String} {fd : Int32} : trimBlank value = "fd:" ++ digits →
      readInt32? digits = some fd → 0 ≤ fd → Reads value (.descriptor fd)

/-- A text that starts with `fd:` is `fd:` followed by the rest. -/
theorem eq_fd_append {t : String} (h : t.startsWith "fd:" = true) :
    t = "fd:" ++ String.ofList (t.toList.drop 3) := by
  obtain ⟨rest, hrest⟩ := String.startsWith_string_iff.mp h
  apply String.toList_inj.mp
  simp [← hrest]

/-- A value naming a descriptor is none of the five words. -/
theorem fd_append_not_mem (digits : String) :
    "fd:" ++ digits ∉ ["", "none", "off", "console", "stdout"] := by
  intro hmem
  simp only [List.mem_cons, List.not_mem_nil, or_false] at hmem
  rcases hmem with h | h | h | h | h <;>
    · have hl := congrArg (fun s : String => s.toList.head?) h
      simp at hl

theorem ofText_of_reads {value : String} {target : TraceTarget} (h : Reads value target) :
    ofText value = .ok target := by
  dsimp only [ofText]
  cases h with
  | off hoff =>
    simp only [List.mem_cons, List.not_mem_nil, or_false] at hoff
    rw [if_pos hoff]
  | console hcon =>
    simp only [List.mem_cons, List.not_mem_nil, or_false] at hcon
    have hoff : ¬ (trimBlank value = "" ∨ trimBlank value = "none" ∨ trimBlank value = "off") := by
      rcases hcon with h | h <;> rw [h] <;> decide
    rw [if_neg hoff, if_pos hcon]
  | @descriptor digits fd htrim hread hfd =>
    have hwords := fd_append_not_mem digits
    simp only [List.mem_cons, List.not_mem_nil, or_false, not_or] at hwords
    obtain ⟨h₁, h₂, h₃, h₄, h₅⟩ := hwords
    rw [htrim, if_neg (by simp only [not_or]; exact ⟨h₁, h₂, h₃⟩),
      if_neg (by simp only [not_or]; exact ⟨h₄, h₅⟩)]
    simp [hread, hfd]

theorem reads_of_ofText {value : String} {target : TraceTarget} (h : ofText value = .ok target) :
    Reads value target := by
  dsimp only [ofText] at h
  split at h
  · next hoff =>
    cases h
    exact .off (by simpa using hoff)
  · split at h
    · next hcon =>
      cases h
      exact .console (by simpa using hcon)
    · split at h
      · next hfd =>
        split at h
        · next fd hread =>
          split at h
          · next hnonneg =>
            cases h
            exact .descriptor (eq_fd_append hfd) hread hnonneg
          · cases h
        · cases h
      · cases h

/-- Reading a trace target follows `Reads`, and a value it refuses is quoted trimmed. -/
theorem reader_ofText : Reader ofText Reads
    (fun value => .configuration s!"unrecognised trace output '{trimBlank value}'") := by
  refine Reader.of_sound (fun _ _ => reads_of_ofText) (fun _ _ => ofText_of_reads) ?_
  intro value f h
  dsimp only [ofText] at h
  split at h
  · cases h
  · split at h
    · cases h
    · split at h
      · split at h
        · split at h
          · cases h
          · cases h
            rfl
        · cases h
          rfl
      · cases h
        rfl

end TraceTarget

/-! ## Switches and the call depth -/

/-- What a switch value turns the switch to, once trimmed and in ASCII lower case: four words
    turn it on, four turn it off. -/
inductive SwitchReads : String → Bool → Prop
  | on {value : String} : (trimBlank value).toLower ∈ ["1", "true", "on", "yes"] →
      SwitchReads value true
  | off {value : String} : (trimBlank value).toLower ∈ ["0", "false", "off", "no"] →
      SwitchReads value false

/-- Reading a switch follows `SwitchReads`, and a value it refuses is quoted as given. -/
theorem reader_readSwitch (key : String) : Reader (readSwitch key) SwitchReads
    (fun value => .configuration s!"{key} must be on or off, got '{value}'") := by
  refine Reader.of_sound (fun value x h => ?_) (fun value x h => ?_) (fun value f h => ?_)
  · dsimp only [readSwitch] at h
    split at h
    · next hon =>
      cases h
      exact .on (by simpa using hon)
    · split at h
      · next hoff =>
        cases h
        exact .off (by simpa using hoff)
      · cases h
  · dsimp only [readSwitch]
    cases h with
    | on hon =>
      simp only [List.mem_cons, List.not_mem_nil, or_false] at hon
      rw [if_pos hon]
    | off hoff =>
      simp only [List.mem_cons, List.not_mem_nil, or_false] at hoff
      -- the words that turn a switch off are not the words that turn it on
      have hon : ¬ ((trimBlank value).toLower = "1" ∨ (trimBlank value).toLower = "true" ∨
          (trimBlank value).toLower = "on" ∨ (trimBlank value).toLower = "yes") := by
        rcases hoff with h | h | h | h <;> rw [h] <;> decide
      rw [if_neg hon, if_pos hoff]
  · dsimp only [readSwitch] at h
    split at h
    · cases h
    · split at h
      · cases h
      · cases h
        rfl

/-- The call depth a value gives: the value, trimmed, as an unsigned 64-bit integer. -/
def DepthReads (value : String) (n : Nat) : Prop := readWord? (trimBlank value) = some n

/-- Reading the call depth follows `DepthReads`, and a value it refuses is quoted as given. -/
theorem reader_readDepth : Reader readDepth DepthReads
    (fun value => .configuration s!"{depthKey} must be a number, got '{value}'") := by
  refine Reader.of_sound (fun value n h => ?_) (fun value n h => ?_) (fun value f h => ?_)
  · dsimp only [readDepth] at h
    split at h
    · next m hm =>
      cases h
      exact hm
    · cases h
  · dsimp only [readDepth]
    rw [show readWord? (trimBlank value) = some n from h]
  · dsimp only [readDepth] at h
    split at h
    · cases h
    · cases h
      rfl

/-! ## The whole configuration -/

namespace Config

/-- Reading from `lookup` as four readings in a row, then the rule every configuration obeys. -/
theorem ofLookup_eq (lookup : String → Option String) : ofLookup lookup = (do
    let t ← readSetting TraceTarget.ofText Config.default.trace (lookup traceKey)
    let v ← readSetting (readSwitch validateKey) Config.default.validateRefs (lookup validateKey)
    let e ← readSetting (readSwitch embeddedKey) Config.default.embedded (lookup embeddedKey)
    let n ← readSetting readDepth Config.default.maxCallDepth (lookup depthKey)
    let c : Config := { Config.default with trace := t, validateRefs := v, embedded := e,
                                             maxCallDepth := n }
    c.check
    pure c) := by
  unfold ofLookup
  cases lookup traceKey <;> cases lookup validateKey <;> cases lookup embeddedKey <;>
    cases lookup depthKey <;> simp only [readSetting, pure_bind]

/-- The configuration the variables that `lookup` finds describe: each of the four settings as
    its variable reads, or its default when the variable is absent, a call depth of at least one,
    and both capacities at their defaults. -/
structure Reads (lookup : String → Option String) (c : Config) : Prop where
  trace : Setting TraceTarget.Reads Config.default.trace (lookup traceKey) c.trace
  validateRefs : Setting SwitchReads Config.default.validateRefs (lookup validateKey) c.validateRefs
  embedded : Setting SwitchReads Config.default.embedded (lookup embeddedKey) c.embedded
  maxCallDepth : Setting DepthReads Config.default.maxCallDepth (lookup depthKey) c.maxCallDepth
  depth_pos : 0 < c.maxCallDepth
  tableCapacity : c.tableCapacity = Config.default.tableCapacity
  refCapacity : c.refCapacity = Config.default.refCapacity

/-- How reading the configuration from `lookup` fails: with the refusal of the first variable,
    in the order trace target, reference checks, embedded mode, call depth, whose text its rule
    refuses; and, once all four are read, with the rule that the depth be at least one. -/
structure LookupErrors (lookup : String → Option String) : Prop where
  trace : ∀ text, lookup traceKey = some text → (∀ t, ¬ TraceTarget.Reads text t) →
    ofLookup lookup = .error (.configuration s!"unrecognised trace output '{trimBlank text}'")
  validateRefs : (∃ t, Setting TraceTarget.Reads Config.default.trace (lookup traceKey) t) →
    ∀ text, lookup validateKey = some text → (∀ x, ¬ SwitchReads text x) →
    ofLookup lookup = .error (.configuration s!"{validateKey} must be on or off, got '{text}'")
  embedded : (∃ t, Setting TraceTarget.Reads Config.default.trace (lookup traceKey) t) →
    (∃ v, Setting SwitchReads Config.default.validateRefs (lookup validateKey) v) →
    ∀ text, lookup embeddedKey = some text → (∀ x, ¬ SwitchReads text x) →
    ofLookup lookup = .error (.configuration s!"{embeddedKey} must be on or off, got '{text}'")
  maxCallDepth : (∃ t, Setting TraceTarget.Reads Config.default.trace (lookup traceKey) t) →
    (∃ v, Setting SwitchReads Config.default.validateRefs (lookup validateKey) v) →
    (∃ e, Setting SwitchReads Config.default.embedded (lookup embeddedKey) e) →
    ∀ text, lookup depthKey = some text → (∀ n, ¬ DepthReads text n) →
    ofLookup lookup = .error (.configuration s!"{depthKey} must be a number, got '{text}'")
  depth_pos : (∃ t, Setting TraceTarget.Reads Config.default.trace (lookup traceKey) t) →
    (∃ v, Setting SwitchReads Config.default.validateRefs (lookup validateKey) v) →
    (∃ e, Setting SwitchReads Config.default.embedded (lookup embeddedKey) e) →
    Setting DepthReads Config.default.maxCallDepth (lookup depthKey) 0 →
    ofLookup lookup = .error (.configuration "max_call_depth must be at least 1")

theorem except_bind_eq_ok {α β : Type} {x : Except Fault α} {f : α → Except Fault β} {b : β} :
    (x >>= f) = .ok b ↔ ∃ a, x = .ok a ∧ f a = .ok b := by
  constructor
  · intro h
    cases x with
    | error e => cases h
    | ok a => exact ⟨a, rfl, h⟩
  · rintro ⟨a, rfl, hf⟩
    exact hf

/-- A refused setting is the refusal of the whole reading, whatever would have followed. -/
theorem readSetting_bind_of_refused {α β : Type} {read : String → Except Fault α}
    {reads : String → α → Prop} {refusal : String → Fault} (hr : Reader read reads refusal)
    (default : α) {x : Option String} {text : String} (hx : x = some text)
    (hnone : ∀ a, ¬ reads text a) (k : α → Except Fault β) :
    (readSetting read default x >>= k) = .error (refusal text) := by
  rw [hx, readSetting, (hr.error_iff text _).mpr ⟨hnone, rfl⟩]
  rfl

/-- A setting that reads as `a` passes `a` on to what follows. -/
theorem readSetting_bind_of_reads {α β : Type} {read : String → Except Fault α}
    {reads : String → α → Prop} {refusal : String → Fault} (hr : Reader read reads refusal)
    {default a : α} {x : Option String} (ha : Setting reads default x a)
    (k : α → Except Fault β) : (readSetting read default x >>= k) = k a := by
  rw [(hr.setting_ok_iff default x a).mpr ha]
  rfl

theorem check_of_depth {c : Config} (hdepth : 0 < c.maxCallDepth)
    (htable : c.tableCapacity = Config.default.tableCapacity)
    (hrefs : c.refCapacity = Config.default.refCapacity) : c.check = .ok () := by
  refine (check_ok_iff c).mpr ⟨hdepth, ?_, ?_⟩
  · rw [htable]
    decide
  · rw [hrefs]
    decide

/-- Reading the configuration from the variables `lookup` finds answers exactly the
    configuration they describe: the defaults, with the setting of each variable present
    overridden by what its text reads as (a trimmed trace target that is empty, `none`, `off`,
    `console`, `stdout` or `fd:` and a 32-bit integer that is not negative; a trimmed switch
    that is one of `1`, `true`, `on`, `yes`, `0`, `false`, `off`, `no` in ASCII lower case; a
    trimmed unsigned 64-bit call depth of at least one), and both capacities at their defaults.
    Otherwise it fails with the error of the first variable refused, in the order trace target,
    reference checks, embedded mode, call depth, and last with the depth rule. -/
theorem ofLookup_reads (lookup : String → Option String) :
    (∀ c, ofLookup lookup = .ok c ↔ Reads lookup c) ∧ LookupErrors lookup := by
  have htrace := TraceTarget.reader_ofText
  have hvalidate := reader_readSwitch validateKey
  have hembedded := reader_readSwitch embeddedKey
  have hdepth := reader_readDepth
  refine ⟨fun c => ⟨fun h => ?_, fun h => ?_⟩, ⟨?_, ?_, ?_, ?_, ?_⟩⟩
  · rw [ofLookup_eq] at h
    obtain ⟨t, ht, h⟩ := except_bind_eq_ok.mp h
    obtain ⟨v, hv, h⟩ := except_bind_eq_ok.mp h
    obtain ⟨e, he, h⟩ := except_bind_eq_ok.mp h
    obtain ⟨n, hn, h⟩ := except_bind_eq_ok.mp h
    obtain ⟨_, hcheck, h⟩ := except_bind_eq_ok.mp h
    cases h
    exact ⟨(htrace.setting_ok_iff _ _ _).mp ht, (hvalidate.setting_ok_iff _ _ _).mp hv,
      (hembedded.setting_ok_iff _ _ _).mp he, (hdepth.setting_ok_iff _ _ _).mp hn,
      ((check_ok_iff _).mp hcheck).1, rfl, rfl⟩
  · obtain ⟨ht, hv, he, hn, hpos, htable, hrefs⟩ := h
    rw [ofLookup_eq, readSetting_bind_of_reads htrace ht, readSetting_bind_of_reads hvalidate hv,
      readSetting_bind_of_reads hembedded he, readSetting_bind_of_reads hdepth hn]
    have hc : ({
        trace := c.trace, validateRefs := c.validateRefs, embedded := c.embedded,
        maxCallDepth := c.maxCallDepth, tableCapacity := Config.default.tableCapacity,
        refCapacity := Config.default.refCapacity } : Config) = c := by
      rw [← htable, ← hrefs]
    dsimp only
    rw [hc, check_of_depth hpos htable hrefs]
    rfl
  · intro text htext hnone
    rw [ofLookup_eq, readSetting_bind_of_refused htrace _ htext hnone]
  · rintro ⟨t, ht⟩ text htext hnone
    rw [ofLookup_eq, readSetting_bind_of_reads htrace ht,
      readSetting_bind_of_refused hvalidate _ htext hnone]
  · rintro ⟨t, ht⟩ ⟨v, hv⟩ text htext hnone
    rw [ofLookup_eq, readSetting_bind_of_reads htrace ht, readSetting_bind_of_reads hvalidate hv,
      readSetting_bind_of_refused hembedded _ htext hnone]
  · rintro ⟨t, ht⟩ ⟨v, hv⟩ ⟨e, he⟩ text htext hnone
    rw [ofLookup_eq, readSetting_bind_of_reads htrace ht, readSetting_bind_of_reads hvalidate hv,
      readSetting_bind_of_reads hembedded he, readSetting_bind_of_refused hdepth _ htext hnone]
  · rintro ⟨t, ht⟩ ⟨v, hv⟩ ⟨e, he⟩ hzero
    rw [ofLookup_eq, readSetting_bind_of_reads htrace ht, readSetting_bind_of_reads hvalidate hv,
      readSetting_bind_of_reads hembedded he, readSetting_bind_of_reads hdepth hzero]
    rfl

end Config

end ArrayBridge
