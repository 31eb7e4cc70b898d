import SorobanBridge.ModuleCache

set_option autoImplicit false

/-! # The module cache: one shared map, private counters

Two invariants hold after every run from a fresh handle, each proved for one step and lifted by
`CacheFamily.run_preserves`: `StoreMatches` (the map holds a module under exactly the keys whose
last effect was a successful compile) and `CountersMatch` (each counter is, modulo `2^64`, the
memory charged to its own compiles). -/

namespace SorobanBridge

/-! ## One handle -/

section Handle

variable {Module : Type} (host : CompilationHost Module)

/-- The memory a compile of `wasm` charges to its fresh context's budget. -/
def compileCost (wasm : List UInt8) : UInt64 :=
  match host.newCompilationContext with
  | .error _ => 0
  | .ok budget => (host.parseModule budget wasm).2.memBytesConsumed

/-- A compile adds its cost to its own counter, whatever it returns. -/
theorem compile_memBytesConsumed (self : ProtocolSpecificModuleCache) (store : ModuleStore Module)
    (wasm : List UInt8) :
    (self.compile host store wasm).2.1.memBytesConsumed =
      self.memBytesConsumed + compileCost host wasm := by
  unfold ProtocolSpecificModuleCache.compile compileCost parseAndCacheModuleSimple
  cases host.newCompilationContext with
  | error e => exact UInt64.toNat.inj (Nat.mod_eq_of_lt (UInt64.toNat_lt_size _)).symm
  | ok budget =>
    dsimp only
    rcases host.parseModule budget wasm with ⟨_ | m, budget'⟩ <;> rfl

/-- A successful compile stores the module under the hash of the bytes; a failed one changes
    nothing. -/
theorem compile_store (self : ProtocolSpecificModuleCache) (store : ModuleStore Module)
    (wasm : List UInt8) :
    ((self.compile host store wasm).1 = .ok () ∧
      ∃ m, (self.compile host store wasm).2.2 = Function.update store (host.sha256 wasm) (some m)) ∨
    ((∃ e, (self.compile host store wasm).1 = .error e) ∧
      (self.compile host store wasm).2.2 = store) := by
  unfold ProtocolSpecificModuleCache.compile parseAndCacheModuleSimple
  cases host.newCompilationContext with
  | error e => exact .inr ⟨⟨_, rfl⟩, rfl⟩
  | ok budget =>
    dsimp only
    rcases host.parseModule budget wasm with ⟨e | m, budget'⟩
    · exact .inr ⟨⟨_, rfl⟩, rfl⟩
    · exact .inl ⟨rfl, m, rfl⟩

theorem new_eq_ok {handle : ProtocolSpecificModuleCache} {store : ModuleStore Module}
    (h : ProtocolSpecificModuleCache.new host = .ok (handle, store)) :
    handle.memBytesConsumed = 0 ∧ store = fun _ => none := by
  unfold ProtocolSpecificModuleCache.new at h
  split at h
  · cases h
  · split at h
    · cases h
    · cases h; exact ⟨rfl, rfl⟩

theorem shallowClone_memBytesConsumed {handle : ProtocolSpecificModuleCache}
    (h : ProtocolSpecificModuleCache.shallowClone host = .ok handle) :
    handle.memBytesConsumed = 0 := by
  unfold ProtocolSpecificModuleCache.shallowClone at h
  split at h
  · cases h
  · next hnew => cases h; exact (new_eq_ok host hnew).1

end Handle

/-! ## One step, one run -/

section Family

variable {Module : Type} (host : CompilationHost Module)

theorem CacheFamily.step_eq_some {fam fam' : CacheFamily Module} {op : CacheOp} {r : CacheReply}
    (h : fam.step host op = some (r, fam')) :
    ∃ self, fam.handles[op.handle]? = some self ∧ fam.apply host self op = (r, fam') := by
  unfold CacheFamily.step at h
  split at h
  · cases h
  · exact ⟨_, ‹_›, Option.some.inj h⟩

theorem CacheFamily.step_of_handle_lt {fam : CacheFamily Module} (op : CacheOp)
    (hlt : op.handle < fam.handles.length) :
    fam.step host op = some (fam.apply host fam.handles[op.handle] op) := by
  simp [CacheFamily.step, hlt]

/-- A clone fails and changes nothing, or appends one handle with a zero counter. -/
theorem CacheFamily.apply_shallowClone_cases {fam fam' : CacheFamily Module}
    {self : ProtocolSpecificModuleCache} {h : Nat} {r : CacheReply}
    (happ : fam.apply host self (.shallowClone h) = (r, fam')) :
    (∃ e, r = .handle (.error e) ∧ fam' = fam) ∨
    ∃ handle : ProtocolSpecificModuleCache, handle.memBytesConsumed = 0 ∧
      r = .handle (.ok fam.handles.length) ∧
      fam' = { fam with handles := fam.handles ++ [handle] } := by
  simp only [CacheFamily.apply] at happ
  split at happ
  · cases happ; exact .inl ⟨_, rfl, rfl⟩
  · next hclone => cases happ; exact .inr ⟨_, shallowClone_memBytesConsumed host hclone, rfl, rfl⟩

theorem CacheFamily.run_cons_eq_some {fam fam' : CacheFamily Module} {op : CacheOp}
    {ops : List CacheOp} {events : List (CacheOp × CacheReply)}
    (h : fam.run host (op :: ops) = some (events, fam')) :
    ∃ r mid rest, fam.step host op = some (r, mid) ∧ mid.run host ops = some (rest, fam') ∧
      events = (op, r) :: rest := by
  unfold CacheFamily.run at h
  rcases hs : fam.step host op with _ | ⟨r, mid⟩
  · simp [hs] at h
  · rcases hr : mid.run host ops with _ | ⟨rest, fam''⟩
    · simp [hs, hr] at h
    · simp only [hs, hr, Option.some.injEq, Prod.mk.injEq] at h
      obtain ⟨rfl, rfl⟩ := h
      exact ⟨r, mid, rest, rfl, hr, rfl⟩

/-- **Run lemma.** -/
theorem CacheFamily.run_preserves (P : List (CacheOp × CacheReply) → CacheFamily Module → Prop)
    (hstep : ∀ hist fam op r fam', P hist fam → fam.step host op = some (r, fam') →
      P (hist ++ [(op, r)]) fam')
    (hist : List (CacheOp × CacheReply)) {fam fam' : CacheFamily Module} {ops : List CacheOp}
    {events : List (CacheOp × CacheReply)}
    (hP : P hist fam) (hrun : fam.run host ops = some (events, fam')) :
    P (hist ++ events) fam' := by
  induction ops generalizing hist fam events with
  | nil =>
    cases hrun
    simpa using hP
  | cons op ops ih =>
    obtain ⟨r, mid, rest, hs, hrest, rfl⟩ := CacheFamily.run_cons_eq_some host hrun
    simpa using ih _ (hstep _ _ _ _ _ hP hs) hrest

theorem CacheFamily.create_eq_ok {fam : CacheFamily Module}
    (h : CacheFamily.create host = .ok fam) :
    fam.store = (fun _ => none) ∧ fam.handles = [⟨0⟩] := by
  unfold CacheFamily.create at h
  split at h
  · cases h
  · next handle store hnew =>
    cases h
    obtain ⟨hmem, rfl⟩ := new_eq_ok host hnew
    exact ⟨rfl, by rw [← hmem]⟩

end Family

/-! ## The shared map -/

inductive KeyEffect where
  | compiled
  | removed
  deriving DecidableEq

/-- The effect of a recorded operation on the key `k`, if any. -/
def keyEffect (sha256 : List UInt8 → Hash) (k : Hash) : CacheOp × CacheReply → Option KeyEffect
  | (.compile _ wasm, .unit (.ok ())) => if sha256 wasm = k then some .compiled else none
  | (.evict _ key, _) => if key = k then some .removed else none
  | (.clear _, _) => some .removed
  | _ => none

/-- The effect of the last operation of a run that touched `k`. -/
def lastKeyEffect (sha256 : List UInt8 → Hash) (k : Hash) (events : List (CacheOp × CacheReply)) :
    Option KeyEffect :=
  events.reverse.findSome? (keyEffect sha256 k)

theorem lastKeyEffect_append_singleton (sha256 : List UInt8 → Hash) (k : Hash)
    (events : List (CacheOp × CacheReply)) (ev : CacheOp × CacheReply) :
    lastKeyEffect sha256 k (events ++ [ev]) =
      (keyEffect sha256 k ev).or (lastKeyEffect sha256 k events) := by
  simp [lastKeyEffect, List.findSome?_cons]
  cases keyEffect sha256 k ev <;> rfl

/-- The map holds a module under exactly the keys whose last effect was a compile. -/
def StoreMatches {Module : Type} (sha256 : List UInt8 → Hash) (events : List (CacheOp × CacheReply))
    (store : ModuleStore Module) : Prop :=
  ∀ k, (store k).isSome = decide (lastKeyEffect sha256 k events = some .compiled)

section Store

variable {Module : Type} (host : CompilationHost Module)

theorem storeMatches_create {fam : CacheFamily Module} (h : CacheFamily.create host = .ok fam) :
    StoreMatches host.sha256 [] fam.store := by
  intro k
  simp [(CacheFamily.create_eq_ok host h).1, lastKeyEffect]

theorem storeMatches_step {hist : List (CacheOp × CacheReply)} {fam fam' : CacheFamily Module}
    {op : CacheOp} {r : CacheReply} (hinv : StoreMatches host.sha256 hist fam.store)
    (hstep : fam.step host op = some (r, fam')) :
    StoreMatches host.sha256 (hist ++ [(op, r)]) fam'.store := by
  obtain ⟨self, -, happ⟩ := CacheFamily.step_eq_some host hstep
  intro k
  rw [lastKeyEffect_append_singleton]
  cases op with
  | compile h wasm =>
    rw [CacheFamily.apply_compile] at happ
    cases happ
    rcases compile_store host self fam.store wasm with ⟨hok, m, hstore⟩ | ⟨⟨e, herr⟩, hstore⟩
    · rw [hstore, hok]
      by_cases hk : host.sha256 wasm = k
      · subst hk
        simp [keyEffect]
      · simp [keyEffect, hk, Function.update_noteq (Ne.symm hk), hinv k]
    · rw [hstore, herr]
      simpa [keyEffect] using hinv k
  | evict h key =>
    rw [CacheFamily.apply_evict] at happ
    cases happ
    by_cases hk : key = k
    · subst hk
      simp [keyEffect]
    · simp [keyEffect, hk, Function.update_noteq (Ne.symm hk), hinv k]
  | clear h =>
    rw [CacheFamily.apply_clear] at happ
    cases happ
    simp [keyEffect]
  | containsModule h key =>
    rw [CacheFamily.apply_containsModule] at happ
    cases happ
    simpa [keyEffect] using hinv k
  | getMemBytesConsumed h =>
    rw [CacheFamily.apply_getMemBytesConsumed] at happ
    cases happ
    simpa [keyEffect] using hinv k
  | shallowClone h =>
    rcases CacheFamily.apply_shallowClone_cases host happ with ⟨_, -, rfl⟩ | ⟨_, -, -, rfl⟩ <;>
      simpa [keyEffect] using hinv k

end Store

/-! ## The handles' counters -/

section Counters

variable {Module : Type} (host : CompilationHost Module)

/-- The memory an operation charges to handle `h`: the cost of a compile issued through it. -/
def chargedTo (h : Nat) : CacheOp → Nat
  | .compile h' wasm => if h' = h then (compileCost host wasm).toNat else 0
  | _ => 0

def memCharged (h : Nat) (events : List (CacheOp × CacheReply)) : Nat :=
  (events.map fun ev => chargedTo host h ev.1).sum

theorem memCharged_append (h : Nat) (events events' : List (CacheOp × CacheReply)) :
    memCharged host h (events ++ events') =
      memCharged host h events + memCharged host h events' := by
  simp [memCharged]

theorem chargedTo_of_handle_ne {op : CacheOp} {h : Nat} (hne : op.handle ≠ h) :
    chargedTo host h op = 0 := by
  cases op <;> simp_all [chargedTo, CacheOp.handle]

theorem chargedTo_of_not_compile {op : CacheOp} (hnc : ∀ h wasm, op ≠ .compile h wasm) (h : Nat) :
    chargedTo host h op = 0 := by
  cases op <;> simp_all [chargedTo]

/-- Nothing was charged to a handle that no recorded operation went through. -/
theorem memCharged_eq_zero {h : Nat} {events : List (CacheOp × CacheReply)}
    (hlt : ∀ ev ∈ events, ev.1.handle < h) : memCharged host h events = 0 := by
  refine List.sum_eq_zero fun _ hx => ?_
  obtain ⟨ev, hev, rfl⟩ := List.mem_map.1 hx
  exact chargedTo_of_handle_ne host (hlt ev hev).ne

/-- A compile adds its cost to its own handle's counter, a clone may append a zero handle, and
    nothing else touches the handles. -/
theorem CacheFamily.step_handles {fam fam' : CacheFamily Module} {op : CacheOp} {r : CacheReply}
    (hstep : fam.step host op = some (r, fam')) :
    (∃ h wasm self, op = .compile h wasm ∧ fam.handles[h]? = some self ∧
      fam'.handles = fam.handles.set h ⟨self.memBytesConsumed + compileCost host wasm⟩) ∨
    ((∀ h wasm, op ≠ .compile h wasm) ∧ op.handle < fam.handles.length ∧
      (fam'.handles = fam.handles ∨ ∃ handle : ProtocolSpecificModuleCache,
        handle.memBytesConsumed = 0 ∧ fam'.handles = fam.handles ++ [handle])) := by
  obtain ⟨self, hself, happ⟩ := CacheFamily.step_eq_some host hstep
  have hlt : op.handle < fam.handles.length := (List.getElem?_eq_some_iff.1 hself).1
  cases op with
  | compile h wasm =>
    rw [CacheFamily.apply_compile] at happ
    cases happ
    exact .inl ⟨h, wasm, self, rfl, hself,
      congrArg (fam.handles.set h ⟨·⟩) (compile_memBytesConsumed host self fam.store wasm)⟩
  | evict h key => cases happ; exact .inr ⟨by simp, hlt, .inl rfl⟩
  | clear h => cases happ; exact .inr ⟨by simp, hlt, .inl rfl⟩
  | containsModule h key => cases happ; exact .inr ⟨by simp, hlt, .inl rfl⟩
  | getMemBytesConsumed h => cases happ; exact .inr ⟨by simp, hlt, .inl rfl⟩
  | shallowClone h =>
    refine .inr ⟨by simp, hlt, ?_⟩
    rcases CacheFamily.apply_shallowClone_cases host happ with ⟨_, -, rfl⟩ | ⟨handle, hzero, -, rfl⟩
    · exact .inl rfl
    · exact .inr ⟨handle, hzero, rfl⟩

theorem CacheFamily.step_length_le {fam fam' : CacheFamily Module} {op : CacheOp} {r : CacheReply}
    (hstep : fam.step host op = some (r, fam')) : fam.handles.length ≤ fam'.handles.length := by
  rcases CacheFamily.step_handles host hstep with ⟨_, _, _, -, -, hh⟩ | ⟨-, -, hh | ⟨_, -, hh⟩⟩ <;>
    simp only [hh, List.length_set, List.length_append] <;> omega

/-- Each counter is, modulo `2^64`, what the run charged to its handle, and every recorded
    operation went through an existing handle. -/
structure CountersMatch (events : List (CacheOp × CacheReply)) (fam : CacheFamily Module) :
    Prop where
  counter : ∀ h self, fam.handles[h]? = some self →
    self.memBytesConsumed.toNat = memCharged host h events % 2 ^ 64
  issued : ∀ ev ∈ events, ev.1.handle < fam.handles.length

theorem countersMatch_create {fam : CacheFamily Module}
    (hcreate : CacheFamily.create host = .ok fam) : CountersMatch host [] fam := by
  refine ⟨fun h self hself => ?_, by simp⟩
  rw [(CacheFamily.create_eq_ok host hcreate).2] at hself
  cases h with
  | zero => cases hself; rfl
  | succ h => cases hself

theorem countersMatch_step {hist : List (CacheOp × CacheReply)} {fam fam' : CacheFamily Module}
    {op : CacheOp} {r : CacheReply} (hinv : CountersMatch host hist fam)
    (hstep : fam.step host op = some (r, fam')) : CountersMatch host (hist ++ [(op, r)]) fam' := by
  have hissued : ∀ ev ∈ hist ++ [(op, r)], ev.1.handle < fam'.handles.length := by
    obtain ⟨_, hself, -⟩ := CacheFamily.step_eq_some host hstep
    have hle := CacheFamily.step_length_le host hstep
    simp only [List.mem_append, List.mem_singleton]
    rintro ev (hev | rfl)
    exacts [(hinv.issued ev hev).trans_le hle,
      (List.getElem?_eq_some_iff.1 hself).1.trans_le hle]
  have hcharged : ∀ h, memCharged host h (hist ++ [(op, r)]) =
      memCharged host h hist + chargedTo host h op := by
    simp [memCharged_append, memCharged]
  refine ⟨fun h c hc' => ?_, hissued⟩
  rw [hcharged]
  rcases CacheFamily.step_handles host hstep with
    ⟨hc, wasm, self, rfl, hself, hh⟩ | ⟨hnc, -, hh | ⟨handle, hzero, hh⟩⟩
  · rw [hh, List.getElem?_set] at hc'
    by_cases hsame : hc = h
    · subst hsame
      simp only [(List.getElem?_eq_some_iff.1 hself).1, if_true, Option.some.injEq] at hc'
      subst hc'
      simp only [chargedTo, if_true]
      change (self.memBytesConsumed.toNat + (compileCost host wasm).toNat) % 2 ^ 64 = _
      rw [hinv.counter hc self hself, Nat.mod_add_mod]
    · simp only [hsame, if_false] at hc'
      simp [chargedTo, hsame, hinv.counter h c hc']
  · rw [hh] at hc'
    rw [chargedTo_of_not_compile host hnc, Nat.add_zero, hinv.counter h c hc']
  · rw [chargedTo_of_not_compile host hnc, Nat.add_zero]
    rw [hh] at hc'
    rcases Nat.lt_or_ge h fam.handles.length with hlt | hge
    · rw [List.getElem?_append_left hlt] at hc'
      exact hinv.counter h c hc'
    · rw [List.getElem?_append_right hge] at hc'
      obtain ⟨hone, rfl⟩ := List.getElem?_eq_some_iff.1 hc'
      obtain rfl : h = fam.handles.length := by
        simp only [List.length_singleton] at hone
        omega
      rw [memCharged_eq_zero host hinv.issued, List.getElem_singleton, hzero]
      rfl

end Counters

/-! ## A sample family -/

/-- Every compilation charges 7 bytes, empty bytes fail to parse, and the hash is the first 32
    bytes, zero-padded. -/
def sampleCompilationHost : CompilationHost Unit where
  newCompilationContext := .ok ⟨0, 0, 0, 0⟩
  moduleCacheNew _ := .ok ()
  parseModule budget wasm :=
    (if wasm.isEmpty then .error (HostError.ofTypeAndCode .wasmVm .invalidInput) else .ok (),
      { budget with memBytesConsumed := budget.memBytesConsumed + 7 })
  sha256 wasm := ⟨(wasm ++ List.replicate 32 0).take 32, by simp⟩

/-- Compile through the first handle, clone it, then compile empty bytes through the clone. -/
def sampleOps : List CacheOp := [.compile 0 [1], .shallowClone 0, .compile 1 []]

def sampleInitial : CacheFamily Unit := ⟨fun _ => none, [⟨0⟩]⟩

/-- The family after `sampleOps`: one module, and 7 bytes on each counter. -/
def sampleFamily : CacheFamily Unit :=
  ⟨Function.update (fun _ => none) (sampleCompilationHost.sha256 [1]) (some ()), [⟨7⟩, ⟨7⟩]⟩

def sampleEvents : List (CacheOp × CacheReply) :=
  [(.compile 0 [1], .unit (.ok ())), (.shallowClone 0, .handle (.ok 1)),
    (.compile 1 [], .unit (.error (.host (HostError.ofTypeAndCode .wasmVm .invalidInput))))]

/-! ## Every run from a fresh handle -/

section Runs

variable {Module : Type} (host : CompilationHost Module)

/-- Both invariants hold after every run, from the history of that run. -/
theorem invariants_run {hist events : List (CacheOp × CacheReply)} {fam fam' : CacheFamily Module}
    {ops : List CacheOp} (hstore : StoreMatches host.sha256 hist fam.store)
    (hcounters : CountersMatch host hist fam) (hrun : fam.run host ops = some (events, fam')) :
    StoreMatches host.sha256 (hist ++ events) fam'.store ∧
      CountersMatch host (hist ++ events) fam' :=
  CacheFamily.run_preserves host
    (fun hist fam => StoreMatches host.sha256 hist fam.store ∧ CountersMatch host hist fam)
    (fun _ _ _ _ _ hinv hs => ⟨storeMatches_step host hinv.1 hs, countersMatch_step host hinv.2 hs⟩)
    hist ⟨hstore, hcounters⟩ hrun

theorem invariants_of_create {fam₀ fam : CacheFamily Module} {ops : List CacheOp}
    {events : List (CacheOp × CacheReply)} (hcreate : CacheFamily.create host = .ok fam₀)
    (hrun : fam₀.run host ops = some (events, fam)) :
    StoreMatches host.sha256 events fam.store ∧ CountersMatch host events fam :=
  invariants_run host (storeMatches_create host hcreate) (countersMatch_create host hcreate) hrun

theorem CacheFamily.step_getMemBytesConsumed {fam : CacheFamily Module} {h : Nat}
    (hlt : h < fam.handles.length) :
    fam.step host (.getMemBytesConsumed h) =
      some (.u64 (.ok fam.handles[h].memBytesConsumed), fam) :=
  CacheFamily.step_of_handle_lt host (.getMemBytesConsumed h) hlt

theorem CacheFamily.run_length_le {fam fam' : CacheFamily Module} {ops : List CacheOp}
    {events : List (CacheOp × CacheReply)} (hrun : fam.run host ops = some (events, fam')) :
    fam.handles.length ≤ fam'.handles.length :=
  CacheFamily.run_preserves host (fun _ g => fam.handles.length ≤ g.handles.length)
    (fun _ _ _ _ _ hle hs => hle.trans (CacheFamily.step_length_le host hs)) [] le_rfl hrun

/-- **The shared map.** After any interleaving through the handles of a family built by `new` and
    `shallow_clone`, `contains_module` answers, through every handle, whether the last operation
    that touched the key was a successful compile of bytes hashing to it. -/
theorem CacheFamily.containsModule_reflects_last_effect {fam₀ fam : CacheFamily Module}
    {ops : List CacheOp} {events : List (CacheOp × CacheReply)}
    (hcreate : CacheFamily.create host = .ok fam₀) (hrun : fam₀.run host ops = some (events, fam)) :
    (∀ h k, h < fam.handles.length → fam.step host (.containsModule h k) =
      some (.bool (.ok (decide (lastKeyEffect host.sha256 k events = some .compiled))), fam)) ∧
    (∀ (g : CacheFamily Module) h key, h < g.handles.length → g.store key = none →
      g.step host (.evict h key) = some (.unit (.ok ()), g)) ∧
    (∀ (g g' : CacheFamily Module) h wasm e,
      g.step host (.compile h wasm) = some (.unit (.error e), g') → g'.store = g.store) := by
  refine ⟨fun h k hlt => ?_, fun g h key hlt habsent => ?_, fun g g' h wasm e hstep => ?_⟩
  · rw [CacheFamily.step_of_handle_lt host (.containsModule h k) hlt,
      CacheFamily.apply_containsModule, (invariants_of_create host hcreate hrun).1 k]
  · rw [CacheFamily.step_of_handle_lt host (.evict h key) hlt, CacheFamily.apply_evict,
      ← habsent, Function.update_eq_self]
  · obtain ⟨self, -, happ⟩ := CacheFamily.step_eq_some host hstep
    rw [CacheFamily.apply_compile, Prod.mk.injEq] at happ
    obtain ⟨hres, rfl⟩ := happ
    rcases compile_store host self g.store wasm with ⟨hok, -⟩ | ⟨-, hstore⟩
    · cases hres.symm.trans (congrArg CacheReply.unit hok)
    · exact hstore

/-- After `sampleOps`, the clone sees the module compiled through the first handle. -/
theorem CacheFamily.containsModule_reflects_last_effect_sample :
    CacheFamily.create sampleCompilationHost = .ok sampleInitial ∧
      sampleInitial.run sampleCompilationHost sampleOps = some (sampleEvents, sampleFamily) ∧
      sampleFamily.step sampleCompilationHost
          (.containsModule 1 (sampleCompilationHost.sha256 [1])) =
        some (.bool (.ok true), sampleFamily) := by
  have hcreate : CacheFamily.create sampleCompilationHost = .ok sampleInitial := rfl
  have hrun :
      sampleInitial.run sampleCompilationHost sampleOps = some (sampleEvents, sampleFamily) := rfl
  refine ⟨hcreate, hrun, ?_⟩
  rw [(CacheFamily.containsModule_reflects_last_effect sampleCompilationHost hcreate hrun).1 1 _
    (by decide)]
  rfl

/-- **The counters.** Each handle's `get_mem_bytes_consumed` reads, modulo `2^64`, the memory
    charged by its own compiles, failed parses included. -/
theorem CacheFamily.memBytesConsumed_counts_own_compiles {fam₀ fam : CacheFamily Module}
    {ops : List CacheOp} {events : List (CacheOp × CacheReply)}
    (hcreate : CacheFamily.create host = .ok fam₀) (hrun : fam₀.run host ops = some (events, fam)) :
    (∀ h, h < fam.handles.length → ∃ c : UInt64,
      fam.step host (.getMemBytesConsumed h) = some (.u64 (.ok c), fam) ∧
      c.toNat = memCharged host h events % 2 ^ 64) ∧
    (∀ (g g' : CacheFamily Module) op r h, g.step host op = some (r, g') →
      (∀ wasm, op ≠ .compile h wasm) → h < g.handles.length → g'.handles[h]? = g.handles[h]?) ∧
    (∀ (g g' : CacheFamily Module) h n, g.step host (.shallowClone h) = some (.handle (.ok n), g') →
      g'.handles[n]? = some ⟨0⟩) ∧
    (∀ ops' events' fam', fam.run host ops' = some (events', fam') → ∀ h, h < fam.handles.length →
      memCharged host h (events ++ events') < 2 ^ 64 → ∃ c c' : UInt64,
        fam.step host (.getMemBytesConsumed h) = some (.u64 (.ok c), fam) ∧
        fam'.step host (.getMemBytesConsumed h) = some (.u64 (.ok c'), fam') ∧
        c.toNat ≤ c'.toNat) := by
  have hinv := (invariants_of_create host hcreate hrun).2
  refine ⟨fun h hlt => ⟨_, CacheFamily.step_getMemBytesConsumed host hlt,
      hinv.counter h _ (List.getElem?_eq_getElem hlt)⟩, ?_, ?_, ?_⟩
  · intro g g' op r h hstep hnc hlt
    rcases CacheFamily.step_handles host hstep with
      ⟨hc, wasm, _, rfl, -, hh⟩ | ⟨-, -, hh | ⟨_, -, hh⟩⟩
    · have hne : hc ≠ h := fun heq => hnc wasm (heq ▸ rfl)
      rw [hh, List.getElem?_set_ne hne]
    · rw [hh]
    · rw [hh, List.getElem?_append_left hlt]
  · intro g g' h n hstep
    obtain ⟨self, -, happ⟩ := CacheFamily.step_eq_some host hstep
    rcases CacheFamily.apply_shallowClone_cases host happ with
      ⟨_, hr, -⟩ | ⟨⟨mem⟩, hzero, hr, rfl⟩
    · cases hr
    · cases hr
      cases hzero
      exact List.getElem?_concat_length _ _
  · intro ops' events' fam' hrun' h hlt hbound
    have hinv' := (invariants_run host (invariants_of_create host hcreate hrun).1 hinv hrun').2
    have hlt' := Nat.lt_of_lt_of_le hlt (CacheFamily.run_length_le host hrun')
    refine ⟨_, _, CacheFamily.step_getMemBytesConsumed host hlt,
      CacheFamily.step_getMemBytesConsumed host hlt', ?_⟩
    have hle := memCharged_append host h events events'
    rw [hinv.counter h _ (List.getElem?_eq_getElem hlt),
      hinv'.counter h _ (List.getElem?_eq_getElem hlt'), Nat.mod_eq_of_lt hbound,
      Nat.mod_eq_of_lt (by omega)]
    omega

/-- After `sampleOps`, the clone's counter holds the 7 bytes of its failed compile. -/
theorem CacheFamily.memBytesConsumed_counts_own_compiles_sample :
    CacheFamily.create sampleCompilationHost = .ok sampleInitial ∧
      sampleInitial.run sampleCompilationHost sampleOps = some (sampleEvents, sampleFamily) ∧
      sampleFamily.step sampleCompilationHost (.getMemBytesConsumed 1) =
        some (.u64 (.ok 7), sampleFamily) := by
  have hcreate : CacheFamily.create sampleCompilationHost = .ok sampleInitial := rfl
  have hrun :
      sampleInitial.run sampleCompilationHost sampleOps = some (sampleEvents, sampleFamily) := rfl
  refine ⟨hcreate, hrun, ?_⟩
  obtain ⟨c, hstep, hc⟩ :=
    (CacheFamily.memBytesConsumed_counts_own_compiles sampleCompilationHost hcreate hrun).1 1
      (by decide)
  rw [hstep, UInt64.toNat.inj (hc.trans (by decide) : c.toNat = (7 : UInt64).toNat)]

end Runs

end SorobanBridge
