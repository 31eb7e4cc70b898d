import SorobanBridge.ModuleCache.Proofs

set_option autoImplicit false

/-! # Operations through different handles commute

Concurrent callers of a family meet only in the shared map. Two operations through different
handles that do not race there (no clone, no key written by one and touched by the other) can
be exchanged: `CacheFamily.step_swap` for one pair of steps, `CacheFamily.run_reorder` for whole
interleavings. Each step is read through what it writes at each key (`CacheOp.storeWrite`) and
what it leaves in its own handle (`CacheOp.selfEffect`). -/

namespace SorobanBridge

/-! ## What an operation shares -/

/-- How an operation reaches the state its handle shares with the rest of the family. -/
inductive SharedAccess where
  /-- Only its own handle (`get_mem_bytes_consumed`). -/
  | own
  /-- Reads one key of the map (`contains_module`). -/
  | read (key : Hash)
  /-- Writes one key of the map (`compile`, `evict`). -/
  | write (key : Hash)
  /-- Writes every key of the map (`clear`). -/
  | writeAll
  /-- Adds a handle to the family (`shallow_clone`). -/
  | grow

/-- A compile writes the hash of its bytes. -/
def CacheOp.sharedAccess (sha256 : List UInt8 → Hash) : CacheOp → SharedAccess
  | .compile _ wasm => .write (sha256 wasm)
  | .evict _ key => .write key
  | .clear _ => .writeAll
  | .containsModule _ key => .read key
  | .getMemBytesConsumed _ => .own
  | .shallowClone _ => .grow

/-- A clone races with everything; two accesses to the map race when they meet at a key that one
    of them writes. -/
def SharedAccess.conflicts : SharedAccess → SharedAccess → Bool
  | .grow, _ | _, .grow => true
  | .own, _ | _, .own => false
  | .read _, .read _ => false
  | .writeAll, _ | _, .writeAll => true
  | .read k, .write k' | .write k, .read k' | .write k, .write k' => decide (k = k')

theorem SharedAccess.conflicts_comm (a b : SharedAccess) : a.conflicts b = b.conflicts a := by
  cases a <;> cases b <;> simp [conflicts, eq_comm]

def SharedAccess.writes : SharedAccess → Hash → Bool
  | .write key, k => decide (key = k)
  | .writeAll, _ => true
  | _, _ => false

/-- Accesses that do not race never both write one key. -/
theorem SharedAccess.writes_eq_false_of_conflicts {a b : SharedAccess} (hfree : a.conflicts b = false)
    (k : Hash) : a.writes k = false ∨ b.writes k = false := by
  cases a <;> cases b <;> simp [conflicts, writes] at hfree ⊢
  case write.write key key' => exact not_and_or.mp fun ⟨h, h'⟩ => hfree (h.trans h'.symm)

/-- An access that does not race with a read of `k` does not write `k`. -/
theorem SharedAccess.writes_eq_false_of_read {b : SharedAccess} {k : Hash}
    (hfree : (SharedAccess.read k).conflicts b = false) : b.writes k = false := by
  cases b <;> simp_all [conflicts, writes, eq_comm]

/-- Different handles, and no race on the shared state. -/
def CacheOp.Independent (sha256 : List UInt8 → Hash) (op₁ op₂ : CacheOp) : Prop :=
  op₁.handle ≠ op₂.handle ∧ (op₁.sharedAccess sha256).conflicts (op₂.sharedAccess sha256) = false

instance (sha256 : List UInt8 → Hash) : DecidableRel (CacheOp.Independent sha256) :=
  fun _ _ => inferInstanceAs (Decidable (_ ∧ _))

theorem CacheOp.Independent.symm {sha256 : List UInt8 → Hash} {op₁ op₂ : CacheOp}
    (h : CacheOp.Independent sha256 op₁ op₂) : CacheOp.Independent sha256 op₂ op₁ :=
  ⟨h.1.symm, (SharedAccess.conflicts_comm _ _).trans h.2⟩

theorem CacheOp.Independent.not_grow {sha256 : List UInt8 → Hash} {op₁ op₂ : CacheOp}
    (h : CacheOp.Independent sha256 op₁ op₂) : op₁.sharedAccess sha256 ≠ .grow := fun hgrow => by
  simpa [hgrow, SharedAccess.conflicts] using h.2

/-! ## What a step does, key by key and handle by handle -/

section Effects

variable {Module : Type} (host : CompilationHost Module)

/-- The module a compile of `wasm` caches, if any. -/
def compiledModule (wasm : List UInt8) : Option Module :=
  match host.newCompilationContext with
  | .error _ => none
  | .ok budget =>
    match (host.parseModule budget wasm).1 with
    | .ok module => some module
    | .error _ => none

/-- What an operation writes at the key `k` of the shared map, if it writes there. -/
def CacheOp.storeWrite : CacheOp → Hash → Option (Option Module)
  | .compile _ wasm, k =>
    if host.sha256 wasm = k then (compiledModule host wasm).map some else none
  | .evict _ key, k => if key = k then some none else none
  | .clear _, _ => some none
  | _, _ => none

def CacheOp.selfEffect (self : ProtocolSpecificModuleCache) : CacheOp → ProtocolSpecificModuleCache
  | .compile _ wasm => ⟨self.memBytesConsumed + compileCost host wasm⟩
  | _ => self

theorem compile_store_apply (self : ProtocolSpecificModuleCache) (store : ModuleStore Module)
    (wasm : List UInt8) (k : Hash) :
    (self.compile host store wasm).2.2 k =
      ((if host.sha256 wasm = k then (compiledModule host wasm).map some else none).getD
        (store k)) := by
  unfold ProtocolSpecificModuleCache.compile compiledModule parseAndCacheModuleSimple
  cases host.newCompilationContext with
  | error e => by_cases hk : host.sha256 wasm = k <;> simp [hk]
  | ok budget =>
    dsimp only
    rcases host.parseModule budget wasm with ⟨e | m, budget'⟩ <;>
      by_cases hk : host.sha256 wasm = k <;> simp [hk, Function.update_apply, @eq_comm _ k]

/-- A compile's reply does not depend on the map or on the handle it runs on. -/
theorem compile_reply_eq (self self' : ProtocolSpecificModuleCache)
    (store store' : ModuleStore Module) (wasm : List UInt8) :
    (self.compile host store wasm).1 = (self'.compile host store' wasm).1 := by
  unfold ProtocolSpecificModuleCache.compile parseAndCacheModuleSimple
  cases host.newCompilationContext with
  | error e => rfl
  | ok budget =>
    dsimp only
    rcases host.parseModule budget wasm with ⟨e | m, budget'⟩ <;> rfl

/-- Every operation changes the map key by key as `storeWrite` says. -/
theorem CacheFamily.apply_store (fam : CacheFamily Module) (self : ProtocolSpecificModuleCache)
    (op : CacheOp) (k : Hash) :
    (fam.apply host self op).2.store k = (op.storeWrite host k).getD (fam.store k) := by
  cases op with
  | compile h wasm => exact compile_store_apply host self fam.store wasm k
  | evict h key =>
    by_cases hk : key = k <;> simp [CacheOp.storeWrite, hk, Function.update_apply, @eq_comm _ k]
  | clear h => rfl
  | containsModule h key => rfl
  | getMemBytesConsumed h => rfl
  | shallowClone h =>
    simp only [CacheFamily.apply]
    split <;> rfl

theorem list_set_of_getElem?_eq {α : Type} {l : List α} {i : Nat} {a : α} (h : l[i]? = some a) :
    l.set i a = l :=
  List.ext_getElem? fun j => by
    rw [List.getElem?_set]
    split
    · next hij => subst hij; simp [h, (List.getElem?_eq_some_iff.1 h).1]
    · rfl

/-- An operation that adds no handle updates only its own, as `selfEffect` says. -/
theorem CacheFamily.apply_handles {fam : CacheFamily Module} {self : ProtocolSpecificModuleCache}
    {op : CacheOp} (hgrow : op.sharedAccess host.sha256 ≠ .grow)
    (hself : fam.handles[op.handle]? = some self) :
    (fam.apply host self op).2.handles = fam.handles.set op.handle (op.selfEffect host self) := by
  cases op with
  | compile h wasm =>
    exact congrArg (fam.handles.set h ⟨·⟩) (compile_memBytesConsumed host self fam.store wasm)
  | shallowClone h => exact absurd rfl hgrow
  | evict h key | clear h | containsModule h key | getMemBytesConsumed h =>
    exact (list_set_of_getElem?_eq hself).symm

/-- An operation that adds no handle replies the same on maps that agree at the key it reads. -/
theorem CacheFamily.apply_reply_congr {fam fam' : CacheFamily Module}
    (self : ProtocolSpecificModuleCache) {op : CacheOp}
    (hgrow : op.sharedAccess host.sha256 ≠ .grow)
    (hread : ∀ k, op.sharedAccess host.sha256 = .read k → fam.store k = fam'.store k) :
    (fam.apply host self op).1 = (fam'.apply host self op).1 := by
  cases op with
  | compile h wasm =>
    exact congrArg CacheReply.unit (compile_reply_eq host self self fam.store fam'.store wasm)
  | containsModule h key =>
    simp only [CacheFamily.apply_containsModule, hread key rfl]
  | shallowClone h => exact absurd rfl hgrow
  | evict h key | clear h | getMemBytesConsumed h => rfl

theorem CacheOp.storeWrite_eq_none {op : CacheOp} {k : Hash}
    (h : (op.sharedAccess host.sha256).writes k = false) : op.storeWrite host k = none := by
  cases op <;> simp_all [CacheOp.sharedAccess, SharedAccess.writes, CacheOp.storeWrite]

/-- Independent operations never both write one key of the map. -/
theorem CacheOp.Independent.storeWrite_disjoint {op₁ op₂ : CacheOp}
    (hind : CacheOp.Independent host.sha256 op₁ op₂) (k : Hash) :
    op₁.storeWrite host k = none ∨ op₂.storeWrite host k = none :=
  (SharedAccess.writes_eq_false_of_conflicts hind.2 k).imp
    (CacheOp.storeWrite_eq_none host) (CacheOp.storeWrite_eq_none host)

/-- An operation independent of a read of `k` does not write `k`. -/
theorem CacheOp.Independent.storeWrite_of_read {op₁ op₂ : CacheOp}
    (hind : CacheOp.Independent host.sha256 op₁ op₂) {k : Hash}
    (hk : op₁.sharedAccess host.sha256 = .read k) : op₂.storeWrite host k = none :=
  CacheOp.storeWrite_eq_none host (SharedAccess.writes_eq_false_of_read (hk ▸ hind.2))

theorem CacheFamily.step_of_getElem? {fam : CacheFamily Module} {op : CacheOp}
    {self : ProtocolSpecificModuleCache} (h : fam.handles[op.handle]? = some self) :
    fam.step host op = some (fam.apply host self op) := by
  simp [CacheFamily.step, h]

theorem CacheFamily.eq_of_store_handles {a b : CacheFamily Module} (hs : a.store = b.store)
    (hh : a.handles = b.handles) : a = b := by
  cases a; cases b; cases hs; cases hh; rfl

end Effects

/-! ## Reorderings -/

/-- `l'` is `l` with one adjacent pair `a, b` related by `R` exchanged. -/
def SwapStep {α : Type} (R : α → α → Prop) (l l' : List α) : Prop :=
  ∃ pre a b post, R a b ∧ l = pre ++ a :: b :: post ∧ l' = pre ++ b :: a :: post

theorem SwapStep.cons {α : Type} {R : α → α → Prop} {l l' : List α} (x : α)
    (h : SwapStep R l l') : SwapStep R (x :: l) (x :: l') := by
  obtain ⟨pre, a, b, post, hab, rfl, rfl⟩ := h
  exact ⟨x :: pre, a, b, post, hab, rfl, rfl⟩

/-! ## The diamond -/

section Swap

variable {Module : Type} (host : CompilationHost Module)

/-- **Independent steps commute.** -/
theorem CacheFamily.step_swap {fam fam₁ fam₁₂ : CacheFamily Module} {op₁ op₂ : CacheOp}
    {r₁ r₂ : CacheReply} (hind : CacheOp.Independent host.sha256 op₁ op₂)
    (h₁ : fam.step host op₁ = some (r₁, fam₁)) (h₂ : fam₁.step host op₂ = some (r₂, fam₁₂)) :
    ∃ fam₂, fam.step host op₂ = some (r₂, fam₂) ∧ fam₂.step host op₁ = some (r₁, fam₁₂) := by
  obtain ⟨self₁, hself₁, happ₁⟩ := CacheFamily.step_eq_some host h₁
  obtain ⟨rfl, rfl⟩ : r₁ = _ ∧ fam₁ = _ := Prod.ext_iff.mp happ₁.symm
  obtain ⟨self₂, hself₂, happ₂⟩ := CacheFamily.step_eq_some host h₂
  obtain ⟨rfl, rfl⟩ : r₂ = _ ∧ fam₁₂ = _ := Prod.ext_iff.mp happ₂.symm
  have hg₁ := hind.not_grow
  have hg₂ := hind.symm.not_grow
  -- each operation finds its own handle where it was, whichever ran first
  have hh₁ := CacheFamily.apply_handles host hg₁ hself₁
  have hself₂' : fam.handles[op₂.handle]? = some self₂ := by
    rw [← hself₂, hh₁, List.getElem?_set_ne hind.1]
  have hh₂ := CacheFamily.apply_handles host hg₂ hself₂'
  have hself₁' : (fam.apply host self₂ op₂).2.handles[op₁.handle]? = some self₁ := by
    rw [hh₂, List.getElem?_set_ne hind.1.symm, hself₁]
  refine ⟨_, (CacheFamily.step_of_getElem? host hself₂').trans (congrArg some (Prod.ext ?_ rfl)),
    (CacheFamily.step_of_getElem? host hself₁').trans (congrArg some (Prod.ext ?_ ?_))⟩
  · exact CacheFamily.apply_reply_congr host self₂ hg₂ fun k hk => by
      simp [CacheFamily.apply_store, hind.symm.storeWrite_of_read host hk]
  · exact CacheFamily.apply_reply_congr host self₁ hg₁ fun k hk => by
      simp [CacheFamily.apply_store, hind.storeWrite_of_read host hk]
  · refine CacheFamily.eq_of_store_handles (funext fun k => ?_) ?_
    · simp only [CacheFamily.apply_store]
      rcases hind.storeWrite_disjoint host k with h | h <;> simp [h]
    · rw [CacheFamily.apply_handles host hg₁ hself₁', hh₂,
        CacheFamily.apply_handles host hg₂ hself₂, hh₁, List.set_comm _ _ _ hind.1.symm]

theorem CacheFamily.run_cons_of_step {fam mid fam' : CacheFamily Module} {op : CacheOp}
    {ops : List CacheOp} {r : CacheReply} {rest : List (CacheOp × CacheReply)}
    (hs : fam.step host op = some (r, mid)) (hrest : mid.run host ops = some (rest, fam')) :
    fam.run host (op :: ops) = some ((op, r) :: rest, fam') := by
  simp [CacheFamily.run, hs, hrest]

theorem CacheFamily.run_swapStep {fam fam' : CacheFamily Module} {ops ops' : List CacheOp}
    {events : List (CacheOp × CacheReply)}
    (hswap : SwapStep (CacheOp.Independent host.sha256) ops ops')
    (hrun : fam.run host ops = some (events, fam')) :
    ∃ events', fam.run host ops' = some (events', fam') ∧
      SwapStep (fun e₁ e₂ : CacheOp × CacheReply => CacheOp.Independent host.sha256 e₁.1 e₂.1)
        events events' := by
  obtain ⟨pre, a, b, post, hab, rfl, rfl⟩ := hswap
  induction pre generalizing fam events with
  | nil =>
    obtain ⟨ra, mid, rest, hsa, hrest, rfl⟩ := CacheFamily.run_cons_eq_some host hrun
    obtain ⟨rb, mid', rest', hsb, hpost, rfl⟩ := CacheFamily.run_cons_eq_some host hrest
    obtain ⟨mid₂, hsb', hsa'⟩ := CacheFamily.step_swap host hab hsa hsb
    exact ⟨_, CacheFamily.run_cons_of_step host hsb' (CacheFamily.run_cons_of_step host hsa' hpost),
      [], (a, ra), (b, rb), rest', hab, rfl, rfl⟩
  | cons p pre ih =>
    obtain ⟨rp, mid, rest, hsp, hrest, rfl⟩ := CacheFamily.run_cons_eq_some host hrun
    obtain ⟨events', hrun', hswap'⟩ := ih hrest
    exact ⟨_, CacheFamily.run_cons_of_step host hsp hrun', hswap'.cons _⟩

/-- **Interleavings of independent operations agree.** Reordering a run by exchanges of adjacent
    independent operations keeps its success, its final family and every operation's reply. -/
theorem CacheFamily.run_reorder {fam fam' : CacheFamily Module} {ops ops' : List CacheOp}
    {events : List (CacheOp × CacheReply)}
    (hperm : Relation.ReflTransGen (SwapStep (CacheOp.Independent host.sha256)) ops ops')
    (hrun : fam.run host ops = some (events, fam')) :
    ∃ events', fam.run host ops' = some (events', fam') ∧
      Relation.ReflTransGen
        (SwapStep fun e₁ e₂ : CacheOp × CacheReply => CacheOp.Independent host.sha256 e₁.1 e₂.1)
        events events' := by
  induction hperm with
  | refl => exact ⟨events, hrun, .refl⟩
  | tail _ hswap ih =>
    obtain ⟨events₁, hrun₁, hperm₁⟩ := ih
    obtain ⟨events₂, hrun₂, hswap₂⟩ := CacheFamily.run_swapStep host hswap hrun₁
    exact ⟨events₂, hrun₂, hperm₁.tail hswap₂⟩

/-- Two modules, and 7 bytes on each of two counters. -/
def sampleBothCompiled : CacheFamily Unit :=
  ⟨Function.update (Function.update (fun _ => none) (sampleCompilationHost.sha256 [1]) (some ()))
    (sampleCompilationHost.sha256 [2]) (some ()), [⟨7⟩, ⟨7⟩]⟩

/-- Two compiles through a handle and its clone, in either order. -/
theorem CacheFamily.run_reorder_sample :
    Relation.ReflTransGen (SwapStep (CacheOp.Independent sampleCompilationHost.sha256))
        [.shallowClone 0, .compile 0 [1], .compile 1 [2]]
        [.shallowClone 0, .compile 1 [2], .compile 0 [1]] ∧
      ∃ events events', sampleInitial.run sampleCompilationHost
          [.shallowClone 0, .compile 0 [1], .compile 1 [2]] = some (events, sampleBothCompiled) ∧
        sampleInitial.run sampleCompilationHost [.shallowClone 0, .compile 1 [2], .compile 0 [1]] =
          some (events', sampleBothCompiled) := by
  have hperm : Relation.ReflTransGen (SwapStep (CacheOp.Independent sampleCompilationHost.sha256))
      [.shallowClone 0, .compile 0 [1], .compile 1 [2]]
      [.shallowClone 0, .compile 1 [2], .compile 0 [1]] :=
    .single ⟨[.shallowClone 0], _, _, [], by decide, rfl, rfl⟩
  have hrun : sampleInitial.run sampleCompilationHost
      [.shallowClone 0, .compile 0 [1], .compile 1 [2]] = some (_, sampleBothCompiled) := rfl
  obtain ⟨events', hrun', -⟩ := CacheFamily.run_reorder sampleCompilationHost hperm hrun
  exact ⟨hperm, _, events', hrun, hrun'⟩

end Swap

end SorobanBridge
