import SorobanBridge.Marshal

set_option autoImplicit false

/-! # The module cache and its handles

A `ProtocolSpecificModuleCache` is a handle on soroban's reusable, thread-safe `ModuleCache`,
shared by every handle `shallow_clone` derives, with its own counter of the memory its compiles
consumed. The map is modelled from the spec (`ModuleStore`); the source only calls it. Each
operation holds the map's lock or touches only its own handle, so a concurrent run of a
`CacheFamily` is an interleaving of whole operations (`CacheFamily.step`, `CacheFamily.run`). -/

namespace SorobanBridge

/-! ## The shared map -/

/-- Modelled from the spec: the map of a reusable `ModuleCache`, from content hash to module. -/
def ModuleStore (Module : Type) : Type := Hash → Option Module

/-- The soroban pieces a module cache calls: the budget of a fresh `CoreCompilationContext`,
    `ModuleCache::new`, `ParsedModule::new` (which charges the budget whether or not it succeeds)
    and `Sha256::digest`. -/
structure CompilationHost (Module : Type) where
  newCompilationContext : Except HostError Budget
  moduleCacheNew : Budget → Except HostError Unit
  parseModule : Budget → List UInt8 → Except HostError Module × Budget
  sha256 : List UInt8 → Hash

section Store

variable {Module : Type} (host : CompilationHost Module)

/-- Modelled from the spec: `ModuleCache::parse_and_cache_module_simple` inserts (or replaces)
    the parsed module under the hash of the bytes. -/
def parseAndCacheModuleSimple (budget : Budget) (store : ModuleStore Module) (wasm : List UInt8) :
    Except HostError Unit × Budget × ModuleStore Module :=
  let contractId := host.sha256 wasm
  match host.parseModule budget wasm with
  | (.ok module, budget) => (.ok (), budget, Function.update store contractId (some module))
  | (.error e, budget) => (.error e, budget, store)

/-- Modelled from the spec: `ModuleCache::remove_module` removes one entry and returns it. -/
def removeModule (store : ModuleStore Module) (key : Hash) : Option Module × ModuleStore Module :=
  (store key, Function.update store key none)

def clearModules (_store : ModuleStore Module) : ModuleStore Module := fun _ => none

end Store

/-! ## A handle -/

/-- A handle's own state is its counter; the map it points to is its family's. -/
structure ProtocolSpecificModuleCache where
  memBytesConsumed : UInt64

namespace ProtocolSpecificModuleCache

variable {Module : Type} (host : CompilationHost Module)

/-- `ProtocolSpecificModuleCache::new`: a handle with a zero counter and a fresh, empty map. -/
def new : Except BoxError (ProtocolSpecificModuleCache × ModuleStore Module) :=
  match host.newCompilationContext with
  | .error e => .error (.host e)
  | .ok compilationContext =>
    match host.moduleCacheNew compilationContext with
    | .error e => .error (.host e)
    | .ok () => .ok (⟨0⟩, fun _ => none)

/-- The counter wraps, as `fetch_add` does, and is charged whatever the parse returned. -/
def compile (self : ProtocolSpecificModuleCache) (store : ModuleStore Module) (wasm : List UInt8) :
    Except BoxError Unit × ProtocolSpecificModuleCache × ModuleStore Module :=
  match host.newCompilationContext with
  | .error e => (.error (.host e), self, store)
  | .ok unlimitedBudget =>
    let (res, unlimitedBudget, store) := parseAndCacheModuleSimple host unlimitedBudget store wasm
    let self := { memBytesConsumed := self.memBytesConsumed + unlimitedBudget.memBytesConsumed }
    match res with
    | .ok () => (.ok (), self, store)
    | .error e => (.error (.host e), self, store)

/-- `ProtocolSpecificModuleCache::evict`: removes the entry, present or not. -/
def evict (store : ModuleStore Module) (key : Hash) : Except BoxError Unit × ModuleStore Module :=
  let (_, store) := removeModule store key
  (.ok (), store)

def clear (store : ModuleStore Module) : Except BoxError Unit × ModuleStore Module :=
  (.ok (), clearModules store)

def containsModule (store : ModuleStore Module) (key : Hash) : Except BoxError Bool :=
  .ok (store key).isSome

def getMemBytesConsumed (self : ProtocolSpecificModuleCache) : Except BoxError UInt64 :=
  .ok self.memBytesConsumed

/-- A handle built by `new`, whose fresh map is dropped for `self`'s shared one. -/
def shallowClone : Except BoxError ProtocolSpecificModuleCache :=
  match new host with
  | .error e => .error e
  | .ok (handle, _) => .ok handle

end ProtocolSpecificModuleCache

/-! ## A family of handles -/

/-- The handles derived from one `ProtocolSpecificModuleCache`: their map and, by index, their
    counters. -/
structure CacheFamily (Module : Type) where
  store : ModuleStore Module
  handles : List ProtocolSpecificModuleCache

inductive CacheOp where
  | compile (handle : Nat) (wasm : List UInt8)
  | evict (handle : Nat) (key : Hash)
  | clear (handle : Nat)
  | containsModule (handle : Nat) (key : Hash)
  | getMemBytesConsumed (handle : Nat)
  | shallowClone (handle : Nat)

def CacheOp.handle : CacheOp → Nat
  | compile h _ | evict h _ | clear h | containsModule h _ | getMemBytesConsumed h
  | shallowClone h => h

/-- What an operation returns; a clone returns the index of the new handle. -/
inductive CacheReply where
  | unit (r : Except BoxError Unit)
  | bool (r : Except BoxError Bool)
  | u64 (r : Except BoxError UInt64)
  | handle (r : Except BoxError Nat)

/-- One operation, issued through the handle `self` of a family. -/
def CacheFamily.apply {Module : Type} (host : CompilationHost Module) (fam : CacheFamily Module)
    (self : ProtocolSpecificModuleCache) : CacheOp → CacheReply × CacheFamily Module
  | .compile h wasm =>
    let (res, self, store) := self.compile host fam.store wasm
    (.unit res, { store, handles := fam.handles.set h self })
  | .evict _ key =>
    let (res, store) := ProtocolSpecificModuleCache.evict fam.store key
    (.unit res, { fam with store })
  | .clear _ =>
    let (res, store) := ProtocolSpecificModuleCache.clear fam.store
    (.unit res, { fam with store })
  | .containsModule _ key => (.bool (ProtocolSpecificModuleCache.containsModule fam.store key), fam)
  | .getMemBytesConsumed _ => (.u64 self.getMemBytesConsumed, fam)
  | .shallowClone _ =>
    match ProtocolSpecificModuleCache.shallowClone host with
    | .error e => (.handle (.error e), fam)
    | .ok handle =>
      (.handle (.ok fam.handles.length), { fam with handles := fam.handles ++ [handle] })

section Apply

variable {Module : Type} (host : CompilationHost Module) (fam : CacheFamily Module)
  (self : ProtocolSpecificModuleCache)

@[simp] theorem CacheFamily.apply_compile (h : Nat) (wasm : List UInt8) :
    fam.apply host self (.compile h wasm) =
      (.unit (self.compile host fam.store wasm).1,
        ⟨(self.compile host fam.store wasm).2.2,
          fam.handles.set h (self.compile host fam.store wasm).2.1⟩) := rfl

@[simp] theorem CacheFamily.apply_evict (h : Nat) (key : Hash) :
    fam.apply host self (.evict h key) =
      (.unit (.ok ()), { fam with store := Function.update fam.store key none }) := rfl

@[simp] theorem CacheFamily.apply_clear (h : Nat) :
    fam.apply host self (.clear h) = (.unit (.ok ()), { fam with store := fun _ => none }) := rfl

@[simp] theorem CacheFamily.apply_containsModule (h : Nat) (key : Hash) :
    fam.apply host self (.containsModule h key) = (.bool (.ok (fam.store key).isSome), fam) := rfl

@[simp] theorem CacheFamily.apply_getMemBytesConsumed (h : Nat) :
    fam.apply host self (.getMemBytesConsumed h) = (.u64 (.ok self.memBytesConsumed), fam) := rfl

end Apply

/-- One operation through an existing handle; none if the family has no such handle. -/
def CacheFamily.step {Module : Type} (host : CompilationHost Module) (fam : CacheFamily Module)
    (op : CacheOp) : Option (CacheReply × CacheFamily Module) :=
  match fam.handles[op.handle]? with
  | none => none
  | some self => some (fam.apply host self op)

/-- An interleaving of operations, each recorded with its reply. -/
def CacheFamily.run {Module : Type} (host : CompilationHost Module) (fam : CacheFamily Module) :
    List CacheOp → Option (List (CacheOp × CacheReply) × CacheFamily Module)
  | [] => some ([], fam)
  | op :: ops =>
    match fam.step host op with
    | none => none
    | some (reply, fam') =>
      match fam'.run host ops with
      | none => none
      | some (events, fam'') => some ((op, reply) :: events, fam'')

/-- The family of a handle just built by `ProtocolSpecificModuleCache::new`. -/
def CacheFamily.create {Module : Type} (host : CompilationHost Module) :
    Except BoxError (CacheFamily Module) :=
  match ProtocolSpecificModuleCache.new host with
  | .error e => .error e
  | .ok (handle, store) => .ok ⟨store, [handle]⟩

end SorobanBridge
