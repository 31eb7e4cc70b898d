import SorobanBridge.Marshal

set_option autoImplicit false

/-! # The memory size of contract code, for rent

`contract_code_memory_size_for_rent` decodes a `ContractCodeEntry` and the two cost tables,
builds a budget with zero limits, asks the host what the entry's module costs in memory, and
narrows that `u64` to a `u32` with `try_into`, which fails above `u32::MAX` rather than
truncating (`u64TryIntoU32_eq_ok`). -/

namespace SorobanBridge

/-- The soroban functions `contract_code_memory_size_for_rent` calls. -/
structure RentHost (ContractCodeEntry CostParams : Type) where
  readContractCodeEntry : ReadXdr ContractCodeEntry
  readCostParams : ReadXdr CostParams
  budgetTryFromConfigs :
    UInt64 → UInt64 → CostParams → CostParams → Unwinding (Except HostError Budget)
  wasmModuleMemoryCost : Budget → ContractCodeEntry → Unwinding (Except BoxError UInt64)

/-- `u32::try_from(u64)`: a `TryFromIntError` above `u32::MAX`. -/
def u64TryIntoU32 (n : UInt64) : Except BoxError UInt32 :=
  if n.toNat < 2 ^ 32 then .ok n.toUInt32 else .error .tryFromInt

theorem u64TryIntoU32_eq_ok (n : UInt64) (m : UInt32) :
    u64TryIntoU32 n = .ok m ↔ n.toNat < 2 ^ 32 ∧ m.toNat = n.toNat := by
  unfold u64TryIntoU32
  split
  · next hlt =>
    have hnat : n.toUInt32.toNat = n.toNat := by
      simp only [UInt64.toUInt32, Nat.toUInt32, UInt32.toNat, UInt32.ofNat]
      simp [Fin.ofNat]
      omega
    simp only [Except.ok.injEq, hlt, true_and]
    exact ⟨fun h => h ▸ hnat, fun h => UInt32.toNat.inj (hnat.trans h.symm)⟩
  · next hge => simp only [hge, false_and, iff_false]; nofun

section Rent

variable {ContractCodeEntry CostParams : Type} (host : RentHost ContractCodeEntry CostParams)

/-- The entry is decoded first, then the cost tables, as the arguments are evaluated. -/
def contractCodeMemorySizeForRent (contractCodeEntryXdr cpuCostParams memCostParams : List UInt8) :
    Unwinding (Except BoxError UInt32) :=
  let boxed {α : Type} (x : Unwinding (Except HostError α)) := x.map (Except.mapError .host)
  (boxed (nonMeteredXdrFromCxxBuf host.readContractCodeEntry contractCodeEntryXdr)).bindOk
    fun contractCodeEntry =>
  (boxed (nonMeteredXdrFromCxxBuf host.readCostParams cpuCostParams)).bindOk fun cpu =>
  (boxed (nonMeteredXdrFromCxxBuf host.readCostParams memCostParams)).bindOk fun mem =>
  (boxed (host.budgetTryFromConfigs 0 0 cpu mem)).bindOk fun budget =>
  (host.wasmModuleMemoryCost budget contractCodeEntry).bindOk fun size =>
  .returned (u64TryIntoU32 size)

/-- A host whose tables always decode and whose modules cost exactly `2^32` bytes. -/
def oversizedRentHost : RentHost Unit Unit where
  readContractCodeEntry _ _ _ := .returned (.ok ())
  readCostParams _ _ _ := .returned (.ok ())
  budgetTryFromConfigs _ _ _ _ := .returned (.ok ⟨0, 0, 0, 0⟩)
  wasmModuleMemoryCost _ _ := .returned (.ok 4294967296)

example :
    contractCodeMemorySizeForRent oversizedRentHost [] [] [] = .returned (.error .tryFromInt) :=
  rfl

end Rent

end SorobanBridge
