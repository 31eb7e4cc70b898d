import SorobanBridge.Effects

set_option autoImplicit false

/-! # The invocation orchestrator

`invoke_host_function_or_maybe_panic` builds the call's `Budget`, converts the snapshot, runs the
engine and assembles the `InvokeHostFunctionOutput`; `invoke_host_function` wraps it in
`catch_unwind`. The soroban code it calls (`InvokeHost`, `Engine`) is a parameter that may
return anything or panic. -/

namespace SorobanBridge

/-! ## The snapshot and the budget -/

structure CxxLedgerInfo where
  protocolVersion : UInt32
  sequenceNumber : UInt32
  timestamp : UInt64
  networkId : List UInt8
  baseReserve : UInt32
  memoryLimit : UInt32
  minTempEntryTtl : UInt32
  minPersistentEntryTtl : UInt32
  maxEntryTtl : UInt32
  cpuCostParams : List UInt8
  memCostParams : List UInt8

structure LedgerInfo where
  protocolVersion : UInt32
  sequenceNumber : UInt32
  timestamp : UInt64
  networkId : Hash
  baseReserve : UInt32
  minTempEntryTtl : UInt32
  minPersistentEntryTtl : UInt32
  maxEntryTtl : UInt32

def LedgerInfo.ofCxx (c : CxxLedgerInfo) (networkId : Hash) : LedgerInfo :=
  { protocolVersion := c.protocolVersion, sequenceNumber := c.sequenceNumber,
    timestamp := c.timestamp, networkId, baseReserve := c.baseReserve,
    minTempEntryTtl := c.minTempEntryTtl, minPersistentEntryTtl := c.minPersistentEntryTtl,
    maxEntryTtl := c.maxEntryTtl }

/-- `LedgerInfo::try_from(&CxxLedgerInfo)`: fails unless the network id is 32 bytes. -/
def LedgerInfo.tryFrom (c : CxxLedgerInfo) : Except BoxError LedgerInfo :=
  match Hash.tryFrom c.networkId with
  | none => .error (.core (.general "network ID has wrong size"))
  | some networkId => .ok (LedgerInfo.ofCxx c networkId)

/-- `u64::saturating_sub`. -/
def saturatingSub (a b : UInt64) : UInt64 := if b ≤ a then a - b else 0

/-! ## The host and the engine -/

/-- The soroban functions the orchestrator calls under `catch_unwind`: the cost-table reader,
    `Budget::try_from_configs`, `extract_rent_changes` and `compute_rent_fee`. -/
structure InvokeHost (CostParams RentChange RentFeeConfig : Type) where
  readCostParams : ReadXdr CostParams
  budgetTryFromConfigs :
    UInt64 → UInt64 → CostParams → CostParams → Unwinding (Except HostError Budget)
  extractRentChanges : List LedgerEntryChange → Unwinding (List RentChange)
  computeRentFee : List RentChange → RentFeeConfig → UInt32 → Unwinding (BitVec 64)

structure InvokeHostFunctionResult where
  encodedInvokeResult : Except HostError (List UInt8)
  ledgerChanges : List LedgerEntryChange
  encodedContractEvents : List (List UInt8)

/-- What one engine call leaves when it returns: the budget it charged, the diagnostic events it
    pushed, the wall time measured around it, and its result. -/
structure EngineReturn where
  budget : Budget
  diagnosticEvents : List DiagnosticEvent
  timeNsecs : UInt64
  result : Except HostError InvokeHostFunctionResult

/-- `invoke_host_function_with_trace_hook_and_module_cache`; its other inputs pass through
    untouched and are part of its behaviour. -/
def Engine : Type := Budget → Bool → LedgerInfo → Unwinding EngineReturn

/-! ## The output -/

/-- `InvokeHostFunctionOutput`. `rent_fee` is an `i64`, held as its bit pattern. -/
structure InvokeHostFunctionOutput where
  success : Bool
  isInternalError : Bool
  diagnosticEvents : List RustBuf
  cpuInsns : UInt64
  memBytes : UInt64
  timeNsecs : UInt64
  cpuInsnsExcludingVmInstantiation : UInt64
  timeNsecsExcludingVmInstantiation : UInt64
  resultValue : RustBuf
  modifiedLedgerEntries : List RustBuf
  contractEvents : List RustBuf
  rentFee : BitVec 64

/-! ## The orchestrator -/

section Orchestrator

variable {CostParams RentChange RentFeeConfig : Type}
variable (host : InvokeHost CostParams RentChange RentFeeConfig)

/-- `Budget::try_from_configs(instruction_limit, memory_limit, cpu_params?, mem_params?)`: the
    cost tables are decoded first, the CPU table before the memory table. -/
def callBudget (instructionLimit : UInt32) (ledgerInfo : CxxLedgerInfo) :
    Unwinding (Except HostError Budget) :=
  (nonMeteredXdrFromCxxBuf host.readCostParams ledgerInfo.cpuCostParams).bindOk fun cpuCostParams =>
  (nonMeteredXdrFromCxxBuf host.readCostParams ledgerInfo.memCostParams).bindOk fun memCostParams =>
  host.budgetTryFromConfigs instructionLimit.toUInt64 ledgerInfo.memoryLimit.toUInt64
    cpuCostParams memCostParams

/-- The `host_fn_failed` event, with the source's `unwrap_or_default` and `unwrap_or` fallbacks. -/
def hostFnFailedEvent (err : HostError) : DiagnosticEvent :=
  { inSuccessfulContractCall := false
    event :=
      { ext := .v0
        contractId := none
        type_ := .diagnostic
        body := .v0
          { topics := (VecM.tryFrom
              [.symbol ((StringM.tryFrom "host_fn_failed").getD VecM.empty),
                .error (err.error.toScError?.getD (.context .internalError))]).getD VecM.empty
            data := .void } } }

/-- From protocol 22 on, an `InternalError` code on a contract error is the contract's own. -/
def isInternalError (protocolVersion : UInt32) (err : HostError) : Bool :=
  if protocolVersion < 22 then err.error.isCode .internalError
  else err.error.isCode .internalError && !err.error.isType .contract

def successOutput (r : EngineReturn) (res : InvokeHostFunctionResult) (resultValue : List UInt8)
    (modifiedLedgerEntries : List RustBuf) (rentFee : BitVec 64) : InvokeHostFunctionOutput :=
  { success := true
    isInternalError := false
    diagnosticEvents := encodeDiagnosticEvents r.diagnosticEvents
    cpuInsns := r.budget.cpuInsnsConsumed
    memBytes := r.budget.memBytesConsumed
    timeNsecs := r.timeNsecs
    cpuInsnsExcludingVmInstantiation :=
      saturatingSub r.budget.cpuInsnsConsumed r.budget.vmInstantiationCpu
    timeNsecsExcludingVmInstantiation := saturatingSub r.timeNsecs r.budget.vmInstantiationTime
    resultValue := ⟨resultValue⟩
    modifiedLedgerEntries
    contractEvents := res.encodedContractEvents.map RustBuf.mk
    rentFee }

/-- The output of a failed call; the marker is pushed when diagnostics are enabled. -/
def failureOutput (enableDiagnostics : Bool) (protocolVersion : UInt32) (r : EngineReturn)
    (err : HostError) : InvokeHostFunctionOutput :=
  let diagnosticEvents :=
    if enableDiagnostics then r.diagnosticEvents ++ [hostFnFailedEvent err] else r.diagnosticEvents
  { success := false
    isInternalError := isInternalError protocolVersion err
    diagnosticEvents := encodeDiagnosticEvents diagnosticEvents
    cpuInsns := r.budget.cpuInsnsConsumed
    memBytes := r.budget.memBytesConsumed
    timeNsecs := r.timeNsecs
    cpuInsnsExcludingVmInstantiation :=
      saturatingSub r.budget.cpuInsnsConsumed r.budget.vmInstantiationCpu
    timeNsecsExcludingVmInstantiation := saturatingSub r.timeNsecs r.budget.vmInstantiationTime
    resultValue := ⟨[]⟩
    modifiedLedgerEntries := []
    contractEvents := []
    rentFee := 0 }

/-- The part of `invoke_host_function_or_maybe_panic` after the engine returned. -/
def invocationOutput (enableDiagnostics : Bool) (ledgerInfo : CxxLedgerInfo)
    (rentFeeConfiguration : RentFeeConfig) (r : EngineReturn) :
    Unwinding (Except BoxError InvokeHostFunctionOutput) :=
  match r.result with
  | .ok res =>
    match res.encodedInvokeResult with
    | .ok resultValue =>
      match host.extractRentChanges res.ledgerChanges with
      | .panicked payload => .panicked payload
      | .returned rentChanges =>
        match host.computeRentFee rentChanges rentFeeConfiguration ledgerInfo.sequenceNumber with
        | .panicked payload => .panicked payload
        | .returned rentFee =>
          match extractLedgerEffects res.ledgerChanges with
          | .error e => .returned (.error (.host e))
          | .ok modifiedLedgerEntries =>
            .returned (.ok (successOutput r res resultValue modifiedLedgerEntries rentFee))
    | .error err => .returned (.ok (failureOutput enableDiagnostics ledgerInfo.protocolVersion r err))
  | .error err => .returned (.ok (failureOutput enableDiagnostics ledgerInfo.protocolVersion r err))

/-- `invoke_host_function_or_maybe_panic`: a panic unwinds through it. -/
def invokeHostFunctionOrMaybePanic (engine : Engine) (enableDiagnostics : Bool)
    (instructionLimit : UInt32) (ledgerInfo : CxxLedgerInfo)
    (rentFeeConfiguration : RentFeeConfig) : Unwinding (Except BoxError InvokeHostFunctionOutput) :=
  match callBudget host instructionLimit ledgerInfo with
  | .panicked payload => .panicked payload
  | .returned (.error e) => .returned (.error (.host e))
  | .returned (.ok budget) =>
    match LedgerInfo.tryFrom ledgerInfo with
    | .error e => .returned (.error e)
    | .ok info =>
      match engine budget enableDiagnostics info with
      | .panicked payload => .panicked payload
      | .returned r => invocationOutput host enableDiagnostics ledgerInfo rentFeeConfiguration r

/-- The error `invoke_host_function` reports for a caught panic. -/
def panicError : PanicPayload → BoxError
  | .string s => .core (.general ("contract host panicked: " ++ s))
  | .staticStr s => .core (.general ("contract host panicked: " ++ s))
  | .other => .core (.general "contract host panicked")

def invokeHostFunction (engine : Engine) (enableDiagnostics : Bool) (instructionLimit : UInt32)
    (ledgerInfo : CxxLedgerInfo) (rentFeeConfiguration : RentFeeConfig) :
    Except BoxError InvokeHostFunctionOutput :=
  match invokeHostFunctionOrMaybePanic host engine enableDiagnostics instructionLimit ledgerInfo
      rentFeeConfiguration with
  | .panicked payload => .error (panicError payload)
  | .returned r => r

end Orchestrator

end SorobanBridge
