import SorobanBridge.Invoke

set_option autoImplicit false

/-! # What an invocation reports

The orchestrator's contract, stated against the engine's behaviour on the call and against the
spec's own description of the budget, the rent fee, the failure marker and the output. The
inversion lemmas `invokeHostFunctionOrMaybePanic_eq_returned_cases` and `invocationOutput_eq_ok`
say once what the orchestrator can return. -/

namespace SorobanBridge

/-! ## The spec's view of a call -/

/-- The engine's own error, or the error of its encoded result. -/
def EngineReturn.failure (r : EngineReturn) : Option HostError :=
  match r.result with
  | .ok res =>
    match res.encodedInvokeResult with
    | .ok _ => none
    | .error err => some err
  | .error err => some err

def hostFnFailedSymbol : ScSymbol := ⟨"host_fn_failed".toUTF8.data.toList, by decide⟩

/-- The failure marker the spec describes: a diagnostic event outside any successful call, with
    no contract, void data and the topics `[Symbol("host_fn_failed"), Error(e)]`. -/
def failureMarker (e : ScError) : DiagnosticEvent :=
  { inSuccessfulContractCall := false
    event :=
      { ext := .v0
        contractId := none
        type_ := .diagnostic
        body := .v0
          { topics := ⟨[.symbol hostFnFailedSymbol, .error e], by simp [u32Max]⟩
            data := .void } } }

/-- The failure's own `ScError`, or `Context/InternalError` when it has none. -/
def markerError (err : HostError) : ScError := err.error.toScError?.getD (.context .internalError)

/-- The metrics an output reports, read from the call's budget after the engine returned. -/
structure ReportsMetrics (r : EngineReturn) (out : InvokeHostFunctionOutput) : Prop where
  cpuInsns : out.cpuInsns = r.budget.cpuInsnsConsumed
  memBytes : out.memBytes = r.budget.memBytesConsumed
  timeNsecs : out.timeNsecs = r.timeNsecs
  cpuInsnsExcludingVmInstantiation :
    out.cpuInsnsExcludingVmInstantiation =
      saturatingSub r.budget.cpuInsnsConsumed r.budget.vmInstantiationCpu
  timeNsecsExcludingVmInstantiation :
    out.timeNsecsExcludingVmInstantiation = saturatingSub r.timeNsecs r.budget.vmInstantiationTime

section Spec

variable {CostParams RentChange RentFeeConfig : Type}
variable (host : InvokeHost CostParams RentChange RentFeeConfig)

/-- The call's budget is built: both cost tables decode under depth 1000, and
    `Budget::try_from_configs` accepts them with the instruction and memory limits. -/
def BudgetBuilt (instructionLimit : UInt32) (ledgerInfo : CxxLedgerInfo) (budget : Budget) :
    Prop :=
  ∃ cpu mem,
    host.readCostParams 1000 ledgerInfo.cpuCostParams.length ledgerInfo.cpuCostParams =
      .returned (.ok cpu) ∧
    host.readCostParams 1000 ledgerInfo.memCostParams.length ledgerInfo.memCostParams =
      .returned (.ok mem) ∧
    host.budgetTryFromConfigs instructionLimit.toUInt64 ledgerInfo.memoryLimit.toUInt64 cpu mem =
      .returned (.ok budget)

/-- Building the call's budget fails, without a panic, with `err`: the CPU table does not decode,
    or it does and the memory table does not, which is reported as `(Value, InternalError)`; or
    both decode and `Budget::try_from_configs` rejects them with `err`. -/
def BudgetFails (instructionLimit : UInt32) (ledgerInfo : CxxLedgerInfo) (err : HostError) :
    Prop :=
  ((∃ e, host.readCostParams 1000 ledgerInfo.cpuCostParams.length ledgerInfo.cpuCostParams =
        .returned (.error e)) ∨
      ∃ cpu e,
        host.readCostParams 1000 ledgerInfo.cpuCostParams.length ledgerInfo.cpuCostParams =
          .returned (.ok cpu) ∧
        host.readCostParams 1000 ledgerInfo.memCostParams.length ledgerInfo.memCostParams =
          .returned (.error e)) ∧
    err = HostError.ofTypeAndCode .value .internalError ∨
  ∃ cpu mem,
    host.readCostParams 1000 ledgerInfo.cpuCostParams.length ledgerInfo.cpuCostParams =
      .returned (.ok cpu) ∧
    host.readCostParams 1000 ledgerInfo.memCostParams.length ledgerInfo.memCostParams =
      .returned (.ok mem) ∧
    host.budgetTryFromConfigs instructionLimit.toUInt64 ledgerInfo.memoryLimit.toUInt64 cpu mem =
      .returned (.error err)

/-- The host's rent fee of some ledger changes: `compute_rent_fee` of `extract_rent_changes` at
    the snapshot's sequence number, both of which return. -/
def HostRentFee (rentFeeConfiguration : RentFeeConfig) (ledgerSeqNum : UInt32)
    (changes : List LedgerEntryChange) (fee : BitVec 64) : Prop :=
  ∃ rentChanges, host.extractRentChanges changes = .returned rentChanges ∧
    host.computeRentFee rentChanges rentFeeConfiguration ledgerSeqNum = .returned fee

/-- What the output of a call whose engine returned the encoded result `resultValue` reports. -/
structure SuccessOutput (rentFeeConfiguration : RentFeeConfig) (ledgerSeqNum : UInt32)
    (res : InvokeHostFunctionResult) (resultValue : List UInt8)
    (out : InvokeHostFunctionOutput) : Prop where
  success : out.success = true
  isInternalError : out.isInternalError = false
  resultValue : out.resultValue = ⟨resultValue⟩
  contractEvents : out.contractEvents = res.encodedContractEvents.map RustBuf.mk
  modifiedLedgerEntries : extractLedgerEffects res.ledgerChanges = .ok out.modifiedLedgerEntries
  rentFee : HostRentFee host rentFeeConfiguration ledgerSeqNum res.ledgerChanges out.rentFee

end Spec

/-- What the output of a call that failed with `err` under `protocolVersion` reports. -/
structure FailureOutput (protocolVersion : UInt32) (err : HostError)
    (out : InvokeHostFunctionOutput) : Prop where
  success : out.success = false
  resultValue : out.resultValue = ⟨[]⟩
  modifiedLedgerEntries : out.modifiedLedgerEntries = []
  contractEvents : out.contractEvents = []
  rentFee : out.rentFee = 0
  isInternalError :
    out.isInternalError =
      (err.error.isCode .internalError &&
        (decide (protocolVersion < 22) || !err.error.isType .contract))

/-! ## The failure marker -/

theorem stringM_tryFrom_hostFnFailed :
    (StringM.tryFrom "host_fn_failed" : Option ScSymbol) = some hostFnFailedSymbol := rfl

/-- None of the marker's fallbacks is taken: the source's marker is the spec's. -/
theorem hostFnFailedEvent_eq (err : HostError) :
    hostFnFailedEvent err = failureMarker (markerError err) := by
  simp only [hostFnFailedEvent, stringM_tryFrom_hostFnFailed, Option.getD_some]
  rw [VecM.tryFrom_of_le _ (by simp [u32Max])]
  rfl

theorem hostFnFailedSymbol_length : hostFnFailedSymbol.items.length = 14 := by decide

/-- The marker is 64 bytes, nine levels deep, whatever its error. -/
theorem failureMarker_encodable (e : ScError) : Encodable (failureMarker e).toXdr := by
  simp [Encodable, failureMarker, DiagnosticEvent.toXdr, ContractEvent.toXdr,
    ContractEventBody.toXdr, ContractEventV0.toXdr, ScVal.toXdr, ScVal.listToXdr, xdrStruct,
    xdrFields, xdrUnion, xdrEnum, xdrU32, xdrBool, xdrOption, xdrVec, xdrLength, xdrOpaqueVar,
    xdrPadding, hostFnFailedSymbol_length, marshallingStackLimit, xdrOutputLimit]

theorem isInternalError_eq (protocolVersion : UInt32) (err : HostError) :
    isInternalError protocolVersion err =
      (err.error.isCode .internalError &&
        (decide (protocolVersion < 22) || !err.error.isType .contract)) := by
  unfold isInternalError
  by_cases h : protocolVersion < 22 <;> simp [h]

/-! ## Sample calls -/

/-- A host whose cost tables always decode, whose budgets start empty and whose rent is 0. -/
def sampleHost : InvokeHost Unit Unit Unit where
  readCostParams _ _ _ := .returned (.ok ())
  budgetTryFromConfigs _ _ _ _ := .returned (.ok ⟨0, 0, 0, 0⟩)
  extractRentChanges _ := .returned []
  computeRentFee _ _ _ := .returned 0

/-- A protocol-22 snapshot at sequence number 1 with a 32-byte network id. -/
def sampleLedgerInfo : CxxLedgerInfo :=
  { protocolVersion := 22, sequenceNumber := 1, timestamp := 0, networkId := List.replicate 32 0
    baseReserve := 0, memoryLimit := 0, minTempEntryTtl := 0, minPersistentEntryTtl := 0
    maxEntryTtl := 0, cpuCostParams := [], memCostParams := [] }

def contractInternalError : HostError := HostError.ofTypeAndCode .contract .internalError

def contractErrorReturn : EngineReturn :=
  { budget := ⟨10, 4, 5, 2⟩, diagnosticEvents := [], timeNsecs := 3
    result := .error contractInternalError }

def contractErrorOutput : InvokeHostFunctionOutput :=
  failureOutput true 22 contractErrorReturn contractInternalError

def contractErrorEngine : Engine := fun _ _ _ => .returned contractErrorReturn

/-- A run that succeeded with the result `[1]` and the event `[3]`, writing one entry and
    extending its TTL under a 32-byte key. -/
def successResult : InvokeHostFunctionResult :=
  { encodedInvokeResult := .ok [1]
    ledgerChanges := [⟨false, some [2], some ⟨List.replicate 32 7, 5, 9⟩⟩]
    encodedContractEvents := [[3]] }

def successReturn : EngineReturn :=
  { budget := ⟨10, 4, 5, 2⟩, diagnosticEvents := [], timeNsecs := 3, result := .ok successResult }

def successEngine : Engine := fun _ _ _ => .returned successReturn

def panickingEngine : Engine := fun _ _ _ => .panicked (.string "boom")

/-! ## Inversion -/

section Orchestrator

variable {CostParams RentChange RentFeeConfig : Type}
variable (host : InvokeHost CostParams RentChange RentFeeConfig) (engine : Engine)
variable (enableDiagnostics : Bool) (instructionLimit : UInt32) (ledgerInfo : CxxLedgerInfo)
variable (rentFeeConfiguration : RentFeeConfig)

theorem callBudget_eq_ok (budget : Budget) :
    callBudget host instructionLimit ledgerInfo = .returned (.ok budget) ↔
      BudgetBuilt host instructionLimit ledgerInfo budget := by
  simp only [callBudget, Unwinding.bindOk_eq_ok, nonMeteredXdrFromCxxBuf_eq_ok, BudgetBuilt,
    marshallingStackLimit, exists_and_left]

theorem callBudget_eq_error (err : HostError) :
    callBudget host instructionLimit ledgerInfo = .returned (.error err) ↔
      BudgetFails host instructionLimit ledgerInfo err := by
  simp only [callBudget, Unwinding.bindOk_eq_error, Unwinding.bindOk_eq_ok,
    nonMeteredXdrFromCxxBuf_eq_error, nonMeteredXdrFromCxxBuf_eq_ok, BudgetFails,
    marshallingStackLimit, or_and_right, and_or_left, exists_or, exists_and_left,
    exists_and_right, or_assoc, and_assoc]

theorem ledgerInfo_tryFrom_eq_ok (info : LedgerInfo) :
    LedgerInfo.tryFrom ledgerInfo = .ok info ↔
      ∃ hnet : ledgerInfo.networkId.length = 32, info = LedgerInfo.ofCxx ledgerInfo ⟨_, hnet⟩ := by
  unfold LedgerInfo.tryFrom
  by_cases hnet : ledgerInfo.networkId.length = 32
  · simp [Hash.tryFrom_of_length _ hnet, hnet, eq_comm]
  · simp [(Hash.tryFrom_eq_none_iff _).2 hnet, hnet]

/-- A call that returns failed to build its budget, failed to convert the snapshot, or ran the
    engine to its end. -/
theorem invokeHostFunctionOrMaybePanic_eq_returned_cases
    {x : Except BoxError InvokeHostFunctionOutput}
    (h : invokeHostFunctionOrMaybePanic host engine enableDiagnostics instructionLimit ledgerInfo
      rentFeeConfiguration = .returned x) :
    (∃ err, callBudget host instructionLimit ledgerInfo = .returned (.error err) ∧
      x = .error (.host err)) ∨
    (∃ budget err, callBudget host instructionLimit ledgerInfo = .returned (.ok budget) ∧
      LedgerInfo.tryFrom ledgerInfo = .error err ∧ x = .error err) ∨
    (∃ budget info r, callBudget host instructionLimit ledgerInfo = .returned (.ok budget) ∧
      LedgerInfo.tryFrom ledgerInfo = .ok info ∧
      engine budget enableDiagnostics info = .returned r ∧
      invocationOutput host enableDiagnostics ledgerInfo rentFeeConfiguration r = .returned x) := by
  unfold invokeHostFunctionOrMaybePanic at h
  split at h
  · cases h
  · next err hbudget => exact .inl ⟨err, hbudget, (Unwinding.returned.inj h).symm⟩
  · next budget hbudget =>
    split at h
    · next err hinfo =>
      exact .inr (.inl ⟨budget, err, hbudget, hinfo, (Unwinding.returned.inj h).symm⟩)
    · next info hinfo =>
      split at h
      · cases h
      · next r hr => exact .inr (.inr ⟨budget, info, r, hbudget, hinfo, hr, h⟩)

theorem invokeHostFunctionOrMaybePanic_eq_returned {out : InvokeHostFunctionOutput}
    (h : invokeHostFunctionOrMaybePanic host engine enableDiagnostics instructionLimit ledgerInfo
      rentFeeConfiguration = .returned (.ok out)) :
    ∃ budget info r, callBudget host instructionLimit ledgerInfo = .returned (.ok budget) ∧
      LedgerInfo.tryFrom ledgerInfo = .ok info ∧
      engine budget enableDiagnostics info = .returned r ∧
      invocationOutput host enableDiagnostics ledgerInfo rentFeeConfiguration r =
        .returned (.ok out) := by
  rcases invokeHostFunctionOrMaybePanic_eq_returned_cases host engine enableDiagnostics
      instructionLimit ledgerInfo rentFeeConfiguration h with
    ⟨_, -, ⟨⟩⟩ | ⟨_, _, -, -, ⟨⟩⟩ | h
  exact h

/-- An output after the engine returned `r` is the failure output of `r`'s failure, or the
    success output over the ledger effects of a run whose rent computation returned. -/
theorem invocationOutput_eq_returned_cases {r : EngineReturn}
    {x : Except BoxError InvokeHostFunctionOutput}
    (h : invocationOutput host enableDiagnostics ledgerInfo rentFeeConfiguration r = .returned x) :
    (∃ err, r.failure = some err ∧
      x = .ok (failureOutput enableDiagnostics ledgerInfo.protocolVersion r err)) ∨
    (∃ res resultValue rentFee, r.result = .ok res ∧ res.encodedInvokeResult = .ok resultValue ∧
      HostRentFee host rentFeeConfiguration ledgerInfo.sequenceNumber res.ledgerChanges rentFee ∧
      x = match extractLedgerEffects res.ledgerChanges with
        | .error e => .error (.host e)
        | .ok modified => .ok (successOutput r res resultValue modified rentFee)) := by
  unfold invocationOutput at h
  cases hres : r.result with
  | error err =>
    simp only [hres, Unwinding.returned.injEq] at h
    exact .inl ⟨err, by simp [EngineReturn.failure, hres], h.symm⟩
  | ok res =>
    cases hvalue : res.encodedInvokeResult with
    | error err =>
      simp only [hres, hvalue, Unwinding.returned.injEq] at h
      exact .inl ⟨err, by simp [EngineReturn.failure, hres, hvalue], h.symm⟩
    | ok resultValue =>
      simp only [hres, hvalue] at h
      split at h
      · cases h
      · next rentChanges hrc =>
        split at h
        · cases h
        · next rentFee hfee =>
          refine .inr ⟨res, resultValue, rentFee, rfl, hvalue, ⟨rentChanges, hrc, hfee⟩, ?_⟩
          split at h <;> simp_all

/-- The success output of the encoded result, or the failure output of the failure. -/
theorem invocationOutput_eq_ok {r : EngineReturn} {out : InvokeHostFunctionOutput}
    (h : invocationOutput host enableDiagnostics ledgerInfo rentFeeConfiguration r =
      .returned (.ok out)) :
    (∃ res resultValue modifiedLedgerEntries rentFee, r.result = .ok res ∧
      res.encodedInvokeResult = .ok resultValue ∧
      HostRentFee host rentFeeConfiguration ledgerInfo.sequenceNumber res.ledgerChanges rentFee ∧
      extractLedgerEffects res.ledgerChanges = .ok modifiedLedgerEntries ∧
      out = successOutput r res resultValue modifiedLedgerEntries rentFee) ∨
    (∃ err, r.failure = some err ∧
      out = failureOutput enableDiagnostics ledgerInfo.protocolVersion r err) := by
  rcases invocationOutput_eq_returned_cases host enableDiagnostics ledgerInfo
      rentFeeConfiguration h with ⟨err, herr, hout⟩ | ⟨res, resultValue, rentFee, hres, hvalue, hfee, hout⟩
  · exact .inr ⟨err, herr, Except.ok.inj hout⟩
  · split at hout
    · cases hout
    · next modified heffects =>
      exact .inl ⟨res, resultValue, modified, rentFee, hres, hvalue, hfee, heffects,
        Except.ok.inj hout⟩

theorem successOutput_reportsMetrics (r : EngineReturn) (res : InvokeHostFunctionResult)
    (resultValue : List UInt8) (modifiedLedgerEntries : List RustBuf) (rentFee : BitVec 64) :
    ReportsMetrics r (successOutput r res resultValue modifiedLedgerEntries rentFee) :=
  ⟨rfl, rfl, rfl, rfl, rfl⟩

theorem failureOutput_reportsMetrics (protocolVersion : UInt32) (r : EngineReturn)
    (err : HostError) :
    ReportsMetrics r (failureOutput enableDiagnostics protocolVersion r err) :=
  ⟨rfl, rfl, rfl, rfl, rfl⟩

/-! ## The output of a call -/

/-- **What a call's output reports.** -/
theorem invokeHostFunctionOrMaybePanic_reports_outcome {out : InvokeHostFunctionOutput}
    (h : invokeHostFunctionOrMaybePanic host engine enableDiagnostics instructionLimit ledgerInfo
      rentFeeConfiguration = .returned (.ok out)) :
    ∃ budget info r, callBudget host instructionLimit ledgerInfo = .returned (.ok budget) ∧
      LedgerInfo.tryFrom ledgerInfo = .ok info ∧
      engine budget enableDiagnostics info = .returned r ∧
      (out.success = true ↔ r.failure = none) ∧
      (∀ res resultValue, r.result = .ok res → res.encodedInvokeResult = .ok resultValue →
        SuccessOutput host rentFeeConfiguration ledgerInfo.sequenceNumber res resultValue out) ∧
      (∀ err, r.failure = some err → FailureOutput ledgerInfo.protocolVersion err out) ∧
      ReportsMetrics r out := by
  obtain ⟨budget, info, r, hbudget, hinfo, hr, hout⟩ :=
    invokeHostFunctionOrMaybePanic_eq_returned host engine enableDiagnostics instructionLimit
      ledgerInfo rentFeeConfiguration h
  refine ⟨budget, info, r, hbudget, hinfo, hr, ?_⟩
  rcases invocationOutput_eq_ok host enableDiagnostics ledgerInfo rentFeeConfiguration hout with
    ⟨res, resultValue, modified, fee, hres, hvalue, hfee, heffects, rfl⟩ | ⟨err, herr, rfl⟩
  · have hfailure : r.failure = none := by simp [EngineReturn.failure, hres, hvalue]
    refine ⟨by simp [hfailure, successOutput], ?_, by simp [hfailure],
      successOutput_reportsMetrics r res resultValue modified _⟩
    intro res' resultValue' hres' hvalue'
    cases hres.symm.trans hres'
    cases hvalue.symm.trans hvalue'
    exact ⟨rfl, rfl, rfl, rfl, heffects, hfee⟩
  · refine ⟨by simp [herr, failureOutput], ?_, ?_,
      failureOutput_reportsMetrics enableDiagnostics _ r err⟩
    · intro res resultValue hres hvalue
      simp [EngineReturn.failure, hres, hvalue] at herr
    · intro err' herr'
      cases herr.symm.trans herr'
      exact ⟨rfl, rfl, rfl, rfl, rfl, isInternalError_eq _ _⟩

/-- A failed call and a successful one. -/
theorem invokeHostFunctionOrMaybePanic_reports_outcome_samples :
    invokeHostFunctionOrMaybePanic sampleHost contractErrorEngine true 0 sampleLedgerInfo () =
        .returned (.ok contractErrorOutput) ∧
      FailureOutput 22 contractInternalError contractErrorOutput ∧
      ReportsMetrics contractErrorReturn contractErrorOutput ∧
      ∃ out, invokeHostFunctionOrMaybePanic sampleHost successEngine true 0 sampleLedgerInfo () =
          .returned (.ok out) ∧
        SuccessOutput sampleHost () 1 successResult [1] out ∧ ReportsMetrics successReturn out := by
  have hfail : invokeHostFunctionOrMaybePanic sampleHost contractErrorEngine true 0
      sampleLedgerInfo () = .returned (.ok contractErrorOutput) := rfl
  have hsucc : invokeHostFunctionOrMaybePanic sampleHost successEngine true 0 sampleLedgerInfo
      () = .returned (.ok _) := rfl
  obtain ⟨_, _, _, -, -, ⟨⟩, -, -, hfailure, hm⟩ :=
    invokeHostFunctionOrMaybePanic_reports_outcome sampleHost contractErrorEngine true 0
      sampleLedgerInfo () hfail
  obtain ⟨_, _, _, -, -, ⟨⟩, -, hsuccess, -, hm'⟩ :=
    invokeHostFunctionOrMaybePanic_reports_outcome sampleHost successEngine true 0
      sampleLedgerInfo () hsucc
  exact ⟨hfail, hfailure _ rfl, hm, _, hsucc, hsuccess _ _ rfl rfl, hm'⟩

/-- **The diagnostic events of a call.** -/
theorem invokeHostFunctionOrMaybePanic_diagnosticEvents {out : InvokeHostFunctionOutput}
    (h : invokeHostFunctionOrMaybePanic host engine enableDiagnostics instructionLimit ledgerInfo
      rentFeeConfiguration = .returned (.ok out)) :
    ∃ budget info r, callBudget host instructionLimit ledgerInfo = .returned (.ok budget) ∧
      LedgerInfo.tryFrom ledgerInfo = .ok info ∧
      engine budget enableDiagnostics info = .returned r ∧
      out.diagnosticEvents =
        (r.diagnosticEvents.filter fun e => decide (Encodable e.toXdr)).map
            (fun e => ⟨e.toXdr.encode⟩) ++
          match r.failure with
          | some err =>
            if enableDiagnostics then [⟨(failureMarker (markerError err)).toXdr.encode⟩] else []
          | none => [] := by
  obtain ⟨budget, info, r, hbudget, hinfo, hr, hout⟩ :=
    invokeHostFunctionOrMaybePanic_eq_returned host engine enableDiagnostics instructionLimit
      ledgerInfo rentFeeConfiguration h
  refine ⟨budget, info, r, hbudget, hinfo, hr, ?_⟩
  rcases invocationOutput_eq_ok host enableDiagnostics ledgerInfo rentFeeConfiguration hout with
    ⟨res, resultValue, modified, fee, hres, hvalue, -, -, rfl⟩ | ⟨err, herr, rfl⟩
  · have hfailure : r.failure = none := by simp [EngineReturn.failure, hres, hvalue]
    simp [hfailure, successOutput, encodeDiagnosticEvents_eq]
  · cases enableDiagnostics <;>
      simp [herr, failureOutput, encodeDiagnosticEvents_eq, hostFnFailedEvent_eq,
        failureMarker_encodable]

theorem invokeHostFunctionOrMaybePanic_diagnosticEvents_contractError :
    invokeHostFunctionOrMaybePanic sampleHost contractErrorEngine true 0 sampleLedgerInfo () =
        .returned (.ok contractErrorOutput) ∧
      contractErrorOutput.diagnosticEvents =
        [⟨(failureMarker (.contract ScErrorCode.internalError.toU32)).toXdr.encode⟩] := by
  have h : invokeHostFunctionOrMaybePanic sampleHost contractErrorEngine true 0 sampleLedgerInfo
      () = .returned (.ok contractErrorOutput) := rfl
  obtain ⟨_, _, _, -, -, ⟨⟩, hevents⟩ := invokeHostFunctionOrMaybePanic_diagnosticEvents
    sampleHost contractErrorEngine true 0 sampleLedgerInfo () h
  exact ⟨h, hevents.trans rfl⟩

/-! ## Panics -/

/-- With well-formed TTL keys and a rent computation that returns, an output is built. -/
theorem invocationOutput_exists {r : EngineReturn}
    (hreturns : ∀ res, r.result = .ok res →
      res.ledgerChanges.any LedgerEntryChange.malformedTtlKey = false ∧
      ∃ fee, HostRentFee host rentFeeConfiguration ledgerInfo.sequenceNumber res.ledgerChanges fee) :
    ∃ out, invocationOutput host enableDiagnostics ledgerInfo rentFeeConfiguration r =
      .returned (.ok out) := by
  unfold invocationOutput
  split
  · next res hres =>
    obtain ⟨hkeys, _, _, hrc, hfee⟩ := hreturns res hres
    split
    · simp only [hrc, hfee, extractLedgerEffects_eq, hkeys, Bool.false_eq_true, ite_false]
      exact ⟨_, rfl⟩
    · exact ⟨_, rfl⟩
  · exact ⟨_, rfl⟩

theorem invocationOutput_success_metrics {r : EngineReturn} {out : InvokeHostFunctionOutput}
    (h : invocationOutput host enableDiagnostics ledgerInfo rentFeeConfiguration r =
      .returned (.ok out)) :
    (out.success = false ↔ r.failure.isSome) ∧ ReportsMetrics r out := by
  rcases invocationOutput_eq_ok host enableDiagnostics ledgerInfo rentFeeConfiguration h with
    ⟨res, resultValue, modified, fee, hres, hvalue, -, -, rfl⟩ | ⟨err, herr, rfl⟩
  · exact ⟨by simp [successOutput, EngineReturn.failure, hres, hvalue],
      successOutput_reportsMetrics r res resultValue modified _⟩
  · exact ⟨by simp [failureOutput, herr], failureOutput_reportsMetrics enableDiagnostics _ r err⟩

/-- **`invoke_host_function` and engine panics.** -/
theorem invokeHostFunction_catches_panics {budget : Budget}
    (hbudget : BudgetBuilt host instructionLimit ledgerInfo budget)
    (hnet : ledgerInfo.networkId.length = 32)
    (hreturns : ∀ r res,
      engine budget enableDiagnostics (LedgerInfo.ofCxx ledgerInfo ⟨_, hnet⟩) = .returned r →
      r.result = .ok res →
      res.ledgerChanges.any LedgerEntryChange.malformedTtlKey = false ∧
      ∃ fee, HostRentFee host rentFeeConfiguration ledgerInfo.sequenceNumber res.ledgerChanges fee) :
    (∀ r, engine budget enableDiagnostics (LedgerInfo.ofCxx ledgerInfo ⟨_, hnet⟩) = .returned r →
      ∃ out, invokeHostFunction host engine enableDiagnostics instructionLimit ledgerInfo
          rentFeeConfiguration = .ok out ∧
        (out.success = false ↔ r.failure.isSome) ∧ ReportsMetrics r out) ∧
    (∀ payload,
      engine budget enableDiagnostics (LedgerInfo.ofCxx ledgerInfo ⟨_, hnet⟩) = .panicked payload →
      invokeHostFunction host engine enableDiagnostics instructionLimit ledgerInfo
          rentFeeConfiguration =
        .error (.core (.general (match payload with
          | .string s | .staticStr s => "contract host panicked: " ++ s
          | .other => "contract host panicked")))) := by
  have hbudget' := (callBudget_eq_ok host instructionLimit ledgerInfo budget).2 hbudget
  have hinfo := (ledgerInfo_tryFrom_eq_ok ledgerInfo _).2 ⟨hnet, rfl⟩
  constructor
  · intro r hr
    obtain ⟨out, hout⟩ := invocationOutput_exists host enableDiagnostics ledgerInfo
      rentFeeConfiguration (hreturns r · hr)
    refine ⟨out, ?_, invocationOutput_success_metrics host enableDiagnostics ledgerInfo
      rentFeeConfiguration hout⟩
    simp only [invokeHostFunction, invokeHostFunctionOrMaybePanic, hbudget', hinfo, hr, hout]
  · intro payload hp
    simp only [invokeHostFunction, invokeHostFunctionOrMaybePanic, hbudget', hinfo, hp]
    cases payload <;> rfl

/-- A call whose engine returns a success, and one whose engine panics. -/
theorem invokeHostFunction_catches_panics_sample :
    (∃ out, invokeHostFunction sampleHost successEngine false 0 sampleLedgerInfo () = .ok out ∧
      (out.success = false ↔ successReturn.failure.isSome) ∧ ReportsMetrics successReturn out) ∧
      invokeHostFunction sampleHost panickingEngine false 0 sampleLedgerInfo () =
        .error (.core (.general "contract host panicked: boom")) := by
  have hbudget : BudgetBuilt sampleHost 0 sampleLedgerInfo ⟨0, 0, 0, 0⟩ := ⟨(), (), rfl, rfl, rfl⟩
  refine ⟨(invokeHostFunction_catches_panics sampleHost successEngine false 0 sampleLedgerInfo ()
      hbudget rfl ?_).1 _ rfl,
    (invokeHostFunction_catches_panics sampleHost panickingEngine false 0 sampleLedgerInfo ()
      hbudget rfl fun _ _ h _ => nomatch h).2 _ rfl⟩
  rintro _ _ ⟨⟩ ⟨⟩
  exact ⟨rfl, 0, [], rfl, rfl⟩

theorem invokeHostFunction_panicking_engine_is_err :
    invokeHostFunction sampleHost panickingEngine false 0 sampleLedgerInfo () =
      .error (.core (.general "contract host panicked: boom")) := rfl

/-! ## The errors of a call -/

theorem ledgerInfo_tryFrom_eq_error (e : BoxError) :
    LedgerInfo.tryFrom ledgerInfo = .error e ↔
      ledgerInfo.networkId.length ≠ 32 ∧ e = .core (.general "network ID has wrong size") := by
  unfold LedgerInfo.tryFrom
  by_cases hnet : ledgerInfo.networkId.length = 32
  · simp [Hash.tryFrom_of_length _ hnet, hnet]
  · simp [(Hash.tryFrom_eq_none_iff _).2 hnet, hnet, eq_comm]

/-- After the engine returned, the only error is a TTL extension under a malformed key. -/
theorem invocationOutput_eq_error {r : EngineReturn} (e : BoxError) :
    invocationOutput host enableDiagnostics ledgerInfo rentFeeConfiguration r =
        .returned (.error e) ↔
      ∃ res resultValue fee, r.result = .ok res ∧ res.encodedInvokeResult = .ok resultValue ∧
        HostRentFee host rentFeeConfiguration ledgerInfo.sequenceNumber res.ledgerChanges fee ∧
        res.ledgerChanges.any LedgerEntryChange.malformedTtlKey = true ∧
        e = .host (HostError.ofTypeAndCode .value .internalError) := by
  constructor
  · intro h
    rcases invocationOutput_eq_returned_cases host enableDiagnostics ledgerInfo
        rentFeeConfiguration h with ⟨_, _, ⟨⟩⟩ | ⟨res, resultValue, fee, hres, hvalue, hfee, hout⟩
    rw [extractLedgerEffects_eq] at hout
    by_cases hm : res.ledgerChanges.any LedgerEntryChange.malformedTtlKey
    · simp only [hm, if_true, Except.error.injEq] at hout
      exact ⟨res, resultValue, fee, hres, hvalue, hfee, hm, hout⟩
    · simp [hm] at hout
  · rintro ⟨res, _, _, hres, hvalue, ⟨rentChanges, hrc, hfee⟩, hm, rfl⟩
    simp only [invocationOutput, hres, hvalue, hrc, hfee, extractLedgerEffects_eq, hm, if_true]

/-- **The errors of a call.** -/
theorem invokeHostFunctionOrMaybePanic_eq_error_iff (e : BoxError) :
    invokeHostFunctionOrMaybePanic host engine enableDiagnostics instructionLimit ledgerInfo
        rentFeeConfiguration = .returned (.error e) ↔
      (∃ err, BudgetFails host instructionLimit ledgerInfo err ∧ e = .host err) ∨
      ((∃ budget, BudgetBuilt host instructionLimit ledgerInfo budget) ∧
        ledgerInfo.networkId.length ≠ 32 ∧ e = .core (.general "network ID has wrong size")) ∨
      (∃ budget, BudgetBuilt host instructionLimit ledgerInfo budget ∧
        ∃ (hnet : ledgerInfo.networkId.length = 32) (r : EngineReturn)
          (res : InvokeHostFunctionResult) (resultValue : List UInt8) (fee : BitVec 64),
          engine budget enableDiagnostics (LedgerInfo.ofCxx ledgerInfo ⟨_, hnet⟩) = .returned r ∧
          r.result = .ok res ∧ res.encodedInvokeResult = .ok resultValue ∧
          HostRentFee host rentFeeConfiguration ledgerInfo.sequenceNumber res.ledgerChanges fee ∧
          res.ledgerChanges.any LedgerEntryChange.malformedTtlKey = true ∧
          e = .host (HostError.ofTypeAndCode .value .internalError)) := by
  simp only [← callBudget_eq_ok, ← callBudget_eq_error]
  constructor
  · intro h
    rcases invokeHostFunctionOrMaybePanic_eq_returned_cases host engine enableDiagnostics
        instructionLimit ledgerInfo rentFeeConfiguration h with
      ⟨err, hbudget, h⟩ | ⟨budget, err, hbudget, hinfo, h⟩ |
        ⟨budget, info, r, hbudget, hinfo, hr, h⟩
    · exact .inl ⟨err, hbudget, Except.error.inj h⟩
    · obtain ⟨hlen, rfl⟩ := (ledgerInfo_tryFrom_eq_error ledgerInfo err).1 hinfo
      exact .inr (.inl ⟨⟨budget, hbudget⟩, hlen, Except.error.inj h⟩)
    · obtain ⟨hnet, rfl⟩ := (ledgerInfo_tryFrom_eq_ok ledgerInfo info).1 hinfo
      obtain ⟨res, resultValue, fee, hres, hvalue, hfee, hm, rfl⟩ :=
        (invocationOutput_eq_error host enableDiagnostics ledgerInfo rentFeeConfiguration e).1 h
      exact .inr (.inr ⟨budget, hbudget, hnet, r, res, resultValue, fee, hr, hres, hvalue, hfee,
        hm, rfl⟩)
  · rintro (⟨err, hbudget, rfl⟩ | ⟨⟨budget, hbudget⟩, hlen, rfl⟩ |
      ⟨budget, hbudget, hnet, r, res, resultValue, fee, hr, hres, hvalue, hfee, hm, rfl⟩)
    · simp only [invokeHostFunctionOrMaybePanic, hbudget]
    · simp only [invokeHostFunctionOrMaybePanic, hbudget,
        (ledgerInfo_tryFrom_eq_error ledgerInfo _).2 ⟨hlen, rfl⟩]
    · simp only [invokeHostFunctionOrMaybePanic, hbudget,
        (ledgerInfo_tryFrom_eq_ok ledgerInfo _).2 ⟨hnet, rfl⟩, hr,
        (invocationOutput_eq_error host enableDiagnostics ledgerInfo rentFeeConfiguration _).2
          ⟨res, resultValue, fee, hres, hvalue, hfee, hm, rfl⟩]

/-- `u64::saturating_sub` is truncated subtraction. -/
theorem saturatingSub_toNat (a b : UInt64) : (saturatingSub a b).toNat = a.toNat - b.toNat := by
  unfold saturatingSub
  split
  · exact UInt64.toNat_sub_of_le a b ‹_›
  · next h =>
    have hlt : a.toNat < b.toNat := not_le.1 (h ∘ UInt64.le_def.2 ∘ BitVec.le_def.2)
    simp only [UInt64.toNat_zero]
    omega

/-- **The metrics net of VM instantiation** never exceed the totals. -/
theorem invokeHostFunctionOrMaybePanic_excluding_vm_le {out : InvokeHostFunctionOutput}
    (h : invokeHostFunctionOrMaybePanic host engine enableDiagnostics instructionLimit ledgerInfo
      rentFeeConfiguration = .returned (.ok out)) :
    out.cpuInsnsExcludingVmInstantiation.toNat ≤ out.cpuInsns.toNat ∧
      out.timeNsecsExcludingVmInstantiation.toNat ≤ out.timeNsecs.toNat := by
  obtain ⟨-, -, r, -, -, -, hout⟩ :=
    invokeHostFunctionOrMaybePanic_eq_returned host engine enableDiagnostics instructionLimit
      ledgerInfo rentFeeConfiguration h
  have hm := (invocationOutput_success_metrics host enableDiagnostics ledgerInfo
    rentFeeConfiguration hout).2
  rw [hm.cpuInsnsExcludingVmInstantiation, hm.cpuInsns, hm.timeNsecsExcludingVmInstantiation,
    hm.timeNsecs, saturatingSub_toNat, saturatingSub_toNat]
  omega

theorem invokeHostFunctionOrMaybePanic_excluding_vm_le_contractError :
    invokeHostFunctionOrMaybePanic sampleHost contractErrorEngine true 0 sampleLedgerInfo () =
        .returned (.ok contractErrorOutput) ∧
      contractErrorOutput.cpuInsnsExcludingVmInstantiation.toNat ≤
        contractErrorOutput.cpuInsns.toNat ∧
      contractErrorOutput.timeNsecsExcludingVmInstantiation.toNat ≤
        contractErrorOutput.timeNsecs.toNat :=
  ⟨rfl, invokeHostFunctionOrMaybePanic_excluding_vm_le sampleHost contractErrorEngine true 0
    sampleLedgerInfo () rfl⟩

/-! ## Diagnostics change only the diagnostic events -/

def EngineReturn.withoutDiagnostics (r : EngineReturn) : EngineReturn :=
  { r with diagnosticEvents := [] }

def InvokeHostFunctionOutput.withoutDiagnostics (out : InvokeHostFunctionOutput) :
    InvokeHostFunctionOutput :=
  { out with diagnosticEvents := [] }

/-- Once diagnostic events are erased, the output depends neither on the flag nor on the events. -/
theorem invocationOutput_withoutDiagnostics (r : EngineReturn) :
    (invocationOutput host enableDiagnostics ledgerInfo rentFeeConfiguration r).map
        (Except.map InvokeHostFunctionOutput.withoutDiagnostics) =
      (invocationOutput host false ledgerInfo rentFeeConfiguration r.withoutDiagnostics).map
        (Except.map InvokeHostFunctionOutput.withoutDiagnostics) := by
  unfold invocationOutput
  rcases r with ⟨budget, diagnosticEvents, timeNsecs, _ | res⟩
  · rfl
  · dsimp only [EngineReturn.withoutDiagnostics]
    split
    · rcases host.extractRentChanges res.ledgerChanges with rentChanges | _ <;> dsimp only
      rcases host.computeRentFee rentChanges rentFeeConfiguration ledgerInfo.sequenceNumber
        with _ | _ <;> dsimp only
      split <;> rfl
    · rfl

theorem invokeHostFunctionOrMaybePanic_withoutDiagnostics (enableDiagnostics' : Bool)
    (hengine : ∀ budget info,
      (engine budget enableDiagnostics info).map EngineReturn.withoutDiagnostics =
        (engine budget enableDiagnostics' info).map EngineReturn.withoutDiagnostics) :
    (invokeHostFunctionOrMaybePanic host engine enableDiagnostics instructionLimit ledgerInfo
        rentFeeConfiguration).map (Except.map InvokeHostFunctionOutput.withoutDiagnostics) =
      (invokeHostFunctionOrMaybePanic host engine enableDiagnostics' instructionLimit ledgerInfo
        rentFeeConfiguration).map (Except.map InvokeHostFunctionOutput.withoutDiagnostics) := by
  unfold invokeHostFunctionOrMaybePanic
  rcases callBudget host instructionLimit ledgerInfo with ⟨e | budget⟩ | _ <;> dsimp only
  · rcases LedgerInfo.tryFrom ledgerInfo with e | info <;> dsimp only
    have h := hengine budget info
    generalize engine budget enableDiagnostics info = u at h ⊢
    generalize engine budget enableDiagnostics' info = u' at h ⊢
    rcases Unwinding.map_eq_map.1 h with ⟨r, r', rfl, rfl, hr⟩ | ⟨payload, rfl, rfl⟩
    · rw [invocationOutput_withoutDiagnostics, invocationOutput_withoutDiagnostics host
        enableDiagnostics', hr]
    · rfl

/-- **Diagnostics change only the diagnostic events.** -/
theorem invokeHostFunction_withoutDiagnostics_eq (enableDiagnostics' : Bool)
    (hengine : ∀ budget info,
      (engine budget enableDiagnostics info).map EngineReturn.withoutDiagnostics =
        (engine budget enableDiagnostics' info).map EngineReturn.withoutDiagnostics) :
    (invokeHostFunction host engine enableDiagnostics instructionLimit ledgerInfo
        rentFeeConfiguration).map InvokeHostFunctionOutput.withoutDiagnostics =
      (invokeHostFunction host engine enableDiagnostics' instructionLimit ledgerInfo
        rentFeeConfiguration).map InvokeHostFunctionOutput.withoutDiagnostics := by
  have h := invokeHostFunctionOrMaybePanic_withoutDiagnostics host engine enableDiagnostics
    instructionLimit ledgerInfo rentFeeConfiguration enableDiagnostics' hengine
  unfold invokeHostFunction
  generalize invokeHostFunctionOrMaybePanic host engine enableDiagnostics instructionLimit
    ledgerInfo rentFeeConfiguration = u at h ⊢
  generalize invokeHostFunctionOrMaybePanic host engine enableDiagnostics' instructionLimit
    ledgerInfo rentFeeConfiguration = u' at h ⊢
  rcases Unwinding.map_eq_map.1 h with ⟨x, x', rfl, rfl, hx⟩ | ⟨payload, rfl, rfl⟩
  · exact hx
  · rfl

/-- Pushes the failure marker itself when diagnostics are on. -/
def diagnosingEngine : Engine := fun _ enableDiagnostics _ =>
  .returned { contractErrorReturn with
    diagnosticEvents := if enableDiagnostics then [hostFnFailedEvent contractInternalError] else [] }

theorem invokeHostFunction_withoutDiagnostics_eq_diagnosingEngine :
    (∀ budget info,
      (diagnosingEngine budget true info).map EngineReturn.withoutDiagnostics =
        (diagnosingEngine budget false info).map EngineReturn.withoutDiagnostics) ∧
      (invokeHostFunction sampleHost diagnosingEngine true 0 sampleLedgerInfo ()).map
          InvokeHostFunctionOutput.withoutDiagnostics =
        (invokeHostFunction sampleHost diagnosingEngine false 0 sampleLedgerInfo ()).map
          InvokeHostFunctionOutput.withoutDiagnostics := by
  have hengine : ∀ budget info,
      (diagnosingEngine budget true info).map EngineReturn.withoutDiagnostics =
        (diagnosingEngine budget false info).map EngineReturn.withoutDiagnostics :=
    fun _ _ => rfl
  exact ⟨hengine, invokeHostFunction_withoutDiagnostics_eq sampleHost diagnosingEngine true 0
    sampleLedgerInfo () false hengine⟩

end Orchestrator

end SorobanBridge
