import SorobanBridge.Marshal

set_option autoImplicit false

/-! # Ledger effects and diagnostic events

The loop of `extract_ledger_effects` is a `foldlM` of `extractLedgerEffectsStep`;
`extractLedgerEffectsStep_eq` says what one iteration does and `extractLedgerEffects_eq` lifts
it to the whole list, against each change's contributions `valueEffect` and `ttlEffect`. -/

namespace SorobanBridge

/-! ## The engine's changes -/

/-- Restricted, like `LedgerEntryChange`, to the fields the bridge reads. -/
structure LedgerEntryLiveUntilChange where
  keyHash : List UInt8
  oldLiveUntilLedger : UInt32
  newLiveUntilLedger : UInt32

structure LedgerEntryChange where
  readOnly : Bool
  encodedNewValue : Option (List UInt8)
  ttlChange : Option LedgerEntryLiveUntilChange

/-! ## The source functions -/

/-- `encode_diagnostic_events`: the events whose encoding succeeds, encoded, in order. -/
def encodeDiagnosticEvents (events : List DiagnosticEvent) : List RustBuf :=
  events.filterMap fun e =>
    match nonMeteredXdrToRustBuf e.toXdr with
    | .ok encoded => some encoded
    | .error _ => none

/-- The `LedgerEntry` that `extract_ledger_effects` builds for an extended TTL. -/
def ttlLedgerEntry (keyHash : Hash) (liveUntilLedgerSeq : UInt32) : LedgerEntry :=
  { lastModifiedLedgerSeq := 0, data := .ttl ⟨keyHash, liveUntilLedgerSeq⟩, ext := .v0 }

def extractLedgerEffectsStep (modifiedEntries : List RustBuf) (change : LedgerEntryChange) :
    Except HostError (List RustBuf) :=
  let modifiedEntries :=
    if !change.readOnly then
      match change.encodedNewValue with
      | some encodedNewValue => modifiedEntries ++ [⟨encodedNewValue⟩]
      | none => modifiedEntries
    else modifiedEntries
  match change.ttlChange with
  | some ttlChange =>
    if ttlChange.newLiveUntilLedger > ttlChange.oldLiveUntilLedger then
      match Hash.tryFrom ttlChange.keyHash with
      | none => .error (HostError.ofTypeAndCode .value .internalError)
      | some hashBytes =>
        match nonMeteredXdrToRustBuf
            (ttlLedgerEntry hashBytes ttlChange.newLiveUntilLedger).toXdr with
        | .error _ => .error (HostError.ofTypeAndCode .value .internalError)
        | .ok encoded => .ok (modifiedEntries ++ [encoded])
    else .ok modifiedEntries
  | none => .ok modifiedEntries

def extractLedgerEffects (entryChanges : List LedgerEntryChange) :
    Except HostError (List RustBuf) :=
  entryChanges.foldlM extractLedgerEffectsStep []

/-! ## What each change contributes -/

/-- The new value of a change, unless it is read-only or deleted. -/
def LedgerEntryChange.valueEffect (c : LedgerEntryChange) : List RustBuf :=
  if c.readOnly then [] else c.encodedNewValue.toList.map RustBuf.mk

/-- The encoded TTL record of a change whose TTL strictly grew under a 32-byte key hash:
    `LedgerEntry { last_modified_ledger_seq: 0, data: Ttl { key_hash, live_until_ledger_seq:
    new_live_until_ledger }, ext: V0 }`. -/
def LedgerEntryChange.ttlEffect (c : LedgerEntryChange) : List RustBuf :=
  match c.ttlChange with
  | some t =>
    if h : t.oldLiveUntilLedger < t.newLiveUntilLedger ∧ t.keyHash.length = 32 then
      [⟨LedgerEntry.toXdr
          { lastModifiedLedgerSeq := 0
            data := .ttl { keyHash := ⟨t.keyHash, h.2⟩, liveUntilLedgerSeq := t.newLiveUntilLedger }
            ext := .v0 } |>.encode⟩]
    else []
  | none => []

/-- A change whose TTL strictly grew but whose key hash is not 32 bytes long. -/
def LedgerEntryChange.malformedTtlKey (c : LedgerEntryChange) : Bool :=
  match c.ttlChange with
  | some t => decide (t.oldLiveUntilLedger < t.newLiveUntilLedger) && t.keyHash.length != 32
  | none => false

/-! ## Proofs -/

/-- `encode_diagnostic_events` keeps, in order, the encodings of exactly the events that encode. -/
theorem encodeDiagnosticEvents_eq (events : List DiagnosticEvent) :
    encodeDiagnosticEvents events =
      (events.filter fun e => decide (Encodable e.toXdr)).map fun e => ⟨e.toXdr.encode⟩ := by
  induction events with
  | nil => rfl
  | cons e rest ih =>
    by_cases he : Encodable e.toXdr <;>
      simp [encodeDiagnosticEvents, List.filterMap_cons, nonMeteredXdrToRustBuf_eq, he, ← ih]

/-- The synthesised TTL entry is 48 bytes, five levels deep: it always encodes. -/
theorem ttlLedgerEntry_encodable (keyHash : Hash) (liveUntilLedgerSeq : UInt32) :
    Encodable (ttlLedgerEntry keyHash liveUntilLedgerSeq).toXdr := by
  refine ⟨rfl, Nat.le_of_ble_eq_true rfl, ?_⟩
  simp [ttlLedgerEntry, LedgerEntry.toXdr, LedgerEntryData.toXdr, LedgerEntryExt.toXdr,
    TtlEntry.toXdr, Hash.toXdr, xdrStruct, xdrFields, xdrUnion, xdrEnum, xdrU32,
    xdrOpaqueFixed, xdrPadding, keyHash.length_eq, xdrOutputLimit]

/-- **One iteration.** A change appends its contributions, or fails exactly when its TTL grew
    under a malformed key. -/
theorem extractLedgerEffectsStep_eq (acc : List RustBuf) (c : LedgerEntryChange) :
    extractLedgerEffectsStep acc c =
      if c.malformedTtlKey then .error (HostError.ofTypeAndCode .value .internalError)
      else .ok (acc ++ c.valueEffect ++ c.ttlEffect) := by
  obtain ⟨readOnly, newValue, ttl⟩ := c
  have hvalue : (if !readOnly then
      (match newValue with | some v => acc ++ [⟨v⟩] | none => acc) else acc) =
      acc ++ LedgerEntryChange.valueEffect ⟨readOnly, newValue, ttl⟩ := by
    cases readOnly <;> cases newValue <;> simp [LedgerEntryChange.valueEffect]
  simp only [extractLedgerEffectsStep, hvalue]
  cases ttl with
  | none => simp [LedgerEntryChange.malformedTtlKey, LedgerEntryChange.ttlEffect]
  | some t =>
    simp only [LedgerEntryChange.malformedTtlKey, LedgerEntryChange.ttlEffect, gt_iff_lt]
    by_cases hlt : t.oldLiveUntilLedger < t.newLiveUntilLedger
    · by_cases hlen : t.keyHash.length = 32
      · simp [hlt, hlen, Hash.tryFrom_of_length _ hlen, nonMeteredXdrToRustBuf_eq,
          ttlLedgerEntry_encodable]
        rfl
      · simp [hlt, hlen, (Hash.tryFrom_eq_none_iff _).2 hlen]
    · simp [hlt]

theorem extractLedgerEffects_foldlM (changes : List LedgerEntryChange) (acc : List RustBuf) :
    changes.foldlM extractLedgerEffectsStep acc =
      if changes.any LedgerEntryChange.malformedTtlKey then
        .error (HostError.ofTypeAndCode .value .internalError)
      else .ok (acc ++ changes.flatMap fun c => c.valueEffect ++ c.ttlEffect) := by
  induction changes generalizing acc with
  | nil => simp [pure, Except.pure]
  | cons c rest ih =>
    rw [List.foldlM_cons, extractLedgerEffectsStep_eq]
    by_cases hc : c.malformedTtlKey
    · simp only [hc, ite_true, List.any_cons, Bool.true_or]
      rfl
    · simp only [hc, Bool.false_eq_true, ite_false, List.any_cons, Bool.false_or,
        List.flatMap_cons, bind, Except.bind, ih, List.append_assoc]

/-- **`extract_ledger_effects`.** -/
theorem extractLedgerEffects_eq (changes : List LedgerEntryChange) :
    extractLedgerEffects changes =
      if changes.any LedgerEntryChange.malformedTtlKey then
        .error (HostError.ofTypeAndCode .value .internalError)
      else .ok (changes.flatMap fun c => c.valueEffect ++ c.ttlEffect) :=
  extractLedgerEffects_foldlM changes []

end SorobanBridge
