import SorobanBridge.Xdr.Writer

set_option autoImplicit false

/-! # The XDR values the bridge builds and encodes

The part of the XDR schema the bridge touches, each type with its layout as an `XdrTree`
(`toXdr`). Bounded containers are one structure, `VecM`, carrying its bound, so that an
over-long value cannot be built. -/

namespace SorobanBridge

/-! ## Bounded containers -/

/-- `VecM<T, MAX>`; `BytesM<MAX>` and `StringM<MAX>` are `VecM UInt8 MAX`. -/
structure VecM (α : Type) (max : Nat) where
  items : List α
  length_le : items.length ≤ max

def u32Max : Nat := 4294967295

/-- `Vec<T>::try_into::<VecM<T, MAX>>()`: fails on a list longer than `max`. -/
def VecM.tryFrom {α : Type} {max : Nat} (items : List α) : Option (VecM α max) :=
  if h : items.length ≤ max then some ⟨items, h⟩ else none

/-- `VecM::default()`, the empty container `unwrap_or_default` falls back to. -/
def VecM.empty {α : Type} {max : Nat} : VecM α max := ⟨[], Nat.zero_le _⟩

theorem VecM.tryFrom_of_le {α : Type} {max : Nat} (items : List α) (h : items.length ≤ max) :
    (VecM.tryFrom items : Option (VecM α max)) = some ⟨items, h⟩ := by
  simp [VecM.tryFrom, h]

/-- `&str::try_into::<StringM<MAX>>()`: the string's UTF-8 bytes, if they fit. -/
def StringM.tryFrom {max : Nat} (s : String) : Option (VecM UInt8 max) :=
  VecM.tryFrom s.toUTF8.data.toList

/-- `Hash` (and the `[u8; 32]` it wraps): exactly 32 bytes. -/
structure Hash where
  bytes : List UInt8
  length_eq : bytes.length = 32
  deriving DecidableEq

/-- `Vec<u8>::try_into::<[u8; 32]>()`: fails unless the vector has 32 bytes. -/
def Hash.tryFrom (v : List UInt8) : Option Hash :=
  if h : v.length = 32 then some ⟨v, h⟩ else none

@[simp] theorem Hash.tryFrom_eq_none_iff (v : List UInt8) :
    Hash.tryFrom v = none ↔ v.length ≠ 32 := by
  unfold Hash.tryFrom; split <;> simp_all

theorem Hash.tryFrom_of_length (v : List UInt8) (h : v.length = 32) :
    Hash.tryFrom v = some ⟨v, h⟩ := by
  simp [Hash.tryFrom, h]

/-- `Hash::write_xdr`: the newtype around the fixed 32-byte opaque. -/
def Hash.toXdr (h : Hash) : XdrTree := .nest (xdrOpaqueFixed h.bytes)

/-! ## Errors -/

inductive ScErrorType where
  | contract | wasmVm | context | storage | object | crypto | events | budget | value | auth
  deriving DecidableEq, Repr

inductive ScErrorCode where
  | arithDomain | indexBounds | invalidInput | missingValue | existingValue | exceededLimit
  | invalidAction | internalError | unexpectedType | unexpectedSize
  deriving DecidableEq, Repr

def ScErrorType.toU32 : ScErrorType → UInt32
  | contract => 0 | wasmVm => 1 | context => 2 | storage => 3 | object => 4
  | crypto => 5 | events => 6 | budget => 7 | value => 8 | auth => 9

/-- `ScErrorType::try_from(i32)`: the type with this discriminant, if any. -/
def ScErrorType.ofU32? : UInt32 → Option ScErrorType
  | 0 => some contract | 1 => some wasmVm | 2 => some context | 3 => some storage
  | 4 => some object | 5 => some crypto | 6 => some events | 7 => some budget
  | 8 => some value | 9 => some auth | _ => none

def ScErrorCode.toU32 : ScErrorCode → UInt32
  | arithDomain => 0 | indexBounds => 1 | invalidInput => 2 | missingValue => 3
  | existingValue => 4 | exceededLimit => 5 | invalidAction => 6 | internalError => 7
  | unexpectedType => 8 | unexpectedSize => 9

/-- `ScErrorCode::try_from(i32)`: the code with this discriminant, if any. -/
def ScErrorCode.ofU32? : UInt32 → Option ScErrorCode
  | 0 => some arithDomain | 1 => some indexBounds | 2 => some invalidInput
  | 3 => some missingValue | 4 => some existingValue | 5 => some exceededLimit
  | 6 => some invalidAction | 7 => some internalError | 8 => some unexpectedType
  | 9 => some unexpectedSize | _ => none

/-- A contract's own `u32` code, or a host error code of one of the other types. -/
inductive ScError where
  | contract (code : UInt32)
  | wasmVm (code : ScErrorCode)
  | context (code : ScErrorCode)
  | storage (code : ScErrorCode)
  | object (code : ScErrorCode)
  | crypto (code : ScErrorCode)
  | events (code : ScErrorCode)
  | budget (code : ScErrorCode)
  | value (code : ScErrorCode)
  | auth (code : ScErrorCode)
  deriving DecidableEq, Repr

/-- `ScError::write_xdr`. -/
def ScError.toXdr : ScError → XdrTree
  | .contract n => xdrUnion (xdrEnum 0) (xdrU32 n)
  | .wasmVm c => xdrUnion (xdrEnum 1) (xdrEnum c.toU32)
  | .context c => xdrUnion (xdrEnum 2) (xdrEnum c.toU32)
  | .storage c => xdrUnion (xdrEnum 3) (xdrEnum c.toU32)
  | .object c => xdrUnion (xdrEnum 4) (xdrEnum c.toU32)
  | .crypto c => xdrUnion (xdrEnum 5) (xdrEnum c.toU32)
  | .events c => xdrUnion (xdrEnum 6) (xdrEnum c.toU32)
  | .budget c => xdrUnion (xdrEnum 7) (xdrEnum c.toU32)
  | .value c => xdrUnion (xdrEnum 8) (xdrEnum c.toU32)
  | .auth c => xdrUnion (xdrEnum 9) (xdrEnum c.toU32)

@[simp] theorem ScError.toXdr_wellFormed (e : ScError) : e.toXdr.wellFormed = true := by
  cases e <;> rfl

@[simp] theorem ScError.toXdr_height (e : ScError) : e.toXdr.height = 3 := by
  cases e <;> rfl

@[simp] theorem ScError.toXdr_encode_length (e : ScError) : e.toXdr.encode.length = 8 := by
  cases e <;> rfl

/-! ## Contract values -/

abbrev ScSymbol := VecM UInt8 32

/-- The discriminants of the `ScVal` arms the bridge never builds: `Timepoint`, `Duration`, the
    128- and 256-bit integers, `Map`, `Address`, `ContractInstance`, `LedgerKeyContractInstance`
    and `LedgerKeyNonce`. -/
def otherScValArms : List UInt32 := [7, 8, 9, 10, 11, 12, 17, 18, 19, 20, 21]

/-- `ScVal`. `i32` and `i64` are held as their bit patterns; an arm the bridge never builds is
    `other`, its discriminant with the XDR layout of its payload. -/
inductive ScVal where
  | bool (b : Bool)
  | void
  | error (e : ScError)
  | u32 (n : UInt32)
  | i32 (n : UInt32)
  | u64 (n : UInt64)
  | i64 (n : UInt64)
  | bytes (b : VecM UInt8 u32Max)
  | string (s : VecM UInt8 u32Max)
  | symbol (s : ScSymbol)
  | vec (v : Option (List ScVal))
  | other (discriminant : UInt32) (isOther : discriminant ∈ otherScValArms) (payload : XdrTree)

mutual
/-- `ScBytes`, `ScString`, `ScSymbol` and `ScVec` are newtypes, each one more depth level. -/
def ScVal.toXdr : ScVal → XdrTree
  | .bool b => xdrUnion (xdrEnum 0) (xdrBool b)
  | .void => xdrUnion (xdrEnum 1) .empty
  | .error e => xdrUnion (xdrEnum 2) e.toXdr
  | .u32 n => xdrUnion (xdrEnum 3) (xdrU32 n)
  | .i32 n => xdrUnion (xdrEnum 4) (xdrU32 n)
  | .u64 n => xdrUnion (xdrEnum 5) (xdrU64 n)
  | .i64 n => xdrUnion (xdrEnum 6) (xdrU64 n)
  | .bytes b => xdrUnion (xdrEnum 13) (.nest (xdrOpaqueVar b.items))
  | .string s => xdrUnion (xdrEnum 14) (.nest (xdrOpaqueVar s.items))
  | .symbol s => xdrUnion (xdrEnum 15) (.nest (xdrOpaqueVar s.items))
  | .vec none => xdrUnion (xdrEnum 16) (xdrOption none)
  | .vec (some vs) =>
    xdrUnion (xdrEnum 16) (xdrOption (some (.nest (xdrVec vs.length (ScVal.listToXdr vs)))))
  | .other discriminant _ payload => xdrUnion (xdrEnum discriminant) payload

def ScVal.listToXdr : List ScVal → XdrTree
  | [] => .empty
  | v :: vs => .seq v.toXdr (ScVal.listToXdr vs)
end

/-! ## Diagnostic events -/

/-- `ExtensionPoint`: only its void arm exists. -/
inductive ExtensionPoint where
  | v0
  deriving DecidableEq, Repr

inductive ContractEventType where
  | system | contract | diagnostic
  deriving DecidableEq, Repr

def ContractEventType.toU32 : ContractEventType → UInt32
  | system => 0 | contract => 1 | diagnostic => 2

structure ContractEventV0 where
  topics : VecM ScVal u32Max
  data : ScVal

/-- `ContractEventBody`: only its `V0` arm exists. -/
inductive ContractEventBody where
  | v0 (body : ContractEventV0)

structure ContractEvent where
  ext : ExtensionPoint
  contractId : Option Hash
  type_ : ContractEventType
  body : ContractEventBody

structure DiagnosticEvent where
  inSuccessfulContractCall : Bool
  event : ContractEvent

def ContractEventV0.toXdr (e : ContractEventV0) : XdrTree :=
  xdrStruct [xdrVec e.topics.items.length (ScVal.listToXdr e.topics.items), e.data.toXdr]

def ContractEventBody.toXdr : ContractEventBody → XdrTree
  | .v0 body => xdrUnion (xdrU32 0) body.toXdr

def ContractEvent.toXdr (e : ContractEvent) : XdrTree :=
  xdrStruct [xdrUnion (xdrU32 0) .empty, xdrOption (e.contractId.map Hash.toXdr),
    xdrEnum e.type_.toU32, e.body.toXdr]

def DiagnosticEvent.toXdr (e : DiagnosticEvent) : XdrTree :=
  xdrStruct [xdrBool e.inSuccessfulContractCall, e.event.toXdr]

/-! ## Ledger entries -/

structure TtlEntry where
  keyHash : Hash
  liveUntilLedgerSeq : UInt32

/-- `LedgerEntryData`, restricted to the `Ttl` arm, the only one the bridge builds. -/
inductive LedgerEntryData where
  | ttl (entry : TtlEntry)

/-- `LedgerEntryExt`, restricted to its void `V0` arm. -/
inductive LedgerEntryExt where
  | v0
  deriving DecidableEq, Repr

structure LedgerEntry where
  lastModifiedLedgerSeq : UInt32
  data : LedgerEntryData
  ext : LedgerEntryExt

def TtlEntry.toXdr (e : TtlEntry) : XdrTree :=
  xdrStruct [e.keyHash.toXdr, xdrU32 e.liveUntilLedgerSeq]

/-- `LedgerEntryData::write_xdr`: `LedgerEntryType::Ttl` is discriminant 9. -/
def LedgerEntryData.toXdr : LedgerEntryData → XdrTree
  | .ttl entry => xdrUnion (xdrEnum 9) entry.toXdr

def LedgerEntryExt.toXdr : LedgerEntryExt → XdrTree
  | .v0 => xdrUnion (xdrU32 0) .empty

def LedgerEntry.toXdr (e : LedgerEntry) : XdrTree :=
  xdrStruct [xdrU32 e.lastModifiedLedgerSeq, e.data.toXdr, e.ext.toXdr]

end SorobanBridge
