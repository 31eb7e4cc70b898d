import SorobanBridge.Xdr.Types

set_option autoImplicit false

/-! # Host values and the non-metered marshalling helpers

The error values that cross the bridge, the parts of a `Budget` it reads, panics, and the
helpers `non_metered_xdr_to_vec`, `non_metered_xdr_to_rust_buf` and `non_metered_xdr_from_cxx_buf`.
`nonMeteredXdrToVec_eq` is the one fact the rest uses about the writer: encoding succeeds
exactly when the value is `Encodable`. -/

namespace SorobanBridge

/-! ## Errors -/

/-- The environment's `Error`: the error type (`minor`) and the code (`major`). -/
structure Error where
  type_ : UInt32
  code : UInt32
  deriving DecidableEq, Repr

def Error.ofTypeAndCode (t : ScErrorType) (c : ScErrorCode) : Error := ⟨t.toU32, c.toU32⟩

def Error.isType (e : Error) (t : ScErrorType) : Bool := e.type_ == t.toU32

/-- `Error::is_code`: compares the code half only, whatever the type. -/
def Error.isCode (e : Error) (c : ScErrorCode) : Bool := e.code == c.toU32

/-- `ScError::try_from(Error)`. -/
def Error.toScError? (e : Error) : Option ScError :=
  match ScErrorType.ofU32? e.type_ with
  | none => none
  | some .contract => some (.contract e.code)
  | some .wasmVm => (ScErrorCode.ofU32? e.code).map .wasmVm
  | some .context => (ScErrorCode.ofU32? e.code).map .context
  | some .storage => (ScErrorCode.ofU32? e.code).map .storage
  | some .object => (ScErrorCode.ofU32? e.code).map .object
  | some .crypto => (ScErrorCode.ofU32? e.code).map .crypto
  | some .events => (ScErrorCode.ofU32? e.code).map .events
  | some .budget => (ScErrorCode.ofU32? e.code).map .budget
  | some .value => (ScErrorCode.ofU32? e.code).map .value
  | some .auth => (ScErrorCode.ofU32? e.code).map .auth

/-- `HostError`; its debug information is not modelled. -/
structure HostError where
  error : Error
  deriving DecidableEq, Repr

def HostError.ofTypeAndCode (t : ScErrorType) (c : ScErrorCode) : HostError :=
  ⟨Error.ofTypeAndCode t c⟩

inductive CoreHostError where
  | host (e : HostError)
  | general (msg : String)
  deriving DecidableEq, Repr

/-- `Box<dyn Error>` as the entry points build it. -/
inductive BoxError where
  | host (e : HostError)
  | core (e : CoreHostError)
  | tryFromInt
  deriving DecidableEq, Repr

/-- The parts of a `Budget` the bridge reads, `VmInstantiation`'s charges included. -/
structure Budget where
  cpuInsnsConsumed : UInt64
  memBytesConsumed : UInt64
  vmInstantiationCpu : UInt64
  vmInstantiationTime : UInt64

/-! ## Marshalling -/

structure RustBuf where
  data : List UInt8
  deriving DecidableEq, Repr

def marshallingStackLimit : Nat := 1000

/-- The length limit `non_metered_xdr_to_vec` writes under: 5 MB. -/
def xdrOutputLimit : Nat := 5 * 1024 * 1024

/-- A value whose encoding the limited writer of `non_metered_xdr_to_vec` accepts. -/
def Encodable (t : XdrTree) : Prop :=
  t.wellFormed ∧ t.height ≤ marshallingStackLimit ∧ t.encode.length ≤ xdrOutputLimit

instance (t : XdrTree) : Decidable (Encodable t) := inferInstanceAs (Decidable (_ ∧ _))

/-- `non_metered_xdr_to_vec`, its `T: WriteXdr` argument given as its XDR tree. -/
def nonMeteredXdrToVec (t : XdrTree) : Except HostError (List UInt8) :=
  match t.write marshallingStackLimit xdrOutputLimit with
  | .ok (v, _) => .ok v
  | .error _ => .error (HostError.ofTypeAndCode .value .invalidInput)

def nonMeteredXdrToRustBuf (t : XdrTree) : Except HostError RustBuf :=
  match nonMeteredXdrToVec t with
  | .ok v => .ok ⟨v⟩
  | .error e => .error e

/-! ## Panics -/

/-- A panic payload as `catch_unwind` sees it: a `String`, a `&'static str`, or anything else. -/
inductive PanicPayload where
  | string (s : String)
  | staticStr (s : String)
  | other
  deriving DecidableEq, Repr

inductive Unwinding (α : Type) where
  | returned (a : α)
  | panicked (payload : PanicPayload)

def Unwinding.map {α β : Type} (f : α → β) : Unwinding α → Unwinding β
  | .returned a => .returned (f a)
  | .panicked payload => .panicked payload

/-- `?` on a call that may also panic: a panic unwinds, an error returns early. -/
def Unwinding.bindOk {ε α β : Type} (x : Unwinding (Except ε α))
    (f : α → Unwinding (Except ε β)) : Unwinding (Except ε β) :=
  match x with
  | .returned (.ok a) => f a
  | .returned (.error e) => .returned (.error e)
  | .panicked payload => .panicked payload

/-- `T::read_xdr` under `Limits { depth, len }`. -/
def ReadXdr (T : Type) : Type := Nat → Nat → List UInt8 → Unwinding (Except XdrError T)

/-- `non_metered_xdr_from_cxx_buf`: a reader error becomes `(Value, InternalError)`. -/
def nonMeteredXdrFromCxxBuf {T : Type} (read : ReadXdr T) (buf : List UInt8) :
    Unwinding (Except HostError T) :=
  (read marshallingStackLimit buf.length buf).map fun
    | .ok t => .ok t
    | .error _ => .error (HostError.ofTypeAndCode .value .internalError)

/-- **Marshalling specification.** -/
theorem nonMeteredXdrToVec_eq (t : XdrTree) :
    nonMeteredXdrToVec t =
      if Encodable t then .ok t.encode
      else .error (HostError.ofTypeAndCode .value .invalidInput) := by
  unfold nonMeteredXdrToVec
  split
  · rename_i v len h
    obtain ⟨hw, hd, hl, hr⟩ := (XdrTree.write_eq_ok_iff t _ _ _).1 h
    cases hr
    simp [Encodable, hw, hd, hl]
  · rename_i e h
    rw [if_neg]
    rintro ⟨hw, hd, hl⟩
    rw [XdrTree.write_eq_ok_of_fits t _ _ hw hd hl] at h
    cases h

theorem nonMeteredXdrToRustBuf_eq (t : XdrTree) :
    nonMeteredXdrToRustBuf t =
      if Encodable t then .ok ⟨t.encode⟩
      else .error (HostError.ofTypeAndCode .value .invalidInput) := by
  unfold nonMeteredXdrToRustBuf
  rw [nonMeteredXdrToVec_eq]
  by_cases h : Encodable t <;> simp [h]

theorem nonMeteredXdrFromCxxBuf_eq_ok {T : Type} (read : ReadXdr T) (buf : List UInt8) (t : T) :
    nonMeteredXdrFromCxxBuf read buf = .returned (.ok t) ↔
      read marshallingStackLimit buf.length buf = .returned (.ok t) := by
  unfold nonMeteredXdrFromCxxBuf
  rcases read marshallingStackLimit buf.length buf with ⟨_ | _⟩ | _ <;> simp [Unwinding.map]

theorem nonMeteredXdrFromCxxBuf_eq_error {T : Type} (read : ReadXdr T) (buf : List UInt8)
    (e : HostError) :
    nonMeteredXdrFromCxxBuf read buf = .returned (.error e) ↔
      (∃ xe, read marshallingStackLimit buf.length buf = .returned (.error xe)) ∧
        e = HostError.ofTypeAndCode .value .internalError := by
  unfold nonMeteredXdrFromCxxBuf
  rcases read marshallingStackLimit buf.length buf with ⟨_ | _⟩ | _ <;> simp [Unwinding.map, eq_comm]

/-! ## The `?` operator under panics -/

theorem Unwinding.bindOk_eq_ok {ε α β : Type} {x : Unwinding (Except ε α)}
    {f : α → Unwinding (Except ε β)} {b : β} :
    x.bindOk f = .returned (.ok b) ↔ ∃ a, x = .returned (.ok a) ∧ f a = .returned (.ok b) := by
  rcases x with ⟨_ | _⟩ | _ <;> simp [bindOk]

theorem Unwinding.bindOk_eq_error {ε α β : Type} {x : Unwinding (Except ε α)}
    {f : α → Unwinding (Except ε β)} {e : ε} :
    x.bindOk f = .returned (.error e) ↔
      x = .returned (.error e) ∨ ∃ a, x = .returned (.ok a) ∧ f a = .returned (.error e) := by
  rcases x with ⟨_ | _⟩ | _ <;> simp [bindOk]

theorem Unwinding.map_eq_map {α β : Type} {f : α → β} {u v : Unwinding α} :
    u.map f = v.map f ↔
      (∃ a b, u = .returned a ∧ v = .returned b ∧ f a = f b) ∨
        ∃ payload, u = .panicked payload ∧ v = .panicked payload := by
  cases u <;> cases v <;> simp [Unwinding.map, eq_comm]

end SorobanBridge
