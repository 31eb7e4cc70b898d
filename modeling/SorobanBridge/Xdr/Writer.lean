import Mathlib

set_option autoImplicit false

/-! # The depth- and length-limited XDR writer

The XDR crate's `Limited` writer is not part of the repository; it is modelled from the spec as
an `XdrTree`: each `write_xdr` runs its body under `with_limited_depth` (`XdrTree.nest`), bytes
are charged by `consume_len` (`XdrTree.bytes`), and an over-long length prefix fails
(`XdrTree.fail`). `XdrTree.write_eq_ok_iff` characterises the writer once. -/

namespace SorobanBridge

inductive XdrError where
  | depthLimitExceeded
  | lengthLimitExceeded
  | lengthExceedsMax
  deriving DecidableEq, Repr

/-- Modelled from the spec: the sequence of `Limited` writer calls one `write_xdr` performs. -/
inductive XdrTree where
  /-- `consume_len(data.len())` followed by `write_all(data)`. -/
  | bytes (data : List UInt8)
  /-- A body run under `with_limited_depth`. -/
  | nest (body : XdrTree)
  /-- Two writes, one after the other. -/
  | seq (first rest : XdrTree)
  /-- Writing nothing (`()` in a void union arm). -/
  | empty
  /-- An error raised before anything is written. -/
  | fail (e : XdrError)
  deriving Repr

namespace XdrTree

def encode : XdrTree → List UInt8
  | bytes data => data
  | nest body => body.encode
  | seq first rest => first.encode ++ rest.encode
  | empty => []
  | fail _ => []

def height : XdrTree → Nat
  | bytes _ => 0
  | nest body => body.height + 1
  | seq first rest => max first.height rest.height
  | empty => 0
  | fail _ => 0

/-- No write of the tree fails on its own, whatever the limits. -/
def wellFormed : XdrTree → Bool
  | nest body => body.wellFormed
  | seq first rest => first.wellFormed && rest.wellFormed
  | fail _ => false
  | _ => true

/-- The `Limited` writer with `depth` levels and `len` bytes left. -/
def write : XdrTree → Nat → Nat → Except XdrError (List UInt8 × Nat)
  | bytes data, _, len =>
    if data.length ≤ len then .ok (data, len - data.length) else .error .lengthLimitExceeded
  | nest _, 0, _ => .error .depthLimitExceeded
  | nest body, depth + 1, len => body.write depth len
  | seq first rest, depth, len =>
    match first.write depth len with
    | .error e => .error e
    | .ok (x, len') =>
      match rest.write depth len' with
      | .error e => .error e
      | .ok (y, len'') => .ok (x ++ y, len'')
  | empty, _, len => .ok ([], len)
  | fail e, _, _ => .error e

@[simp] theorem encode_bytes (data : List UInt8) : (bytes data).encode = data := rfl
@[simp] theorem encode_empty : empty.encode = [] := rfl
@[simp] theorem height_bytes (data : List UInt8) : (bytes data).height = 0 := rfl
@[simp] theorem height_empty : empty.height = 0 := rfl
@[simp] theorem wellFormed_bytes (data : List UInt8) : (bytes data).wellFormed = true := rfl
@[simp] theorem wellFormed_empty : empty.wellFormed = true := rfl
@[simp] theorem encode_seq (a b : XdrTree) : (seq a b).encode = a.encode ++ b.encode := rfl
@[simp] theorem encode_nest (a : XdrTree) : (nest a).encode = a.encode := rfl
@[simp] theorem height_seq (a b : XdrTree) : (seq a b).height = max a.height b.height := rfl
@[simp] theorem height_nest (a : XdrTree) : (nest a).height = a.height + 1 := rfl
@[simp] theorem wellFormed_seq (a b : XdrTree) :
    (seq a b).wellFormed = (a.wellFormed && b.wellFormed) := rfl
@[simp] theorem wellFormed_nest (a : XdrTree) : (nest a).wellFormed = a.wellFormed := rfl

theorem write_eq_ok_of_fits (t : XdrTree) (depth len : Nat) (hw : t.wellFormed)
    (hd : t.height ≤ depth) (hl : t.encode.length ≤ len) :
    t.write depth len = .ok (t.encode, len - t.encode.length) := by
  induction t generalizing depth len with
  | bytes data => simp only [encode] at hl; simp [write, encode, hl]
  | nest body ih =>
    obtain ⟨depth, rfl⟩ : ∃ d, depth = d + 1 := ⟨depth - 1, by simp at hd; omega⟩
    exact ih depth len hw (by simpa using hd) hl
  | seq a b iha ihb =>
    simp only [wellFormed_seq, Bool.and_eq_true, height_seq, Nat.max_le, encode_seq,
      List.length_append] at hw hd hl
    simp only [write, iha depth len hw.1 hd.1 (by omega),
      ihb depth (len - a.encode.length) hw.2 hd.2 (by omega), encode_seq, List.length_append,
      Nat.sub_sub]
  | empty => rfl
  | fail e => simp [wellFormed] at hw

theorem fits_of_write_eq_ok (t : XdrTree) (depth len : Nat) (r : List UInt8 × Nat)
    (h : t.write depth len = .ok r) :
    t.wellFormed ∧ t.height ≤ depth ∧ t.encode.length ≤ len := by
  induction t generalizing depth len r with
  | bytes data =>
    simp only [write] at h
    split at h
    · exact ⟨rfl, Nat.zero_le _, ‹_›⟩
    · cases h
  | nest body ih =>
    cases depth with
    | zero => cases h
    | succ depth =>
      obtain ⟨hw, hd, hl⟩ := ih depth len r h
      exact ⟨hw, by simpa using hd, hl⟩
  | seq a b iha ihb =>
    simp only [write] at h
    split at h
    · cases h
    · rename_i x len' hx
      split at h
      · cases h
      · rename_i y len'' hy
        obtain ⟨hwa, hda, hla⟩ := iha depth len _ hx
        obtain ⟨hwb, hdb, hlb⟩ := ihb depth len' _ hy
        have hlen' : len' = len - a.encode.length := by
          rw [write_eq_ok_of_fits a depth len hwa hda hla] at hx
          cases hx; rfl
        simp only [wellFormed_seq, hwa, hwb, height_seq, encode_seq, List.length_append]
        exact ⟨rfl, max_le hda hdb, by omega⟩
  | empty => exact ⟨rfl, Nat.zero_le _, Nat.zero_le _⟩
  | fail e => cases h

/-- **The writer's specification.** -/
theorem write_eq_ok_iff (t : XdrTree) (depth len : Nat) (r : List UInt8 × Nat) :
    t.write depth len = .ok r ↔
      t.wellFormed ∧ t.height ≤ depth ∧ t.encode.length ≤ len ∧
        r = (t.encode, len - t.encode.length) := by
  constructor
  · intro h
    obtain ⟨hw, hd, hl⟩ := fits_of_write_eq_ok t depth len r h
    rw [write_eq_ok_of_fits t depth len hw hd hl] at h
    exact ⟨hw, hd, hl, (Except.ok.inj h).symm⟩
  · rintro ⟨hw, hd, hl, rfl⟩
    exact write_eq_ok_of_fits t depth len hw hd hl

end XdrTree

/-! ## The layouts of the XDR primitives -/

def u32BeBytes (n : UInt32) : List UInt8 :=
  [(n >>> 24).toUInt8, (n >>> 16).toUInt8, (n >>> 8).toUInt8, n.toUInt8]

def u64BeBytes (n : UInt64) : List UInt8 :=
  [(n >>> 56).toUInt8, (n >>> 48).toUInt8, (n >>> 40).toUInt8, (n >>> 32).toUInt8,
    (n >>> 24).toUInt8, (n >>> 16).toUInt8, (n >>> 8).toUInt8, n.toUInt8]

@[simp] theorem length_u32BeBytes (n : UInt32) : (u32BeBytes n).length = 4 := rfl
@[simp] theorem length_u64BeBytes (n : UInt64) : (u64BeBytes n).length = 8 := rfl

/-- `u32::write_xdr` (and `i32::write_xdr` on the bit pattern). -/
def xdrU32 (n : UInt32) : XdrTree := .nest (.bytes (u32BeBytes n))

def xdrU64 (n : UInt64) : XdrTree := .nest (.bytes (u64BeBytes n))

/-- `bool::write_xdr`: the value as a `u32`. -/
def xdrBool (b : Bool) : XdrTree := .nest (xdrU32 (if b then 1 else 0))

/-- An enum's `write_xdr`: its discriminant as an `i32`. -/
def xdrEnum (discriminant : UInt32) : XdrTree := .nest (xdrU32 discriminant)

/-- The zero bytes that pad `n` bytes to a multiple of four. -/
def xdrPadding (n : Nat) : List UInt8 := List.replicate ((4 - n % 4) % 4) 0

/-- The `u32` length prefix: `LengthExceedsMax` past `u32::MAX`. -/
def xdrLength (n : Nat) : XdrTree :=
  if n < 2 ^ 32 then xdrU32 (UInt32.ofNat n) else .fail .lengthExceedsMax

/-- `[u8; N]::write_xdr`: the bytes and their padding. -/
def xdrOpaqueFixed (data : List UInt8) : XdrTree :=
  .nest (.seq (.bytes data) (.bytes (xdrPadding data.length)))

/-- `BytesM::write_xdr` and `StringM::write_xdr`: length prefix, bytes, padding. -/
def xdrOpaqueVar (data : List UInt8) : XdrTree :=
  .nest (.seq (xdrLength data.length) (.seq (.bytes data) (.bytes (xdrPadding data.length))))

def xdrFields : List XdrTree → XdrTree
  | [] => .empty
  | t :: ts => .seq t (xdrFields ts)

/-- A struct's `write_xdr`: its fields under one depth level. -/
def xdrStruct (fields : List XdrTree) : XdrTree := .nest (xdrFields fields)

/-- A union's `write_xdr`: its discriminant (an enum, or a plain `i32`), then its arm. -/
def xdrUnion (discriminant arm : XdrTree) : XdrTree := .nest (.seq discriminant arm)

/-- `Option<T>::write_xdr`: a presence flag, then the value. -/
def xdrOption : Option XdrTree → XdrTree
  | none => .nest (xdrBool false)
  | some t => .nest (.seq (xdrBool true) t)

/-- `VecM<T>::write_xdr` given its length and its elements written in order. -/
def xdrVec (n : Nat) (elems : XdrTree) : XdrTree := .nest (.seq (xdrLength n) elems)

end SorobanBridge
