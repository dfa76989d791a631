import Mathlib.Data.List.Basic
import Mathlib.Algebra.Group.Nat.Basic

/-!
# PeerChannelEncryptor.Bytes

Byte strings, the panics of the Rust code, and the helpers of `util::byte_utils`.

A Rust call either returns or panics, so every modelled function that can panic returns in
`Except Panic`. The panics this file can meet are an explicit `panic!`, a failed `assert!`, a
slice range outside its buffer, `copy_from_slice` between slices of different lengths, and the
overflow check of a debug build on `u64 += 1` and `usize - 16`.

`util::byte_utils` is not in the source tree: `le64ToArray`, `be16ToArray` and `sliceToBe16`
follow the spec's description of the nonce and of the length header.

* `withSliceMut_eq`: writing through `&mut buf[lo..hi]` on an in-range slice.
* `le64ToArray_injective`: distinct counters give distinct nonce bytes.
* `sliceToBe16_be16ToArray`: the length header decodes to the length it encodes.
-/

namespace Lightning
namespace PeerChannelEncryptor

/-- A byte string: `&[u8]`, `[u8; N]` or `Vec<u8>`. -/
abbrev Bytes := List UInt8

/-- Why a Rust call panicked. -/
inductive Panic where
  /-- `panic!` with this message. -/
  | explicit (msg : String)
  /-- A failed `assert!` or `assert_eq!`. -/
  | assertion
  /-- An index or a slice range outside its buffer. -/
  | outOfBounds
  /-- `copy_from_slice` between slices of different lengths. -/
  | copyLength
  /-- Overflow of `+` or `-` on a machine integer. -/
  | arithmeticOverflow
  deriving DecidableEq, Repr

/-- `assert!(c)`. -/
def assert (c : Prop) [Decidable c] : Except Panic Unit :=
  if c then .ok () else .error .assertion

/-- `buf[i]`. -/
def index (buf : Bytes) (i : Nat) : Except Panic UInt8 :=
  match buf[i]? with
  | some b => .ok b
  | none => .error .outOfBounds

/-- `&buf[lo..hi]`: panics unless `lo ≤ hi ≤ buf.len()`. -/
def slice (buf : Bytes) (lo hi : Nat) : Except Panic Bytes :=
  if lo ≤ hi ∧ hi ≤ buf.length then .ok ((buf.drop lo).take (hi - lo)) else .error .outOfBounds

/-- `&buf[lo..]`. -/
def sliceFrom (buf : Bytes) (lo : Nat) : Except Panic Bytes := slice buf lo buf.length

/-- `dst.copy_from_slice(src)`, returning what `dst` holds afterwards. -/
def copyFromSlice (dst src : Bytes) : Except Panic Bytes :=
  if dst.length = src.length then .ok src else .error .copyLength

/-- Run `f` on `&mut buf[lo..hi]` and write back what it leaves there. -/
def withSliceMut (buf : Bytes) (lo hi : Nat) (f : Bytes → Except Panic Bytes) :
    Except Panic Bytes := do
  let part ← f (← slice buf lo hi)
  pure (buf.take lo ++ part ++ buf.drop hi)

/-- `a - b` on `usize`. -/
def usizeSub (a b : Nat) : Except Panic Nat :=
  if b ≤ a then .ok (a - b) else .error .arithmeticOverflow

/-- `n += 1` on a `u64`. -/
def u64Incr (n : UInt64) : Except Panic UInt64 :=
  if n.toNat + 1 < UInt64.size then .ok (n + 1) else .error .arithmeticOverflow

/-! ## Buffer operations on in-range arguments -/

@[simp] theorem except_pure {ε α : Type} (a : α) : (pure a : Except ε α) = .ok a := rfl

@[simp] theorem except_ok_bind {ε α β : Type} (a : α) (f : α → Except ε β) :
    (Except.ok a >>= f) = f a := rfl

@[simp] theorem except_error_bind {ε α β : Type} (e : ε) (f : α → Except ε β) :
    (Except.error e >>= f) = .error e := rfl

theorem assert_ok {c : Prop} [Decidable c] (h : c) : assert c = .ok () := if_pos h

theorem index_ok {buf : Bytes} {i : Nat} (h : i < buf.length) : index buf i = .ok buf[i] := by
  simp [index, h]

theorem slice_ok {buf : Bytes} {lo hi : Nat} (h : lo ≤ hi) (h' : hi ≤ buf.length) :
    slice buf lo hi = .ok ((buf.drop lo).take (hi - lo)) := if_pos ⟨h, h'⟩

theorem sliceFrom_ok {buf : Bytes} {lo : Nat} (h : lo ≤ buf.length) :
    sliceFrom buf lo = .ok (buf.drop lo) := by
  rw [sliceFrom, slice_ok h le_rfl, List.take_of_length_le (by simp)]

theorem copyFromSlice_ok {dst src : Bytes} (h : dst.length = src.length) :
    copyFromSlice dst src = .ok src := if_pos h

@[simp] theorem except_map_ok {ε α β : Type} (f : α → β) (a : α) :
    (f <$> (Except.ok a : Except ε α)) = .ok (f a) := rfl

theorem withSliceMut_eq {buf : Bytes} {lo hi : Nat} {f : Bytes → Except Panic Bytes}
    (h : lo ≤ hi) (h' : hi ≤ buf.length) :
    withSliceMut buf lo hi f = (buf.take lo ++ · ++ buf.drop hi) <$> f ((buf.drop lo).take (hi - lo)) := by
  simp only [withSliceMut, slice_ok h h', except_ok_bind]
  cases f ((buf.drop lo).take (hi - lo)) <;> rfl

theorem withSliceMut_copy {buf src : Bytes} {lo hi : Nat} (h : lo ≤ hi) (h' : hi ≤ buf.length)
    (hl : src.length = hi - lo) :
    withSliceMut buf lo hi (copyFromSlice · src) = .ok (buf.take lo ++ src ++ buf.drop hi) := by
  rw [withSliceMut_eq h h', copyFromSlice_ok (by simp; omega)]
  rfl

theorem usizeSub_ok {a b : Nat} (h : b ≤ a) : usizeSub a b = .ok (a - b) := if_pos h

theorem u64Incr_ok {n : UInt64} (h : n.toNat + 1 < UInt64.size) : u64Incr n = .ok (n + 1) :=
  if_pos h

theorem u64_le_iff {a b : UInt64} : a ≤ b ↔ a.toNat ≤ b.toNat := Iff.rfl

theorem u64_toNat_add_one {n : UInt64} (h : n.toNat + 1 < UInt64.size) :
    (n + 1).toNat = n.toNat + 1 := by
  simp only [UInt64.toNat, UInt64.add_def, BitVec.toNat_add]
  simp only [UInt64.toNat, UInt64.size] at h
  simp; omega

/-! ## `util::byte_utils` -/

/-- The `k` low-order bytes of `n`, least significant first. -/
def leBytes : Nat → Nat → Bytes
  | 0, _ => []
  | k + 1, n => UInt8.ofNat n :: leBytes k (n / 256)

/-- The number a little-endian byte string denotes. -/
def leValue : Bytes → Nat
  | [] => 0
  | b :: bs => b.toNat + 256 * leValue bs

/-- Modelled from the spec: `byte_utils::le64_to_array`, "`n` encoded little-endian over 8
bytes". -/
def le64ToArray (n : UInt64) : Bytes := leBytes 8 n.toNat

/-- Modelled from the spec: `byte_utils::be16_to_array`, the big-endian 16-bit length. -/
def be16ToArray (n : UInt16) : Bytes := [UInt8.ofNat (n.toNat / 256), UInt8.ofNat n.toNat]

/-- Modelled from the spec: `byte_utils::slice_to_be16`, the length header read back "as a
16-bit unsigned integer". -/
def sliceToBe16 (v : Bytes) : UInt16 :=
  UInt16.ofNat ((v.getD 0 0).toNat * 256 + (v.getD 1 0).toNat)

@[simp] theorem leBytes_length (k n : Nat) : (leBytes k n).length = k := by
  induction k generalizing n <;> simp [leBytes, *]

@[simp] theorem le64ToArray_length (n : UInt64) : (le64ToArray n).length = 8 := leBytes_length _ _

@[simp] theorem be16ToArray_length (n : UInt16) : (be16ToArray n).length = 2 := rfl

theorem uint8_toNat_ofNat (x : Nat) : (UInt8.ofNat x).toNat = x % 256 := by
  simp [UInt8.toNat, UInt8.ofNat]

theorem leValue_leBytes (k n : Nat) : leValue (leBytes k n) = n % 256 ^ k := by
  induction k generalizing n with
  | zero => rw [leBytes, leValue, Nat.pow_zero, Nat.mod_one]
  | succ k ih => rw [leBytes, leValue, ih, uint8_toNat_ofNat, Nat.pow_succ', Nat.mod_mul]

theorem le64ToArray_injective {a b : UInt64} (h : le64ToArray a = le64ToArray b) : a = b := by
  have h' := congrArg leValue h
  simp only [le64ToArray, leValue_leBytes] at h'
  have ha : a.toNat < 256 ^ 8 := a.toNat_lt_size
  have hb : b.toNat < 256 ^ 8 := b.toNat_lt_size
  rw [Nat.mod_eq_of_lt ha, Nat.mod_eq_of_lt hb] at h'
  exact UInt64.toNat.inj h'

theorem sliceToBe16_be16ToArray (n : UInt16) : sliceToBe16 (be16ToArray n) = n := by
  apply UInt16.toNat.inj
  have hn := n.toNat_lt_size
  simp only [sliceToBe16, be16ToArray, List.getD_cons_zero, List.getD_cons_succ]
  simp [UInt8.toNat, UInt8.ofNat, UInt16.toNat, UInt16.ofNat] at hn ⊢
  omega

end PeerChannelEncryptor
end Lightning
