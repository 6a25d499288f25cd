import LiveKitRust.Base.Outcome
import Mathlib.Data.Vector.Basic
import Mathlib.Tactic.Ring

/-!
# Byte buffers

A buffer being read is the list of its remaining bytes (`Buf`), a buffer being written is the bytes
written so far together with the room that is left (`BufMut`). Reading past the end and writing past
the room left panic, as the `bytes` crate documents for its `get_*`, `advance`, `copy_to_*` and
`put_*` methods.

`beBytes w n` are the `w` big-endian bytes of `n` and `beNat` reads a byte list back, with
`beNat_beBytes` the round trip. The reads of 8, 16 and 32 bits are its instances: reading what was
written gives back the value and leaves the rest of the buffer.
-/

namespace Rust

/-! ### Big-endian integers -/

def beBytes : ℕ → ℕ → List UInt8
  | 0, _ => []
  | w + 1, n => UInt8.ofNat (n / 256 ^ w) :: beBytes w n

def beNat : List UInt8 → ℕ
  | [] => 0
  | b :: bs => b.toNat * 256 ^ bs.length + beNat bs

variable (w n : ℕ) (bs : List UInt8)

@[simp] lemma length_beBytes : (beBytes w n).length = w := by
  induction w with
  | zero => rfl
  | succ _ ih => rw [beBytes, List.length_cons, ih]

lemma beNat_beBytes : beNat (beBytes w n) = n % 256 ^ w := by
  induction w with
  | zero => simp [beBytes, beNat, Nat.mod_one]
  | succ _ ih =>
    rw [beBytes, beNat, length_beBytes, ih, Nat.mod_pow_succ, UInt8.toNat_ofNat']
    ring

lemma beNat_lt : beNat bs < 256 ^ bs.length := by
  induction bs with
  | nil => exact Nat.one_pos
  | cons b bs ih =>
    have hb : b.toNat + 1 ≤ 256 := b.toNat_lt
    calc b.toNat * 256 ^ bs.length + beNat bs
      _ < b.toNat * 256 ^ bs.length + 256 ^ bs.length := Nat.add_lt_add_left ih _
      _ = (b.toNat + 1) * 256 ^ bs.length := (Nat.succ_mul _ _).symm
      _ ≤ 256 * 256 ^ bs.length := Nat.mul_le_mul_right _ hb
      _ = 256 ^ (bs.length + 1) := (Nat.pow_succ').symm

lemma beBytes_add_mul (w k n : ℕ) : beBytes w (n + k * 256 ^ w) = beBytes w n := by
  induction w generalizing k with
  | zero => rfl
  | succ w ih =>
    have hmul : k * 256 ^ (w + 1) = k * 256 * 256 ^ w := by rw [Nat.pow_succ', Nat.mul_assoc]
    rw [beBytes, beBytes, hmul, ih, Nat.add_mul_div_right _ _ (Nat.pow_pos (by decide))]
    congr 1
    apply UInt8.toNat_inj.mp
    simp

lemma beBytes_beNat : beBytes bs.length (beNat bs) = bs := by
  induction bs with
  | nil => rfl
  | cons b bs ih =>
    rw [List.length_cons, beBytes, beNat, Nat.add_comm, beBytes_add_mul, ih,
      Nat.add_mul_div_right _ _ (Nat.pow_pos (by decide)), Nat.div_eq_of_lt (beNat_lt bs),
      Nat.zero_add, UInt8.ofNat_toNat]

/-! ### Reading -/

namespace Buf

variable {ε : Type}

def advance (n : ℕ) (raw : List UInt8) : Outcome ε (List UInt8) :=
  if raw.length < n then .panic else .ok (raw.drop n)

def copyToBytes (n : ℕ) (raw : List UInt8) : Outcome ε (List UInt8 × List UInt8) :=
  if raw.length < n then .panic else .ok (raw.take n, raw.drop n)

def copyToSlice (n : ℕ) (raw : List UInt8) : Outcome ε (List.Vector UInt8 n × List UInt8) :=
  if h : raw.length < n then .panic
  else .ok (⟨raw.take n, List.length_take_of_le (Nat.not_lt.mp h)⟩, raw.drop n)

def getU8 (raw : List UInt8) : Outcome ε (UInt8 × List UInt8) :=
  match raw with
  | [] => .panic
  | b :: rest => .ok (b, rest)

def getU16 (raw : List UInt8) : Outcome ε (UInt16 × List UInt8) := do
  let (bs, rest) ← copyToBytes 2 raw
  .ok (UInt16.ofNat (beNat bs), rest)

def getU32 (raw : List UInt8) : Outcome ε (UInt32 × List UInt8) := do
  let (bs, rest) ← copyToBytes 4 raw
  .ok (UInt32.ofNat (beNat bs), rest)

lemma eq_of_advance {n : ℕ} {raw rest : List UInt8}
    (h : (advance n raw : Outcome ε _) = .ok rest) : raw.take n ++ rest = raw := by
  rw [advance] at h
  split at h
  · cases h
  · cases h
    exact List.take_append_drop n raw

lemma eq_of_copyToSlice {n : ℕ} {raw rest : List UInt8} {bs : List.Vector UInt8 n}
    (h : (copyToSlice n raw : Outcome ε _) = .ok (bs, rest)) : raw = bs.toList ++ rest := by
  rw [copyToSlice] at h
  split at h
  · cases h
  · cases h
    exact (List.take_append_drop n raw).symm

variable (b : UInt8)

@[simp] lemma getU8_cons (rest : List UInt8) :
    (getU8 (b :: rest) : Outcome ε _) = .ok (b, rest) := rfl

@[simp] lemma advance_one_cons (rest : List UInt8) :
    (advance 1 (b :: rest) : Outcome ε _) = .ok rest :=
  if_neg (by simp)

lemma copyToBytes_append {n : ℕ} {bs : List UInt8} (h : bs.length = n) (rest : List UInt8) :
    (copyToBytes n (bs ++ rest) : Outcome ε _) = .ok (bs, rest) := by
  rw [copyToBytes, if_neg (by simp [h]), ← h, List.take_left, List.drop_left]

lemma copyToSlice_append {n : ℕ} (bs : List.Vector UInt8 n) (rest : List UInt8) :
    (copyToSlice n (bs.toList ++ rest) : Outcome ε _) = .ok (bs, rest) := by
  obtain ⟨bs, rfl⟩ := bs
  rw [copyToSlice, dif_neg (by simp)]
  simp [List.Vector.toList]

lemma getU16_append (v : UInt16) (rest : List UInt8) :
    (getU16 (beBytes 2 v.toNat ++ rest) : Outcome ε _) = .ok (v, rest) := by
  have hv : v.toNat % 256 ^ 2 = v.toNat := Nat.mod_eq_of_lt v.toNat_lt
  change Outcome.ok (UInt16.ofNat (beNat (beBytes 2 v.toNat)), rest) = _
  rw [beNat_beBytes, hv, UInt16.ofNat_toNat]

lemma getU32_append (v : UInt32) (rest : List UInt8) :
    (getU32 (beBytes 4 v.toNat ++ rest) : Outcome ε _) = .ok (v, rest) := by
  have hv : v.toNat % 256 ^ 4 = v.toNat := Nat.mod_eq_of_lt v.toNat_lt
  change Outcome.ok (UInt32.ofNat (beNat (beBytes 4 v.toNat)), rest) = _
  rw [beNat_beBytes, hv, UInt32.ofNat_toNat]

variable {raw : List UInt8} {n : ℕ}

lemma getU8_eq (h : 0 < raw.length) :
    (getU8 raw : Outcome ε _) = .ok (raw.headD 0, raw.drop 1) := by
  cases raw with
  | nil => cases h
  | cons => rfl

lemma advance_eq (h : n ≤ raw.length) : (advance n raw : Outcome ε _) = .ok (raw.drop n) :=
  if_neg (Nat.not_lt.mpr h)

lemma copyToBytes_eq (h : n ≤ raw.length) :
    (copyToBytes n raw : Outcome ε _) = .ok (raw.take n, raw.drop n) :=
  if_neg (Nat.not_lt.mpr h)

lemma getU16_eq (h : 2 ≤ raw.length) :
    (getU16 raw : Outcome ε _) = .ok (UInt16.ofNat (beNat (raw.take 2)), raw.drop 2) := by
  rw [getU16, copyToBytes_eq h, Outcome.ok_bind]

lemma getU32_eq (h : 4 ≤ raw.length) :
    (getU32 raw : Outcome ε _) = .ok (UInt32.ofNat (beNat (raw.take 4)), raw.drop 4) := by
  rw [getU32, copyToBytes_eq h, Outcome.ok_bind]

end Buf

/-! ### Writing -/

structure BufMut where
  written : List UInt8
  remaining : ℕ
  deriving DecidableEq

namespace BufMut

variable {ε : Type}

def withCapacity (n : ℕ) : BufMut := ⟨[], n⟩

/-- `put_slice`, the method every other write goes through. -/
def putSlice (bs : List UInt8) (buf : BufMut) : Outcome ε BufMut :=
  if buf.remaining < bs.length then .panic
  else .ok ⟨buf.written ++ bs, buf.remaining - bs.length⟩

def putU8 (v : UInt8) (buf : BufMut) : Outcome ε BufMut := putSlice [v] buf

def putU16 (v : UInt16) (buf : BufMut) : Outcome ε BufMut := putSlice (beBytes 2 v.toNat) buf

def putU32 (v : UInt32) (buf : BufMut) : Outcome ε BufMut := putSlice (beBytes 4 v.toNat) buf

def putU64 (v : UInt64) (buf : BufMut) : Outcome ε BufMut := putSlice (beBytes 8 v.toNat) buf

def putBytes (v : UInt8) (n : ℕ) (buf : BufMut) : Outcome ε BufMut :=
  putSlice (List.replicate n v) buf

def push (buf : BufMut) (bs : List UInt8) : BufMut :=
  ⟨buf.written ++ bs, buf.remaining - bs.length⟩

variable (buf : BufMut)

@[simp] lemma push_remaining (bs : List UInt8) :
    (buf.push bs).remaining = buf.remaining - bs.length := rfl

@[simp] lemma push_nil : buf.push [] = buf := by
  simp [push]

lemma push_push (as bs : List UInt8) : (buf.push as).push bs = buf.push (as ++ bs) := by
  simp [push, Nat.sub_sub]

lemma putSlice_eq {bs : List UInt8} {buf : BufMut} (h : bs.length ≤ buf.remaining) :
    (putSlice bs buf : Outcome ε _) = .ok (buf.push bs) :=
  if_neg (Nat.not_lt.mpr h)

end BufMut

end Rust
