import Mathlib.Data.UInt

/-!
# Wrapping sequence numbers

Sequence numbers are 16-bit counters that wrap. The numbers reached from a common one are told apart
by the number of steps, as long as these are fewer than `2 ^ 16` (`add_ofNat_inj`), and the distance
to an end goes down by one with each step (`toNat_sub_succ`).

`consecutive f sequence count` reads a function at consecutive numbers and fails where it has no
value.
-/

namespace Sequence

lemma add_one_add_ofNat (seq : UInt16) (i : ℕ) :
    seq + 1 + UInt16.ofNat i = seq + UInt16.ofNat (i + 1) := by
  rw [UInt16.ofNat_add, UInt16.add_assoc, UInt16.add_comm 1]
  rfl

variable {seq : UInt16} {i : ℕ}

/-- Fewer than `2 ^ 16` steps from a common number, the number of steps is
determined. -/
lemma add_ofNat_inj {j : ℕ} (hi : i < 2 ^ 16) (hj : j < 2 ^ 16) :
    seq + UInt16.ofNat i = seq + UInt16.ofNat j ↔ i = j := by
  constructor
  · intro h
    have hnat := congrArg UInt16.toNat h
    rw [UInt16.toNat_add, UInt16.toNat_add, UInt16.toNat_ofNat', UInt16.toNat_ofNat'] at hnat
    omega
  · rintro rfl
    rfl

lemma add_one_add_ofNat_ne (seq : UInt16) (h : i + 1 < 2 ^ 16) :
    seq + 1 + UInt16.ofNat i ≠ seq := by
  intro heq
  have hzero : seq + UInt16.ofNat (i + 1) = seq + UInt16.ofNat 0 := by
    rw [← add_one_add_ofNat, heq]
    exact (UInt16.add_zero seq).symm
  exact absurd ((add_ofNat_inj h (by decide)).mp hzero) (Nat.succ_ne_zero i)

lemma toNat_add_ofNat_sub (seq : UInt16) (h : i < 2 ^ 16) :
    (seq + UInt16.ofNat i - seq).toNat = i := by
  have hseq := seq.toNat_lt
  rw [UInt16.toNat_sub, UInt16.toNat_add, UInt16.toNat_ofNat']
  omega

lemma toNat_sub_succ {endSequence : UInt16} (h : seq ≠ endSequence) :
    (endSequence - seq).toNat = (endSequence - (seq + 1)).toNat + 1 := by
  have hne : seq.toNat ≠ endSequence.toNat := fun h' => h (UInt16.toNat_inj.mp h')
  have hseq := seq.toNat_lt
  have hend := endSequence.toNat_lt
  rw [UInt16.toNat_sub, UInt16.toNat_sub, UInt16.toNat_add]
  simp only [UInt16.reduceToNat]
  omega

/-! ### Reading consecutive numbers -/

variable {α β : Type}

/-- The values at `count` consecutive sequence numbers from `sequence` on, if
there is one at each of them. -/
def consecutive (f : UInt16 → Option α) (sequence : UInt16) : ℕ → Option (List α)
  | 0 => some []
  | count + 1 => do
    let a ← f sequence
    let as ← consecutive f (sequence + 1) count
    return a :: as

lemma consecutive_succ (f : UInt16 → Option α) (seq : UInt16) (count : ℕ) :
    consecutive f seq (count + 1) =
      (f seq).bind fun a => (consecutive f (seq + 1) count).map (a :: ·) := by
  rw [consecutive]
  cases f seq with
  | none => rfl
  | some => cases consecutive f (seq + 1) count <;> rfl

lemma consecutive_congr {f g : UInt16 → Option α} {count : ℕ}
    (h : ∀ i < count, f (seq + UInt16.ofNat i) = g (seq + UInt16.ofNat i)) :
    consecutive f seq count = consecutive g seq count := by
  induction count generalizing seq with
  | zero => rfl
  | succ count ih =>
    have hhead : f seq = g seq := by simpa using h 0 (Nat.succ_pos count)
    have htail := @ih (seq + 1) fun i hi => by
      rw [add_one_add_ofNat]
      exact h (i + 1) (Nat.succ_lt_succ hi)
    rw [consecutive_succ, consecutive_succ, hhead, htail]

lemma consecutive_map (f : UInt16 → Option α) (g : α → β) (seq : UInt16) (count : ℕ) :
    consecutive (fun s => (f s).map g) seq count = (consecutive f seq count).map (List.map g) := by
  induction count generalizing seq with
  | zero => rfl
  | succ count ih =>
    rw [consecutive_succ, consecutive_succ, ih]
    cases f seq with
    | none => rfl
    | some => cases consecutive f (seq + 1) count <;> rfl

/-- A function that lists values from `sequence` on reads them back. -/
lemma consecutive_of_getElem? {f : UInt16 → Option α} {as : List α}
    (h : ∀ i < as.length, f (seq + UInt16.ofNat i) = as[i]?) :
    consecutive f seq as.length = some as := by
  induction as generalizing seq with
  | nil => rfl
  | cons a _ ih =>
    have hhead : f seq = some a := by simpa using h 0 (Nat.succ_pos _)
    have htail := @ih (seq + 1) fun i hi => by
      rw [add_one_add_ofNat, h (i + 1) (Nat.succ_lt_succ hi), List.getElem?_cons_succ]
    rw [List.length_cons, consecutive_succ, hhead, htail]
    rfl

end Sequence
