import Mathlib.Algebra.GroupWithZero.Nat
import Mathlib.Algebra.Order.Group.Nat
import Mathlib.Data.List.Basic

/-!
# A queue that counts bytes (`tx_queue.rs`)

A `TxQueue` carries the number of bytes of its items along, and the field `buffered_eq` says that
the number is right. What `trim` leaves is the longest end of the queue that has at most the size
asked for (`trimLoop_spec`).
-/

namespace LiveKit.RtcEngine

class TxQueueItem (α : Type) where
  /-- Amount in bytes this item adds to the buffered size. -/
  bufferedSize : α → ℕ

variable {α : Type} [TxQueueItem α]

def totalSize (items : List α) : ℕ := (items.map TxQueueItem.bufferedSize).sum

@[simp] lemma totalSize_nil : totalSize ([] : List α) = 0 := rfl

@[simp] lemma totalSize_cons (item : α) (items : List α) :
    totalSize (item :: items) = TxQueueItem.bufferedSize item + totalSize items := rfl

@[simp] lemma totalSize_append (items items' : List α) :
    totalSize (items ++ items') = totalSize items + totalSize items' := by
  simp [totalSize]

variable (α) in
structure TxQueue where
  inner : List α
  bufferedSize : ℕ
  buffered_eq : bufferedSize = totalSize inner
  deriving DecidableEq

namespace TxQueue

def new : TxQueue α := ⟨[], 0, rfl⟩

def enqueue (self : TxQueue α) (item : α) : TxQueue α where
  inner := self.inner ++ [item]
  bufferedSize := self.bufferedSize + TxQueueItem.bufferedSize item
  buffered_eq := by
    rw [self.buffered_eq, totalSize_append, totalSize_cons, totalSize_nil, Nat.add_zero]

def dequeue (self : TxQueue α) : Option (α × TxQueue α) :=
  match self with
  | ⟨[], _, _⟩ => none
  | ⟨item :: inner, bufferedSize, buffered_eq⟩ =>
    some (item, ⟨inner, bufferedSize - TxQueueItem.bufferedSize item, by
      rw [buffered_eq, totalSize_cons, Nat.add_sub_cancel_left]⟩)

lemma dequeue_eq_none {s : TxQueue α} (h : s.dequeue = none) :
    s.inner = [] ∧ s.bufferedSize = 0 := by
  obtain ⟨inner, _, buffered_eq⟩ := s
  cases inner with
  | nil => exact ⟨rfl, buffered_eq⟩
  | cons => cases h

lemma dequeue_eq_some {s rest : TxQueue α} {item : α} (h : s.dequeue = some (item, rest)) :
    s.inner = item :: rest.inner := by
  obtain ⟨inner, _, _⟩ := s
  cases inner with
  | nil => cases h
  | cons =>
    cases h
    rfl

def trimLoop (targetBufferSize : ℕ) : ℕ → TxQueue α → TxQueue α
  | 0, self => self
  | rounds + 1, self =>
    if self.bufferedSize > targetBufferSize then
      match self.dequeue with
      | some (_, rest) => trimLoop targetBufferSize rounds rest
      | none => self
    else self

/-- Dequeue and discard items until the buffered size is less than or equal to the
given target. Every round takes an item. -/
def trim (self : TxQueue α) (targetBufferSize : ℕ) : TxQueue α :=
  trimLoop targetBufferSize self.inner.length self

section Trim

variable (s : TxQueue α) (targetBufferSize : ℕ)

lemma trimLoop_spec (rounds : ℕ) (hrounds : s.inner.length ≤ rounds) :
    (trimLoop targetBufferSize rounds s).bufferedSize ≤ targetBufferSize ∧
      (trimLoop targetBufferSize rounds s).inner <:+ s.inner ∧
      ∀ rest : List α, rest <:+ s.inner → totalSize rest ≤ targetBufferSize →
        rest <:+ (trimLoop targetBufferSize rounds s).inner := by
  induction rounds generalizing s with
  | zero =>
    have hnil : s.inner = [] := List.length_eq_zero_iff.mp (Nat.le_zero.mp hrounds)
    refine ⟨?_, List.suffix_refl _, fun rest hr _ => hr⟩
    rw [trimLoop, s.buffered_eq, hnil]
    exact Nat.zero_le _
  | succ _ ih =>
    rw [trimLoop]
    split
    next _ =>
      cases hdequeue : s.dequeue with
      | none => exact absurd (dequeue_eq_none hdequeue).2 (by omega)
      | some removed =>
        obtain ⟨_, rest⟩ := removed
        have hinner := dequeue_eq_some hdequeue
        rw [hinner, List.length_cons] at hrounds
        obtain ⟨hle, hsuffix, hlongest⟩ := ih rest (by omega)
        rw [hinner]
        refine ⟨hle, hsuffix.trans (List.suffix_cons _ _), fun rest' hrest' hsize => ?_⟩
        rcases List.suffix_cons_iff.mp hrest' with rfl | hla
        · -- the whole queue is too long
          rw [← hinner, ← s.buffered_eq] at hsize
          omega
        · exact hlongest rest' hla hsize
    next _ => exact ⟨by omega, List.suffix_refl _, fun rest hr _ => hr⟩

lemma trim_suffix : (s.trim targetBufferSize).inner <:+ s.inner :=
  (s.trimLoop_spec targetBufferSize _ (Nat.le_refl _)).2.1

lemma suffix_trim {rest} (hr : rest <:+ s.inner) (hsize : totalSize rest ≤ targetBufferSize) :
    rest <:+ (s.trim targetBufferSize).inner :=
  (s.trimLoop_spec targetBufferSize _ (Nat.le_refl _)).2.2 rest hr hsize

end Trim

end TxQueue

end LiveKit.RtcEngine
