import LiveKitRust.Base.Maps

/-!
# Time to live map (`ttl_map.rs`)

A map whose entries expire. Nothing happens at the time an entry expires: `get` drops it when it is
asked for, and `cleanup` drops all that have, at the latest in the first `set` that comes half a
lifetime after the cleanup before.

The clock is read anew by every operation, and by the `cleanup` inside of `set` once more. It is the
system clock and may go backwards, so the readings are arguments and nothing relates one to the
next. Times are in nanoseconds.
-/

namespace LiveKit.Utils

structure TtlMap.Entry (ν : Type) where
  value : ν
  expiresAt : ℕ
  deriving DecidableEq

structure TtlMap (κ ν : Type) where
  inner : Map κ (TtlMap.Entry ν)
  lastCleanup : ℕ
  ttl : ℕ

namespace TtlMap

variable {κ ν : Type} [DecidableEq κ]

def new (now ttl : ℕ) : TtlMap κ ν := ⟨∅, now, ttl⟩

variable (self : TtlMap κ ν)

def cleanup (now : ℕ) : TtlMap κ ν :=
  { self with
    inner := self.inner.retain fun _ entry => decide (now ≤ entry.expiresAt)
    lastCleanup := now }

/-- The key-value pairs in an arbitrary order. -/
def iter (order : HashOrder κ) (now : ℕ) : List (κ × ν) × TtlMap κ ν :=
  let self := self.cleanup now
  ((order.entries self.inner).map fun e => (e.1, e.2.value), self)

def get (now : ℕ) (k : κ) : Option ν × TtlMap κ ν :=
  match self.inner.lookup k with
  | none => (none, self)
  | some entry =>
    if entry.expiresAt < now then (none, { self with inner := self.inner.erase k })
    else (some entry.value, self)

/-- Sets the value for the given key. `cleanupNow` is the clock as `cleanup` reads it. -/
def set (now cleanupNow : ℕ) (k : κ) (v : Option ν) : TtlMap κ ν :=
  -- "System clock anomaly detected"
  if now < self.lastCleanup then self
  else
    let self := if self.ttl / 2 < now - self.lastCleanup then self.cleanup cleanupNow else self
    match v with
    | none => { self with inner := self.inner.erase k }
    | some value => { self with inner := self.inner.insert k ⟨value, now + self.ttl⟩ }

/-- The map has an entry for the key that is expired at the given time. -/
def Expired (now : ℕ) (k : κ) : Prop :=
  ∃ entry ∈ self.inner.lookup k, entry.expiresAt < now
  deriving Decidable

/-- The value a key has, expired or not. -/
def value? (k : κ) : Option ν :=
  (self.inner.lookup k).map (·.value)

variable {self : TtlMap κ ν} {now cleanupNow : ℕ} {k : κ}

lemma value?_cleanup (h : ¬ self.Expired now k) : (self.cleanup now).value? k = self.value? k := by
  unfold value? cleanup
  rw [AList.lookup_retain]
  cases hl : self.inner.lookup k with
  | none => rfl
  | some entry =>
    have halive : now ≤ entry.expiresAt := by
      by_contra hlt
      exact h ⟨entry, hl, by omega⟩
    simp [halive]

lemma get_of_not_expired (h : ¬ self.Expired now k) : self.get now k = (self.value? k, self) := by
  unfold get value?
  cases hl : self.inner.lookup k with
  | none => rfl
  | some entry =>
    have halive : ¬ entry.expiresAt < now := fun hlt => h ⟨entry, hl, hlt⟩
    simp [halive]

lemma lookup_get_of_ne {j} (h : j ≠ k) :
    (self.get now k).2.inner.lookup j = self.inner.lookup j := by
  unfold get
  split
  · rfl
  · split
    · exact AList.lookup_erase_ne h
    · rfl

lemma value?_set_of_ne {j v} (h : ¬ self.Expired cleanupNow j) (hne : j ≠ k) :
    (self.set now cleanupNow k v).value? j = self.value? j := by
  -- what comes before the update itself: nothing, or a cleanup
  have hbef : (if self.ttl / 2 < now - self.lastCleanup then self.cleanup cleanupNow
      else self).value? j = self.value? j := by
    split
    · exact value?_cleanup h
    · rfl
  unfold set
  split
  · rfl
  · rw [← hbef]
    cases v with
    | none => simp only [value?, AList.lookup_erase_ne hne]
    | some value => simp only [value?, AList.lookup_insert_ne hne]

lemma value?_set_self {value} (h : self.lastCleanup ≤ now) :
    (self.set now cleanupNow k (some value)).value? k = some value := by
  unfold set
  rw [if_neg (by omega)]
  simp only [value?, AList.lookup_insert, Option.map_some]

end TtlMap

end LiveKit.Utils
