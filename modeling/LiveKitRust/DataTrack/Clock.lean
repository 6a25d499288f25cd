import LiveKitRust.DataTrack.Packet

/-!
# The packet clock

The mapping of instants to packet timestamps (`packet/time.rs`). An instant is a number of
nanoseconds; ticks are computed in arbitrary precision, as in `u128`, and truncated to 32 bits. The
guard that keeps timestamps from going back compares them in the wrapped space, where a long silence
looks like a step back: `stamps_exact_iff` says for which calls the answers are exact.
-/

namespace LiveKit.DataTrack

/-- `std::time::Instant`, in nanoseconds. -/
abbrev Instant := ℕ

namespace Timestamp

variable {RATE : ℕ}

/-- `is_before`: the wrapped difference is negative as an `i32`. -/
def isBefore (self other : Timestamp RATE) : Bool :=
  2 ^ 31 ≤ (self.asTicks - other.asTicks).toNat

def wrappingAdd (self : Timestamp RATE) (ticks : UInt32) : Timestamp RATE :=
  ⟨self.asTicks + ticks⟩

end Timestamp

structure Clock (RATE : ℕ) where
  epoch : Instant
  base : Timestamp RATE
  prev : Timestamp RATE
  deriving DecidableEq

namespace Clock

variable {RATE : ℕ}

def withEpoch (epoch : Instant) (base : Timestamp RATE) : Clock RATE := ⟨epoch, base, base⟩

/-- Convert a duration since the epoch into clock ticks, rounded. -/
def durationToTicks (RATE nanos : ℕ) : UInt32 :=
  UInt32.ofNat ((nanos * RATE + 500000000) / 1000000000)

def atInstant (self : Clock RATE) (instant : Instant) : Timestamp RATE × Clock RATE :=
  let elapsed := instant - self.epoch -- `duration_since` saturates at zero
  let ts := self.base.wrappingAdd (durationToTicks RATE elapsed)
  -- Enforce monotonicity in RTP wraparound space
  let ts := if ts.isBefore self.prev then self.prev else ts
  (ts, { self with prev := ts })

/-- The timestamps of successive calls of `at`. -/
def stamps (self : Clock RATE) : List Instant → List (Timestamp RATE)
  | [] => []
  | instant :: instants =>
    let (ts, after) := self.atInstant instant
    ts :: after.stamps instants

def exactStamp (epoch : Instant) (base : Timestamp RATE) (instant : Instant) : Timestamp RATE :=
  base.wrappingAdd (durationToTicks RATE (instant - epoch))

/-- The ticks from one instant to another, wrapped, are less than half of the timestamp space. -/
def Near (RATE : ℕ) (epoch earlier later : Instant) : Prop :=
  (durationToTicks RATE (later - epoch) - durationToTicks RATE (earlier - epoch)).toNat < 2 ^ 31

lemma exactStamp_isBefore {epoch earlier later} (base : Timestamp RATE) :
    (exactStamp epoch base later).isBefore (exactStamp epoch base earlier) = false ↔
      Near RATE epoch earlier later := by
  have hdiff (a b : UInt32) : base.asTicks + b - (base.asTicks + a) = b - a := by
    rw [← UInt32.toBitVec_inj]
    simp only [UInt32.toBitVec_sub, UInt32.toBitVec_add]
    bv_omega
  simp [Timestamp.isBefore, exactStamp, Timestamp.wrappingAdd, Near, hdiff]

lemma atInstant_eq (epoch : Instant) (base prev : Timestamp RATE) (instant : Instant) :
    atInstant ⟨epoch, base, prev⟩ instant = let exact := exactStamp epoch base instant
      let ts := if exact.isBefore prev then prev else exact
      (ts, ⟨epoch, base, ts⟩) :=
  rfl

lemma stamps_eq_map_iff (epoch earlier : Instant) (base : Timestamp RATE)
    (instants : List Instant) : stamps ⟨epoch, base, exactStamp epoch base earlier⟩ instants =
        instants.map (exactStamp epoch base) ↔ (earlier :: instants).IsChain (Near RATE epoch) := by
  induction instants generalizing earlier with
  | nil => simp [stamps]
  | cons later instants ih =>
    rw [List.isChain_cons_cons, ← exactStamp_isBefore base]
    cases hbef : (exactStamp epoch base later).isBefore (exactStamp epoch base earlier) with
    | false => simp [stamps, atInstant_eq, hbef, ih]
    | true =>
      have hne : exactStamp epoch base earlier ≠ exactStamp epoch base later := by
        intro heq
        simp [heq, Timestamp.isBefore] at hbef
      simp [stamps, atInstant_eq, hbef, hne]

/-- **Timestamps are exact up to the first large gap.** The answers are the base plus the elapsed
ticks if and only if no gap between two calls, or between the epoch and the first call, is half of
the timestamp space or more, modulo that space. -/
theorem stamps_exact_iff (epoch : Instant) (base : Timestamp RATE) (instants : List Instant) :
    (withEpoch epoch base).stamps instants = instants.map (exactStamp epoch base) ↔
      (epoch :: instants).IsChain (Near RATE epoch) := by
  have hbase : exactStamp epoch base epoch = base := by
    simp [exactStamp, Timestamp.wrappingAdd, durationToTicks]
  have h := stamps_eq_map_iff epoch epoch base instants
  rwa [hbase] at h

/-- Under seven hours after the epoch, the clock still answers with its base. -/
theorem stamps_long_gap : let clock : Clock 90000 := withEpoch 0 ⟨0⟩
    let instants := [0, 24000000000000]
    instants.Pairwise (· ≤ ·) ∧ clock.stamps instants ≠ instants.map (exactStamp 0 ⟨0⟩) := by
  decide +kernel

end Clock

end LiveKit.DataTrack
