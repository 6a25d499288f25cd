import Mathlib.Algebra.Group.Nat.Defs
import LiveKitRust.Base.Machine

/-!
# The resampler (`livekit-ffi/src/server/resampler.rs`)

soxr counts in frames, of one sample a channel; the length of the output buffer is in samples.
`push` makes the buffer fit the frames it asks for, `flush` asks for as many frames as there are
samples (`safe_iff`). The build is a release one, in which sizes that overflow wrap.
-/

open Machine List

namespace LiveKit.Ffi

structure SoxResampler where
  /-- The length of `out_buf`. -/
  outLen : ℕ := 0
  numChannels : ℕ
  /-- `(input_length as f64 * ratio).ceil() as usize`. -/
  scaled : ℕ → ℕ

/-- A call of `soxr_process`, with its capacity in frames and the length of the slice returned,
unless there was an error. -/
structure SoxrProcess where
  olen : ℕ
  outLen : ℕ
  returned : Option ℕ

def SoxrProcess.Safe (self : SoxrProcess) (numChannels : ℕ) : Prop :=
  self.olen * numChannels ≤ self.outLen ∧ ∀ n ∈ self.returned, n ≤ self.outLen

namespace SoxResampler

variable (self : SoxResampler)

/-- Calls, with the answers of soxr: its delay, the frames written, and whether it was cleared. -/
inductive Action where
  | push (inputLen delay : ℕ) (odone : Option ℕ)
  | flush (odone : Option ℕ) (cleared : Bool)

def maxOutLen (inputLen delay : ℕ) : ℕ :=
  (self.scaled (inputLen / self.numChannels) + delay + 1) % 2 ^ 64

def outputSamples (odone : ℕ) : ℕ := odone * self.numChannels % 2 ^ 64

def step : Action → SoxResampler × List SoxrProcess
  | .push inputLen delay odone =>
    let maxOutLen := self.maxOutLen inputLen delay
    let requiredOutputSize := maxOutLen * self.numChannels % 2 ^ 64
    let outLen := if self.outLen < requiredOutputSize then requiredOutputSize else self.outLen
    ({ self with outLen }, [⟨maxOutLen, outLen, odone.map self.outputSamples⟩])
  | .flush odone cleared =>
    let odone := if cleared then odone else none
    (self, [⟨self.outLen, self.outLen, odone.map self.outputSamples⟩])

/-- soxr reports at most the frames it was asked for. -/
def Reported (self : SoxResampler) : Action → Prop
  | .push inputLen delay odone => ∀ n ∈ odone, n ≤ self.maxOutLen inputLen delay
  | .flush odone _ => ∀ n ∈ odone, n ≤ self.outLen

/-- The size required does not overflow; a buffer in use is flushed for one channel only. -/
def Fits (self : SoxResampler) : Action → Prop
  | .push inputLen delay _ => self.maxOutLen inputLen delay * self.numChannels < 2 ^ 64
  | .flush .. => self.numChannels = 1 ∨ self.outLen = 0

variable {self} {a : Action}

lemma outputSamples_le {odone olen} (h : odone ≤ olen) :
    self.outputSamples odone ≤ olen * self.numChannels :=
  Nat.le_trans (Nat.mod_le ..) (Nat.mul_le_mul_right _ h)

lemma safe_step_iff (hlen : self.outLen < 2 ^ 64) (hch : 1 ≤ self.numChannels)
    (h : self.Reported a) : (∀ p ∈ (self.step a).2, p.Safe self.numChannels) ↔ self.Fits a := by
  cases a with
  | push inputLen delay odone =>
    simp only [step, forall_mem_singleton, SoxrProcess.Safe, Fits]
    constructor
    · rintro ⟨hle, -⟩
      split at hle <;> omega
    · intro hfits
      refine ⟨by split <;> omega, fun n hn => ?_⟩
      obtain ⟨m, hm, rfl⟩ := Option.map_eq_some_iff.mp hn
      have hle := @outputSamples_le self _ _ (h m hm)
      split <;> omega
  | flush odone cleared =>
    simp only [step, forall_mem_singleton, SoxrProcess.Safe, Fits]
    constructor
    · rintro ⟨hle, -⟩
      -- with two channels the capacity is at least twice the buffer
      by_contra hnot
      have := Nat.mul_le_mul_left self.outLen (show 2 ≤ self.numChannels by omega)
      omega
    · intro hfits
      have hle : self.outLen * self.numChannels ≤ self.outLen := by
        rcases hfits with hone | hzero
        · simp [hone]
        · simp [hzero]
      refine ⟨hle, fun n hn => ?_⟩
      obtain ⟨m, hm, rfl⟩ := Option.map_eq_some_iff.mp hn
      split at hm
      · exact Nat.le_trans (outputSamples_le (h m hm)) hle
      · cases hm

lemma outLen_step (h : self.outLen < 2 ^ 64) : (self.step a).1.outLen < 2 ^ 64 := by
  cases a with
  | push =>
    simp only [step]
    split
    · exact Nat.mod_lt _ (Nat.two_pow_pos 64)
    · exact h
  | flush => exact h

/-- **Buffer safety.** Where soxr reports at most the frames it was asked for, in a run its capacity
never exceeds the buffer and every slice returned is in range, if and only if no size required
overflows and a buffer in use is flushed for one channel only. -/
theorem safe_iff (numChannels : ℕ) (scaled : ℕ → ℕ) (actions : List Action)
    (h_channels : 1 ≤ numChannels)
    (h_reported : Along step Reported { numChannels, scaled } actions) :
    (∀ process ∈ outputs step { numChannels, scaled } actions, process.Safe numChannels) ↔
      Along step Fits { numChannels, scaled } actions := by
  suffices ∀ self : SoxResampler, self.outLen < 2 ^ 64 → self.numChannels = numChannels →
      Along step Reported self actions →
      ((∀ p ∈ outputs step self actions, p.Safe numChannels) ↔ Along step Fits self actions) from
    this _ (Nat.two_pow_pos 64) rfl h_reported
  clear h_reported
  induction actions with
  | nil => simp
  | cons a actions ih =>
    rintro self hlen rfl ⟨ha, has⟩
    rw [outputs_cons, forall_mem_append, along_cons, safe_step_iff hlen h_channels ha]
    refine and_congr_right fun _ => ih _ (outLen_step hlen) ?_ has
    cases a <;> rfl

def pushAndFlush : List Action := [.push 2 0 (some 2), .flush (some 1) true]

theorem safe_iff_mono : Along step Reported ⟨0, 1, id⟩ pushAndFlush ∧
    ∀ process ∈ outputs step ⟨0, 1, id⟩ pushAndFlush, process.Safe 1 :=
  have h := by simp [pushAndFlush, Reported, step, maxOutLen]
  ⟨h, (safe_iff 1 id pushAndFlush (by decide) h).mpr
    (by simp [pushAndFlush, Fits, step, maxOutLen])⟩

/-- With two channels, the capacity is twice the buffer. -/
theorem not_safe_stereo : Along step Reported ⟨0, 2, id⟩ pushAndFlush ∧
    ¬ ∀ process ∈ outputs step ⟨0, 2, id⟩ pushAndFlush, process.Safe 2 := by
  simp [pushAndFlush, step, Reported, SoxrProcess.Safe, maxOutLen]

end SoxResampler
end LiveKit.Ffi
