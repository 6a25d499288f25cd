import Mathlib.Algebra.Group.Nat.Defs

/-!
# Frames of a requested size (`livekit-ffi/src/server/audio_stream.rs`)

Where a frame size was requested, `native_audio_stream_task` collects the samples it receives and
cuts them into frames of `target_samples` (`framed_iff`). A target of no samples is always reached,
and the loop never ends.
-/

open List

namespace LiveKit.Ffi

structure AudioFrame where
  data : List Int16
  sampleRate : ℕ
  numChannels : ℕ
  samplesPerChannel : ℕ

section

variable (sampleRate numChannels frameSizeMs : ℕ)

def targetSamples : ℕ := sampleRate * frameSizeMs / 1000 * numChannels % 2 ^ 64

/-- The loop that drains `buf`, unless it needs more than `fuel` rounds. -/
def drain (target : ℕ) : ℕ → List Int16 → Option (List AudioFrame × List Int16)
  | 0, _ => none
  | fuel + 1, buf =>
    if target ≤ buf.length then do
      let (frames, rest) ← drain target fuel (buf.drop target)
      let samplesPerChannel := target % 2 ^ 32 / numChannels
      return (⟨buf.take target, sampleRate, numChannels, samplesPerChannel⟩ :: frames, rest)
    else some ([], buf)

/-- The task, on the frames it receives: what it emits and what it retains. -/
def nativeAudioStreamTask (target : Option ℕ) (fuel : ℕ) :
    List Int16 → List AudioFrame → Option (List AudioFrame × List Int16)
  | buf, [] => some ([], buf)
  | buf, frame :: received => do
    let (emitted, buf) ← match target with
      | some target => drain sampleRate numChannels target fuel (buf ++ frame.data)
      | none => some ([frame], buf)
    let (more, buf) ← nativeAudioStreamTask target fuel buf received
    return (emitted ++ more, buf)

/-- The samples of `input` are in frames of `size` samples a channel, but for less than a frame. -/
structure Framed (size : ℕ) (input : List Int16) (emitted : List AudioFrame) (buf : List Int16) :
    Prop where
  sizes : ∀ frame ∈ emitted,
    frame.data.length = size * numChannels ∧ frame.samplesPerChannel = size
  samples : emitted.flatMap (·.data) ++ buf = input
  retained : buf.length < size * numChannels

variable {sampleRate numChannels} {target fuel size : ℕ} {buf rest : List Int16}
  {emitted received : List AudioFrame}

lemma samplesPerChannel_of_drain
    (h : drain sampleRate numChannels target fuel buf = some (emitted, rest)) :
    ∀ frame ∈ emitted, frame.samplesPerChannel = target % 2 ^ 32 / numChannels := by
  induction fuel generalizing buf emitted with
  | zero => cases h
  | succ fuel ih =>
    rw [drain] at h
    split at h
    · obtain ⟨⟨frames, rest⟩, hdrain, heq⟩ := Option.bind_eq_some_iff.mp h
      cases heq
      exact forall_mem_cons.mpr ⟨rfl, ih hdrain⟩
    · cases h
      exact forall_mem_nil _

variable (hpos : 0 < size * numChannels) (hsize : size * numChannels % 2 ^ 32 / numChannels = size)
include hpos hsize

lemma exists_drain (hfuel : buf.length < fuel) : ∃ emitted rest,
    drain sampleRate numChannels (size * numChannels) fuel buf = some (emitted, rest) ∧
      Framed numChannels size buf emitted rest := by
  induction fuel generalizing buf with
  | zero => cases hfuel
  | succ fuel ih =>
    rw [drain]
    split
    next hle =>
      obtain ⟨frames, rest, hdrain, h⟩ := @ih (buf.drop (size * numChannels))
        (by rw [length_drop]; omega)
      rw [hdrain]
      refine ⟨_, rest, rfl, forall_mem_cons.mpr ⟨⟨?_, hsize⟩, h.sizes⟩, ?_, h.retained⟩
      · exact length_take_of_le hle
      · rw [flatMap_cons, append_assoc, h.samples, take_append_drop]
    next hlt => exact ⟨[], buf, rfl, forall_mem_nil _, rfl, Nat.lt_of_not_le hlt⟩

lemma exists_task (hbuf : buf.length < size * numChannels)
    (hfuel : (buf ++ received.flatMap (·.data)).length < fuel) :
    ∃ emitted rest, nativeAudioStreamTask sampleRate numChannels (some (size * numChannels)) fuel
        buf received = some (emitted, rest) ∧
      Framed numChannels size (buf ++ received.flatMap (·.data)) emitted rest := by
  induction received generalizing buf with
  | nil => exact ⟨[], buf, rfl, forall_mem_nil _, by simp, hbuf⟩
  | cons frame received ih =>
    rw [flatMap_cons, ← append_assoc] at hfuel ⊢
    obtain ⟨emitted, rest, hdrain, h⟩ := @exists_drain sampleRate numChannels fuel size
      (buf ++ frame.data) hpos hsize (by rw [length_append] at hfuel; omega)
    have hsamples := h.samples
    obtain ⟨more, rest', htask, h'⟩ := ih h.retained (by
      rw [← hsamples, append_assoc, length_append] at hfuel; omega)
    refine ⟨emitted ++ more, rest', ?_, forall_mem_append.mpr ⟨h.sizes, h'.sizes⟩, ?_, h'.retained⟩
    · simp [nativeAudioStreamTask, hdrain, htask]
    · rw [flatMap_append, append_assoc, h'.samples, ← append_assoc, h.samples]

end

/-- **Re-framing.** Whatever is received, the task is done with it after finitely many rounds, has
emitted frames of exactly the requested size that hold a prefix of the samples, and retains
less than a frame, if and only if the requested size is at least one sample and the samples of a
frame are counted in 32 bits. -/
theorem framed_iff (sampleRate numChannels frameSizeMs : ℕ) (h_channels : 1 ≤ numChannels) :
    (∀ received, ∃ fuel emitted buf, nativeAudioStreamTask sampleRate numChannels
        (some (targetSamples sampleRate numChannels frameSizeMs)) fuel [] received =
          some (emitted, buf) ∧
      Framed numChannels (sampleRate * frameSizeMs / 1000) (received.flatMap (·.data)) emitted
        buf) ↔
      1 ≤ sampleRate * frameSizeMs / 1000 ∧
        sampleRate * frameSizeMs / 1000 * numChannels < 2 ^ 32 := by
  unfold targetSamples
  generalize sampleRate * frameSizeMs / 1000 = size
  constructor
  · intro h
    obtain ⟨_, _, _, -, hnone⟩ := h []
    have hpos : 0 < size * numChannels := Nat.zero_lt_of_lt hnone.retained
    refine ⟨Nat.pos_of_mul_pos_right hpos, ?_⟩
    -- a frame is emitted once enough has been received
    obtain ⟨fuel, emitted, buf, htask, hframed⟩ := h [⟨replicate (size * numChannels) 0, 0, 0, 0⟩]
    obtain ⟨⟨frames, rest⟩, hdrain, heq⟩ := Option.bind_eq_some_iff.mp htask
    cases heq
    cases frames with
    | nil =>
      have hlen := congrArg length hframed.samples
      have hlt := hframed.retained
      simp at hlen
      omega
    | cons frame =>
      have hsize := (hframed.sizes frame (.head _)).2
      rw [samplesPerChannel_of_drain hdrain frame (.head _)] at hsize
      have hle := Nat.div_mul_le_self (size * numChannels % 2 ^ 64 % 2 ^ 32) numChannels
      rw [hsize] at hle
      omega
  · rintro ⟨hone, hlt⟩ received
    have hmod : size * numChannels % 2 ^ 64 = size * numChannels := Nat.mod_eq_of_lt (by omega)
    have hsize : size * numChannels % 2 ^ 32 / numChannels = size := by
      rw [Nat.mod_eq_of_lt hlt, Nat.mul_div_cancel _ h_channels]
    have hpos := Nat.mul_pos hone h_channels
    rw [hmod]
    obtain ⟨emitted, rest, h⟩ := @exists_task sampleRate numChannels _ size [] received hpos hsize
      hpos (Nat.lt_succ_self _)
    exact ⟨_, emitted, rest, h⟩

/-- Frames of 10 ms of stereo, out of frames of another size. -/
theorem framed_iff_stereo :
    let received := [⟨replicate 1500 1, 48000, 2, 750⟩, ⟨replicate 500 2, 48000, 2, 250⟩]
    ∃ fuel emitted buf, nativeAudioStreamTask 48000 2 (some (targetSamples 48000 2 10)) fuel []
        received = some (emitted, buf) ∧
      Framed 2 480 (received.flatMap (·.data)) emitted buf :=
  (framed_iff 48000 2 10 (by decide)).mpr (by decide) _

lemma drain_zero (sampleRate numChannels fuel buf) :
    drain sampleRate numChannels 0 fuel buf = none := by
  induction fuel generalizing buf with
  | zero => rfl
  | succ fuel ih => simp [drain, ih]

/-- With a frame size of no samples, the first frame received is never done with. -/
theorem not_framed_zero : ¬ ∃ fuel emitted buf, nativeAudioStreamTask 48000 1
    (some (targetSamples 48000 1 0)) fuel [] [⟨[0], 48000, 1, 1⟩] = some (emitted, buf) := by
  rintro ⟨fuel, emitted, buf, h⟩
  simp [nativeAudioStreamTask, targetSamples, drain_zero] at h

end LiveKit.Ffi
