import LiveKitRust.Base.Machine

/-!
# The audio source (`ohos/audio_source.rs`)

A call of `capture_frame` appends its samples to a shared buffer, then encodes every whole block of
20 ms under the lock of the encoder, and then sends what it has encoded under the lock of the
pipeline. A block that the encoder refuses is skipped together with its timestamp, and two calls
may send in the other order than they encoded (`timestamps_of_ordered`).
-/

open Machine

namespace LiveKit.Ohos

def OPUS_FRAME_MS : ℕ := 20

/-- A frame for the pipeline. `block` is the number of the block that it encodes. -/
structure OpusFrame where
  timestampMs : ℕ
  block : ℕ
  deriving DecidableEq

inductive CaptureStage where
  | buffered
  | encoded (frames : List OpusFrame)
  | returned

structure NativeAudioSource where
  buffer : List Int16 := []
  timestampMs : ℕ := 0
  /-- The blocks that have been taken from the buffer. -/
  blocks : ℕ := 0
  calls : List CaptureStage := []

namespace NativeAudioSource

variable (frameSamples : ℕ) (self : NativeAudioSource)

/-- The loop of `encode_and_send`, for as many blocks as the buffer has. `encode` is what the
encoder makes of a block: the length, or an error. -/
def encodeBlocks (encode : ℕ → Option ℕ) : ℕ → NativeAudioSource →
    NativeAudioSource × List OpusFrame
  | 0, self => (self, [])
  | n + 1, self =>
    let next :=
      { self with buffer := self.buffer.drop frameSamples, blocks := self.blocks + 1 }
    match encode self.blocks with
    -- the loop goes on without advancing the timestamp
    | none => encodeBlocks encode n next
    | some len =>
      let res := encodeBlocks encode n { next with timestampMs := self.timestampMs + OPUS_FRAME_MS }
      (res.1, if len = 0 then res.2 else ⟨self.timestampMs, self.blocks⟩ :: res.2)

inductive Action where
  | capture (samples : List Int16)
  /-- `encode` is not there if no encoder can be created. -/
  | encode (call : ℕ) (encode : Option (ℕ → Option ℕ))
  /-- What has been encoded is lost if there is no pipeline. -/
  | send (call : ℕ) (bound : Bool)

def step : Action → NativeAudioSource × List OpusFrame
  | .capture samples =>
    ({ self with buffer := self.buffer ++ samples, calls := self.calls ++ [.buffered] }, [])
  | .encode call encode =>
    match self.calls[call]? with
    | some .buffered =>
      match encode with
      | none => ({ self with calls := self.calls.set call .returned }, [])
      | some encode =>
        let res := encodeBlocks frameSamples encode (self.buffer.length / frameSamples) self
        -- a call that has encoded nothing returns at once
        let stage := if res.2 = [] then .returned else .encoded res.2
        ({ res.1 with calls := self.calls.set call stage }, [])
    | _ => (self, [])
  | .send call bound =>
    match self.calls[call]? with
    | some (.encoded frames) =>
      ({ self with calls := self.calls.set call .returned }, if bound then frames else [])
    | _ => (self, [])

/-- The frames are in the order of their blocks, which are below `n`, with their timestamps. -/
def InOrder (n : ℕ) (frames : List OpusFrame) : Prop :=
  (∀ frame ∈ frames, frame.timestampMs = OPUS_FRAME_MS * frame.block ∧ frame.block < n) ∧
    frames.Pairwise fun frame later => frame.block < later.block

/-- No block is refused by the encoder, and a call encodes when no other has frames to send. -/
def Ordered (self : NativeAudioSource) : Action → Prop
  | .encode _ (some encode) =>
    (∀ block, (encode block).isSome) ∧ ∀ frames, .encoded frames ∉ self.calls
  | _ => True

structure Sound (log : List OpusFrame) (source : NativeAudioSource) : Prop where
  timestamp : source.timestampMs = OPUS_FRAME_MS * source.blocks
  sent : InOrder source.blocks log
  encoded : ∀ (i : ℕ) frames, source.calls[i]? = some (.encoded frames) →
    InOrder source.blocks (log ++ frames)
  single : ∀ (i j : ℕ) frames frames', source.calls[i]? = some (.encoded frames) →
    source.calls[j]? = some (.encoded frames') → i = j

variable {frameSamples} {self} {log : List OpusFrame} {a : Action}

lemma encodeBlocks_spec {encode} (hencode : ∀ block, (encode block).isSome) (n : ℕ)
    (h : self.timestampMs = OPUS_FRAME_MS * self.blocks) :
    let res := encodeBlocks frameSamples encode n self
    res.1.timestampMs = OPUS_FRAME_MS * res.1.blocks ∧ res.1.blocks = self.blocks + n ∧
      InOrder (self.blocks + n) res.2 ∧ ∀ frame ∈ res.2, self.blocks ≤ frame.block := by
  induction n generalizing self with
  | zero => exact ⟨h, rfl, ⟨nofun, .nil⟩, nofun⟩
  | succ n ih =>
    obtain ⟨len, hlen⟩ := Option.isSome_iff_exists.mp (hencode self.blocks)
    obtain ⟨hts, hblocks, horder, hge⟩ := @ih
      { self with
        buffer := self.buffer.drop frameSamples
        blocks := self.blocks + 1
        timestampMs := self.timestampMs + OPUS_FRAME_MS } (by rw [h]; rfl)
    simp only [encodeBlocks, hlen]
    refine ⟨hts, hblocks.trans (Nat.succ_add_eq_add_succ ..), ?_, ?_⟩
    · split <;> grind [InOrder, List.pairwise_cons]
    · split <;> grind

lemma Sound.step (h : Sound log self) (hordered : self.Ordered a) :
    Sound (log ++ (self.step frameSamples a).2) (self.step frameSamples a).1 := by
  obtain ⟨htimestamp, hsent, hencoded, hsingle⟩ := h
  cases a with
  | capture samples => constructor <;> grind [NativeAudioSource.step]
  | encode call encode =>
    unfold NativeAudioSource.step
    dsimp only
    split
    next hcall =>
      cases encode with
      | none => constructor <;> grind
      | some encode =>
        obtain ⟨hts, hblocks, horder, hge⟩ := @encodeBlocks_spec frameSamples self encode hordered.1
          (self.buffer.length / frameSamples) htimestamp
        have hfree (i : ℕ) (frames : List OpusFrame) : self.calls[i]? ≠ some (.encoded frames) :=
          fun hi => hordered.2 frames (List.mem_of_getElem? hi)
        -- what has been sent are earlier blocks
        constructor <;> grind [InOrder]
    · constructor <;> grind
  | send call bound =>
    unfold NativeAudioSource.step
    dsimp only
    split
    next frames hcall => constructor <;> grind
    · constructor <;> grind

/-- **Timestamps.** In a run in which no block is refused by the encoder and every call encodes
when no other has frames to send, the frames are sent in the order of their blocks, the one of
block `k` with the timestamp `20 * k`. -/
theorem timestamps_of_ordered (frameSamples : ℕ) {actions : List Action}
    (h : Along (step frameSamples) Ordered {} actions) :
    InOrder (state (step frameSamples) {} actions).blocks
      (outputs (step frameSamples) {} actions) := by
  have hinit : Sound [] {} := ⟨rfl, ⟨nofun, .nil⟩, nofun, nofun⟩
  have hsound := h.run_of_step hinit fun log s a hs hordered => hs.step hordered
  rw [List.nil_append] at hsound
  exact hsound.sent

theorem timestamps_of_ordered_two : InOrder 2 (outputs (step 1) {}
    [.capture [0, 0], .encode 0 (some fun _ => some 1), .send 0 true]) :=
  timestamps_of_ordered 1 ⟨trivial, ⟨fun _ => rfl, by simp [step]⟩, trivial, trivial⟩

/-- The encoder refuses the first block. -/
theorem timestamps_refused :
    let sent := outputs (step 1) {} [.capture [0, 0],
      .encode 0 (some fun block => if block = 0 then none else some 1), .send 0 true]
    sent = [⟨0, 1⟩] ∧ ¬ InOrder 2 sent :=
  ⟨rfl, fun h => nomatch (h.1 ⟨0, 1⟩ (.head _)).1⟩

end NativeAudioSource

end LiveKit.Ohos
