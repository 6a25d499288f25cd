import LiveKitRust.Base.Machine
import LiveKitRust.Ohos.H264Encoder
import LiveKitRust.Rtp.Packetizer

/-!
# The timestamps of encoded frames (`ohos/h264_encoder.rs`, `ohos/video_source.rs`)

`encode` queues a frame for the codec and returns the packet at the front of the output, which may
be that of an earlier frame. `poll_output` leaves out the timestamp of the packet, and
`encode_and_send` takes that of the frame it was called with (`stamped_of_idle`).
-/

open Machine LiveKit.Rtp

namespace LiveKit.Ohos

/-- The RTP timestamp for a capture time, by way of `(timestamp_us / 1000) as u64`. -/
def rtpTimestamp (timestampUs : ℤ) : UInt32 :=
  msToRtpTimestamp (timestampUs.tdiv 1000 % 2 ^ 64).toNat 90000

/-- The encoder, with its frames by their capture times. -/
structure H264Encoder where
  pendingFrames : List ℤ := []
  /-- The codec keeps the capture time of a frame as its `pts`. -/
  codec : List ℤ := []
  userData : EncoderUserData := ⟨[], []⟩
  /-- The frame of the call that has the lock of the encoder. -/
  current : Option ℤ := none

namespace H264Encoder

variable (self : H264Encoder)

inductive Action where
  | encode (timestampUs : ℤ)
  /-- `drain_pending` or the callback hands over a frame, or loses it with a buffer. -/
  | push (accepted : Bool)
  /-- The codec is done with one of its frames, which is lost with an empty buffer. -/
  | output (i : ℕ) (buf : List UInt8) (isKey : Bool)
  | codecData (buf : List UInt8)
  | pollOutput
  | replace

/-- A packet is sent with an RTP timestamp. -/
def step : Action → H264Encoder × List (EncodedPacket × UInt32)
  | .encode timestampUs =>
    match self.current with
    | none =>
      let kept := if 8 ≤ self.pendingFrames.length then self.pendingFrames.tail
        else self.pendingFrames
      ({ self with pendingFrames := kept ++ [timestampUs], current := timestampUs }, [])
    | some _ => (self, [])
  | .push accepted =>
    match self.pendingFrames with
    | [] => (self, [])
    | frame :: pendingFrames =>
      let codec := if accepted then self.codec ++ [frame] else self.codec
      ({ self with pendingFrames, codec }, [])
  | .output i buf isKey =>
    match self.codec[i]? with
    | none => (self, [])
    | some pts =>
      let userData := self.userData.onNewOutputBuffer buf pts false isKey
      ({ self with codec := self.codec.eraseIdx i, userData }, [])
  | .codecData buf =>
    ({ self with userData := self.userData.onNewOutputBuffer buf 0 true false }, [])
  | .pollOutput =>
    match self.current, self.userData.outputQueue with
    | some timestampUs, packet :: outputQueue =>
      ({ self with userData := { self.userData with outputQueue }, current := none },
        [(packet, rtpTimestamp timestampUs)])
    | _, _ => ({ self with current := none }, [])
  | .replace => (if self.current = none then {} else self, [])

/-- A frame is captured only when no earlier one is left in the encoder. -/
def Idle (self : H264Encoder) : Action → Prop
  | .encode _ => self.pendingFrames = [] ∧ self.codec = [] ∧ self.userData.outputQueue = []
  | _ => True

def Stamped (sent : EncodedPacket × UInt32) : Prop := sent.2 = rtpTimestamp sent.1.timestampUs

/-- During a call, the encoder has no frame but that of the call. -/
def Sound (log : List (EncodedPacket × UInt32)) (self : H264Encoder) : Prop :=
  (∀ sent ∈ log, Stamped sent) ∧ ∀ us, self.current = some us →
    (∀ frame ∈ self.pendingFrames, frame = us) ∧ (∀ frame ∈ self.codec, frame = us) ∧
      ∀ packet ∈ self.userData.outputQueue, packet.timestampUs = us

lemma mem_onNewOutputBuffer {data : EncoderUserData} {buf : List UInt8} {pts : ℤ}
    {isCodecData isKey : Bool} {packet : EncodedPacket}
    (h : packet ∈ (data.onNewOutputBuffer buf pts isCodecData isKey).outputQueue) :
    packet ∈ data.outputQueue ∨ isCodecData = false ∧ packet.timestampUs = pts := by
  unfold EncoderUserData.onNewOutputBuffer at h
  grind [→ List.mem_of_mem_tail]

lemma Sound.step {self : H264Encoder} {log : List (EncodedPacket × UInt32)} {a : Action}
    (h : Sound log self) (hidle : self.Idle a) :
    Sound (log ++ (self.step a).2) (self.step a).1 := by
  obtain ⟨hlog, hcurrent⟩ := h
  unfold H264Encoder.step
  cases a with
  | encode timestampUs =>
    dsimp only [Idle] at hidle ⊢
    split <;> constructor <;> grind
  | push accepted =>
    dsimp only
    split
    · simpa using ⟨hlog, hcurrent⟩
    next frame pendingFrames heq =>
      have hframe : frame ∈ self.pendingFrames := by simp [heq]
      constructor <;> grind
  | output i buf isKey =>
    dsimp only
    split
    · simpa using ⟨hlog, hcurrent⟩
    next pts heq =>
      have hpts : pts ∈ self.codec := List.mem_of_getElem? heq
      constructor <;> grind [→ mem_onNewOutputBuffer, → List.mem_of_mem_eraseIdx]
  | codecData buf => constructor <;> grind [→ mem_onNewOutputBuffer]
  | pollOutput =>
    dsimp only
    split <;> constructor <;> grind [Stamped]
  | replace => constructor <;> grind

/-- **Timestamps.** In a run in which every frame finds the encoder idle, every packet is sent with
the timestamp of the frame that it encodes. -/
theorem stamped_of_idle {actions : List Action} (h : Along step Idle {} actions) :
    ∀ sent ∈ outputs step {} actions, Stamped sent := by
  have hinit : Sound [] {} := ⟨nofun, nofun⟩
  exact (h.run_of_step hinit fun _ _ _ hs hidle => hs.step hidle).1

theorem stamped_of_idle_two :
    let actions := [.encode 33000, .push true, .output 0 [1] true, .pollOutput, .encode 66000,
      .push true, .output 0 [2] false, .pollOutput]
    (outputs step {} actions).map Prod.snd = [2970, 5940] ∧
      ∀ sent ∈ outputs step {} actions, Stamped sent := by
  refine ⟨by decide, stamped_of_idle ⟨⟨rfl, rfl, rfl⟩, trivial, trivial, trivial, ?_⟩⟩
  exact ⟨⟨rfl, rfl, rfl⟩, trivial, trivial, trivial, trivial⟩

/-- The first frame comes out after its call, and is sent by the next. -/
theorem stamped_late : ∃ sent ∈ outputs step {} [.encode 0, .push true, .pollOutput,
    .output 0 [1] true, .encode 33000, .pollOutput], ¬Stamped sent := by
  refine ⟨_, List.mem_singleton.mpr rfl, ?_⟩
  change rtpTimestamp 33000 ≠ rtpTimestamp 0
  decide

end H264Encoder

end LiveKit.Ohos
