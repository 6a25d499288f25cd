import LiveKitRust.Base.Fragments
import Mathlib.Algebra.Group.Nat.Defs

/-!
# Packets for media frames (`ohos/rtp_packetizer.rs`, `ohos/rtp_send_pipeline.rs`)

An encoded frame becomes one or more RTP payloads of a limited size: an H.264 frame by RFC 6184, as
single NAL units and FU-A fragments, and a VP8 frame by RFC 7741, with a descriptor before each
chunk. The loops that cut a NAL unit or a frame are the same but for the prefix of a chunk
(`Fragments.cut`). Each track has a pipeline that numbers the packets.
-/

open Fragments

namespace LiveKit.Rtp

abbrev Bytes := List UInt8

lemma forall_byte {P : UInt8 → Prop} (h : ∀ n < 256, P (UInt8.ofNat n)) (byte : UInt8) :
    P byte := by
  have hbyte := h byte.toNat byte.toNat_lt
  rwa [UInt8.ofNat_toNat] at hbyte

/-- Maximum RTP payload size to avoid IP fragmentation. -/
def MAX_RTP_PAYLOAD_SIZE : ℕ := 1200

def H264_NAL_TYPE_FU_A : UInt8 := 28

structure RtpFragment where
  payload : Bytes
  marker : Bool
  deriving DecidableEq

/-! ### H.264 -/

/-- The length of the start code at the front, or zero. -/
def startCodeLen : Bytes → ℕ
  | a :: b :: c :: rest =>
    if a = 0 ∧ b = 0 then
      if c = 1 then 3
      else
        match rest with
        | d :: _ => if c = 0 ∧ d = 1 then 4 else 0
        | [] => 0
    else 0
  | _ => 0

/-- What is read since the last start code, unless it is nothing. -/
def flush : Option Bytes → List Bytes
  | some nalu => if nalu.length = 0 then [] else [nalu]
  | none => []

/-- The scan of `split_annexb_nalus`: `nalu` is what was read since the last start code, if there
was one, and `rest` is to be read. -/
def scan (nalu : Option Bytes) (rest : Bytes) : List Bytes :=
  match rest with
  | [] => flush nalu
  | byte :: more =>
    if startCodeLen (byte :: more) = 0 then scan (nalu.map (· ++ [byte])) more
    else flush nalu ++ scan (some []) ((byte :: more).drop (startCodeLen (byte :: more)))
termination_by rest.length
decreasing_by
  · exact Nat.lt_succ_self _
  · rw [List.length_drop, List.length_cons]
    omega

def splitAnnexbNalus (data : Bytes) : List Bytes :=
  let nalus := scan none data
  -- no start code found: treat entire buffer as one NALU
  if nalus.length = 0 ∧ data.length ≠ 0 then [data] else nalus

def naluType (header : UInt8) : UInt8 := header &&& 0x1F

def isPicture : Bytes → Bool
  | [] => false
  | header :: _ => 1 ≤ naluType header && naluType header ≤ 5

def findLastPictureNalu (nalus : List Bytes) : Option ℕ :=
  nalus.zipIdx.reverse.findSome? fun entry => if isPicture entry.1 then some entry.2 else none

def fuaFragment (naluHeader : UInt8) (isLastPictureOfFrame isFirst isLast : Bool)
    (chunk : Bytes) : RtpFragment :=
  let fuIndicator := (naluHeader &&& 0xE0) ||| H264_NAL_TYPE_FU_A
  let fuHeader := naluType naluHeader
  let fuHeader := if isFirst then fuHeader ||| 0x80 else fuHeader
  let fuHeader := if isLast then fuHeader ||| 0x40 else fuHeader
  ⟨fuIndicator :: fuHeader :: chunk, isLast && isLastPictureOfFrame⟩

def packH264Fua (nalu : Bytes) (isLastPictureOfFrame : Bool) : List RtpFragment :=
  match nalu with
  | [] => []
  | naluHeader :: rest =>
    cut (MAX_RTP_PAYLOAD_SIZE - 2) (by decide) (fuaFragment naluHeader isLastPictureOfFrame)
      true rest

def packH264Nalu (nalu : Bytes) (isLastPicture : Bool) : List RtpFragment :=
  if nalu.length = 0 then []
  else if nalu.length ≤ MAX_RTP_PAYLOAD_SIZE then [⟨nalu, isLastPicture⟩]
  else packH264Fua nalu isLastPicture

def packH264Frame (annexbData : Bytes) : List RtpFragment :=
  let nalus := splitAnnexbNalus annexbData
  let lastPictureIdx := findLastPictureNalu nalus
  nalus.zipIdx.flatMap fun entry => packH264Nalu entry.1 (some entry.2 = lastPictureIdx)

/-! ### VP8 -/

/-- The RFC 7741 Payload Descriptor. -/
def vp8Descriptor (pictureId : UInt16) (isFirst : Bool) : Bytes :=
  -- X=1, N=0, PartID=0, and S=1 on the first fragment
  let firstByte : UInt8 := 0x90
  let firstByte := if isFirst then firstByte else firstByte &&& ~~~0x10
  if pictureId < 128 then [firstByte, 0x80, pictureId.toUInt8]
  else [firstByte, 0x80, (0x80 : UInt8) ||| ((pictureId >>> 8).toUInt8 &&& 0x7F), pictureId.toUInt8]

def vp8Fragment (pictureId : UInt16) (isFirst isLast : Bool) (chunk : Bytes) : RtpFragment :=
  ⟨vp8Descriptor pictureId isFirst ++ chunk, isLast⟩

def vp8DescSize (pictureId : UInt16) : ℕ := if pictureId < 128 then 3 else 4

lemma vp8DescSize_lt (pid : UInt16) : vp8DescSize pid < MAX_RTP_PAYLOAD_SIZE := by
  unfold vp8DescSize
  split <;> decide

def packVp8Frame (vp8Data : Bytes) (pictureId : UInt16) : List RtpFragment :=
  cut (MAX_RTP_PAYLOAD_SIZE - vp8DescSize pictureId) (Nat.sub_pos_of_lt (vp8DescSize_lt pictureId))
    (vp8Fragment pictureId) true vp8Data

/-! ### Packets -/

structure RtpPacketData where
  payloadType : UInt8
  sequenceNumber : UInt16
  timestamp : UInt32
  ssrc : UInt32
  marker : Bool
  payload : Bytes
  deriving DecidableEq

/-- Convert fragments into packets with sequential numbering; the first number is the one after
`seq`, and the last one is returned. -/
def fragmentsToPackets (payloadType : UInt8) (ssrc timestamp : UInt32) :
    List RtpFragment → UInt16 → List RtpPacketData × UInt16
  | [], seq => ([], seq)
  | frag :: frags, seq =>
    let seq := seq + 1
    let (packets, last) := fragmentsToPackets payloadType ssrc timestamp frags seq
    (⟨payloadType, seq, timestamp, ssrc, frag.marker, frag.payload⟩ :: packets, last)

/-! ### The pipeline of a track -/

inductive Codec where
  | h264
  | vp8
  deriving DecidableEq

/-- `codec.to_ascii_uppercase()`, matched with the names of the codecs. -/
def Codec.ofString (codec : String) : Option Codec :=
  let upper := codec.toUpper
  if upper = "H264" then some .h264 else if upper = "VP8" then some .vp8 else none

structure RtpSendPipeline where
  trackId : String
  ssrc : UInt32
  payloadType : UInt8
  payloadTypeVp8 : UInt8
  vp8PictureId : UInt16
  clockRate : UInt32
  sequenceNumber : UInt16
  sendFailCount : ℕ

/-- `u64::saturating_mul`, then the quotient as a `u32`. -/
def msToRtpTimestamp (timestampMs : ℕ) (clockRate : UInt32) : UInt32 :=
  UInt32.ofNat (min (timestampMs * clockRate.toNat) (2 ^ 64 - 1) / 1000)

namespace RtpSendPipeline

/-- The packets of an encoded frame, and the pipeline with its counters moved on. -/
def packetize (self : RtpSendPipeline) (data : Bytes) (timestampMs : ℕ) (codec : Codec) :
    RtpSendPipeline × List RtpPacketData :=
  let (self, pt, fragments) : RtpSendPipeline × UInt8 × List RtpFragment := match codec with
    | .h264 => (self, self.payloadType, packH264Frame data)
    | .vp8 =>
      ({ self with vp8PictureId := (self.vp8PictureId + 1) &&& 0x7FFF }, self.payloadTypeVp8,
        packVp8Frame data self.vp8PictureId)
  let packed := fragmentsToPackets pt self.ssrc (msToRtpTimestamp timestampMs self.clockRate)
    fragments self.sequenceNumber
  ({ self with sequenceNumber := packed.2 }, packed.1)

/-- Send an encoded video frame: the packets that the driver gets, and their number. `isOpen` says
whether the driver is there to take them. -/
def sendEncodedVideo (self : RtpSendPipeline) (isOpen : Bool) (data : Bytes) (timestampMs : ℕ)
    (codec : String) : RtpSendPipeline × List RtpPacketData × Except String ℕ :=
  match Codec.ofString codec with
  | none => (self, [], .error ("unsupported video codec: " ++ codec.toUpper))
  | some codec =>
    let (self, packets) := self.packetize data timestampMs codec
    if packets.length = 0 then (self, [], .ok 0)
    else if isOpen then (self, packets, .ok packets.length)
    else
      let self := { self with sendFailCount := self.sendFailCount + 1 }
      (self, [], .error ("rtc-io driver closed (track=" ++ self.trackId ++ ", failures=" ++
        toString self.sendFailCount ++ ")"))

end RtpSendPipeline

end LiveKit.Rtp
