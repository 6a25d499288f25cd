import LiveKitRust.Rtp.Depacketizers
import Mathlib.Data.List.Infix

/-!
# The native video stream (`ohos/video_stream.rs`)

A stream takes the packets of a track in the order in which they arrive, puts VP8 frames together
(`Vp8FrameAssembler`) or leaves H.264 to its depacketizer, and hands what is complete to the decoder
of the codec. Which codec that is, is found out with the first packet, and corrected once if the
H.264 depacketizer cannot make anything of a packet.

What a step gets from outside are the packet, the mime type the track has at that moment, and
whether a decoder can be brought up. After a panic of a depacketizer the stream is left as it was
then; whether it is polled again is not its own business.
-/

open Rust

namespace LiveKit.Rtp

/-! ### VP8 frames -/

structure Vp8FrameAssembler where
  parser : Vp8Packet
  buffer : Bytes
  assembling : Bool
  skipUntilS : Bool
  deriving DecidableEq

namespace Vp8FrameAssembler

def default : Vp8FrameAssembler := ⟨.default, [], false, false⟩

/-- Reset the assembler state (called on RTP sequence gaps). -/
def reset (self : Vp8FrameAssembler) : Vp8FrameAssembler :=
  { self with buffer := [], assembling := false, skipUntilS := true }

/-- Take the data of a packet that is not skipped. -/
def accept (self : Vp8FrameAssembler) (hasSBit marker : Bool) (frameData : Bytes) :
    Vp8FrameAssembler × Bytes :=
  -- start of a new partition: flush any previously buffered data
  let self := if hasSBit then { self with assembling := true, buffer := [] } else self
  if self.assembling then
    let self := { self with buffer := self.buffer ++ frameData }
    if marker then ({ self with buffer := [], assembling := false }, self.buffer)
    else (self, [])
  else
    -- no S bit and not assembling: treat as a complete single-packet frame
    (self, frameData)

/-- Feed one RTP payload. Returns the complete assembled VP8 frame data when available, or nothing
when waiting for more fragments. -/
def feed (self : Vp8FrameAssembler) (payload : Bytes) (marker : Bool) :
    Vp8FrameAssembler × Outcome Error Bytes :=
  let (parser, depacketized) := self.parser.depacketize payload
  let self := { self with parser }
  match depacketized with
  | .err e => (self, .err e)
  | .panic => (self, .panic)
  | .ok frameData =>
    let hasSBit := startsPartition payload
    if self.skipUntilS && !hasSBit then (self, .ok [])
    else
      let (self, frame) := { self with skipUntilS := false }.accept hasSBit marker frameData
      (self, .ok frame)

section Feed

variable {s : Vp8FrameAssembler} {payload : Bytes} {marker : Bool}

def parsed (self : Vp8FrameAssembler) (payload : Bytes) : Vp8FrameAssembler :=
  { self with parser := (self.parser.depacketize payload).1 }

variable {data : Bytes}

lemma feed_of_taken (hok : (s.parser.depacketize payload).2 = .ok data)
    (htk : s.skipUntilS = true → startsPartition payload = true) : s.feed payload marker =
      (({ s.parsed payload with skipUntilS := false }.accept (startsPartition payload) marker
        data).1,
        .ok ({ s.parsed payload with skipUntilS := false }.accept (startsPartition payload) marker
          data).2) := by
  have hskip : ¬ (s.skipUntilS && !startsPartition payload) = true := by
    intro h
    rw [Bool.and_eq_true, Bool.not_eq_true'] at h
    rw [htk h.1] at h
    cases h.2
  unfold feed
  simp only [hok, if_neg hskip]
  rfl

lemma feed_of_skipped (hok : (s.parser.depacketize payload).2 = .ok data)
    (hskip : s.skipUntilS = true) (hnot : startsPartition payload = false) :
    s.feed payload marker = (s.parsed payload, .ok []) := by
  have hcond : (s.skipUntilS && !startsPartition payload) = true := by
    rw [hskip, hnot]
    rfl
  unfold feed
  simp only [hok, if_pos hcond]
  rfl

lemma feed_of_err {e} (herr : (s.parser.depacketize payload).2 = .err e) :
    s.feed payload marker = (s.parsed payload, .err e) := by
  unfold feed
  simp only [herr]
  rfl

end Feed

end Vp8FrameAssembler

/-! ### The stream -/

structure ReceivedRtpPacket where
  payloadType : UInt8
  sequenceNumber : UInt16
  timestamp : UInt32
  marker : Bool
  payload : Bytes
  deriving DecidableEq

inductive CodecType where
  | h264
  | vp8
  deriving DecidableEq

inductive DepacketizerType where
  | h264 (dep : H264Packet)
  | vp8 (dep : Vp8FrameAssembler)
  deriving DecidableEq

inductive DecoderType where
  | h264
  | vp8
  deriving DecidableEq

inductive Handed where
  | h264 (annexb : Bytes) (timestampUs : ℕ) (isKey : Bool)
  | vp8 (frame : Bytes) (timestampUs : ℕ)
  deriving DecidableEq

structure NativeVideoStream where
  depacketizer : DepacketizerType
  decoder : Option DecoderType
  decoderInitialized : Bool
  codecType : Option CodecType
  lastSeq : Option UInt16
  closed : Bool
  deriving DecidableEq

def VIDEO_CLOCK_RATE : ℕ := 90000

def annexbContainsIdr : Bytes → Bool
  | a :: b :: c :: d :: rest =>
    if a = 0 ∧ b = 0 ∧ c = 0 ∧ d = 1 then
      rest.head?.map naluType == some 5 || annexbContainsIdr rest
    else if a = 0 ∧ b = 0 ∧ c = 1 then naluType d == 5 || annexbContainsIdr (d :: rest)
    else annexbContainsIdr (b :: c :: d :: rest)
  | _ => false

def isH264Like (first : UInt8) : Bool :=
  let nalType := naluType first
  (1 ≤ nalType && nalType ≤ 5) || nalType == 24 || nalType == 28

def codecFromMime (mime : String) : Option CodecType :=
  let upper := mime.toUpper.toList
  if "VP8".toList <:+: upper then some .vp8
  else if "H264".toList <:+: upper then some .h264
  else none

namespace NativeVideoStream

def build : NativeVideoStream := ⟨.h264 .default, none, false, none, none, false⟩

/-- Map a well-known RTP payload type to its codec. -/
def codecFromPayloadType (pt : UInt8) : Option CodecType :=
  if pt = 96 then some .vp8 else if pt = 125 ∨ pt = 108 then some .h264 else none

variable (self : NativeVideoStream)

def setCodec : CodecType → NativeVideoStream
  | .h264 => { self with depacketizer := .h264 .default, codecType := some .h264 }
  | .vp8 => { self with depacketizer := .vp8 .default, codecType := some .vp8 }

def detectCodecType (explicitMime : Option String) (payloadType : UInt8)
    (payload : Bytes) : NativeVideoStream :=
  if self.codecType.isSome then self
  else
    match explicitMime.bind codecFromMime with
    | some codec => self.setCodec codec
    | none =>
      match codecFromPayloadType payloadType with
      | some codec => self.setCodec codec
      | none =>
        match payload with
        | first :: _ => self.setCodec (if isH264Like first then .h264 else .vp8)
        -- nothing to probe: default to H264
        | [] => { self with codecType := some .h264 }

def trackSequence (sequenceNumber : UInt16) : NativeVideoStream :=
  let depacketizer := match self.lastSeq, self.depacketizer with
    | some last, .vp8 assembler =>
      if sequenceNumber ≠ last + 1 then .vp8 assembler.reset else self.depacketizer
    | _, _ => self.depacketizer
  { self with depacketizer, lastSeq := some sequenceNumber }

def timestampUs (rtpTimestamp : UInt32) : ℕ := rtpTimestamp.toNat * 1000000 / VIDEO_CLOCK_RATE

/-- Wait for a keyframe before bringing the decoder up; `ready` says whether it can be. -/
def bringUp (decoder : DecoderType) (isKey ready : Bool) : Option NativeVideoStream :=
  if self.decoderInitialized then some self
  else if isKey && ready then some { self with decoder := some decoder, decoderInitialized := true }
  else none

def feedVp8Decoder (ready : Bool) (vp8Data : Bytes)
    (rtpTimestamp : UInt32) : NativeVideoStream × List Handed :=
  let isKey := vp8Data.length != 0 && vp8Data.getD 0 0 &&& 0x01 == 0
  match self.bringUp .vp8 isKey ready with
  | none => (self, [])
  | some self =>
    (self, if self.decoder = some .vp8 then [.vp8 vp8Data (timestampUs rtpTimestamp)] else [])

def feedH264Decoder (ready : Bool) (annexb : Bytes)
    (rtpTimestamp : UInt32) : NativeVideoStream × List Handed :=
  let firstNalType := ((annexb.drop (startCodeLen annexb)).head?.map naluType).getD 0
  -- SPS / PPS / IDR: any of these is enough to bootstrap the decoder
  let isKey :=
    firstNalType == 5 || firstNalType == 7 || firstNalType == 8 || annexbContainsIdr annexb
  match self.bringUp .h264 isKey ready with
  | none => (self, [])
  | some self =>
    (self,
      if self.decoder = some .h264 then [.h264 annexb (timestampUs rtpTimestamp) isKey] else [])

def feedDecoder (ready : Bool) (frameData : Bytes)
    (rtpTimestamp : UInt32) : NativeVideoStream × List Handed :=
  match self.codecType with
  | none => (self, [])
  | some .h264 => self.feedH264Decoder ready frameData rtpTimestamp
  | some .vp8 => self.feedVp8Decoder ready frameData rtpTimestamp

def depacketize (payload : Bytes) (marker : Bool) : NativeVideoStream × Outcome Error Bytes :=
  match self.depacketizer with
  | .h264 dep =>
    let (dep, depacketized) := dep.depacketize payload
    ({ self with depacketizer := .h264 dep }, depacketized)
  | .vp8 dep =>
    let (dep, depacketized) := dep.feed payload marker
    ({ self with depacketizer := .vp8 dep }, depacketized)

/-- Feed the decoder, unless the packet was in the middle of a frame. -/
def handOver (ready : Bool) (frameData : Bytes) (rtpTimestamp : UInt32) :
    NativeVideoStream × List Handed :=
  if frameData.length = 0 then (self, []) else self.feedDecoder ready frameData rtpTimestamp

def switchToVp8 : NativeVideoStream :=
  { self.setCodec .vp8 with decoder := none, decoderInitialized := false }

/-- Take a packet whose codec is known and whose number was looked at. -/
def processPayload (ready : Bool) (pkt : ReceivedRtpPacket) : NativeVideoStream × List Handed :=
  match pkt.payload with
  | [] => (self, [])
  | first :: _ =>
    match self.depacketize pkt.payload pkt.marker with
    | (self, .ok frameData) => self.handOver ready frameData pkt.timestamp
    | (self, .panic) => (self, [])
    | (self, .err _) =>
      -- the H264 depacketizer errs on what looks like VP8: retry the same packet with VP8
      if self.codecType = some .h264 ∧ isH264Like first = false then
        match self.switchToVp8.depacketize pkt.payload pkt.marker with
        | (self, .ok frameData) => self.handOver ready frameData pkt.timestamp
        | (self, _) => (self, [])
      else (self, [])

def processRtpPacket (explicitMime : Option String) (ready : Bool)
    (pkt : ReceivedRtpPacket) : NativeVideoStream × List Handed :=
  let self := self.detectCodecType explicitMime pkt.payloadType pkt.payload
  let self := self.trackSequence pkt.sequenceNumber
  self.processPayload ready pkt

def close : NativeVideoStream :=
  { self with closed := true, decoder := none }

inductive Input where
  | packet (explicitMime : Option String) (ready : Bool) (pkt : ReceivedRtpPacket)
  | close

def step : Input → NativeVideoStream × List Handed
  | .packet explicitMime ready pkt =>
    if self.closed then (self, []) else self.processRtpPacket explicitMime ready pkt
  | .close => (self.close, [])

end NativeVideoStream

end LiveKit.Rtp
