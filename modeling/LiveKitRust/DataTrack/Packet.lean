import LiveKitRust.Base.Bytes

/-!
# Data-track packets

The packet a data track is cut into (`packet/mod.rs`, `packet/extension.rs`, `packet/handle.rs`): a
header with the frame marker, the track handle, two wrapping counters, a 90 kHz timestamp and up to
two extensions, followed by the payload. A `Handle` carries the proof that it is not zero, and an
initialization vector that it has twelve bytes.
-/

open Rust

namespace LiveKit.DataTrack

/-- `Bytes`: a payload or a serialized packet. -/
abbrev Bytes := List UInt8

/-! ### Track handles -/

structure Handle where
  value : UInt16
  ne_zero : value ≠ 0
  deriving DecidableEq

inductive HandleError where
  | reserved (value : UInt16)
  deriving DecidableEq

namespace Handle

def tryFromU16 (value : UInt16) : Outcome HandleError Handle :=
  if h : value = 0 then .err (.reserved value) else .ok ⟨value, h⟩

@[simp] lemma tryFromU16_value (h : Handle) : tryFromU16 h.value = .ok h := dif_neg h.ne_zero

def one : Handle := ⟨1, by decide⟩

def two : Handle := ⟨2, by decide⟩

end Handle

/-- Linear allocator of handles for publishing; handles are not reused. -/
structure HandleAllocator where
  value : UInt16 := 0
  deriving DecidableEq

/-- `HandleAllocator::get`: the next value, unless the counter is exhausted. -/
def HandleAllocator.get (self : HandleAllocator) : Option Handle × HandleAllocator :=
  if h : self.value.toNat + 1 < 2 ^ 16 then (some ⟨UInt16.ofNat (self.value.toNat + 1), by
      intro h0
      have h_nat := congrArg UInt16.toNat h0
      rw [UInt16.toNat_ofNat', Nat.mod_eq_of_lt h] at h_nat
      simp at h_nat⟩, ⟨UInt16.ofNat (self.value.toNat + 1)⟩)
  else (none, self)

/-! ### Header and extensions -/

inductive FrameMarker where
  | start
  | inter
  | final
  | single
  deriving DecidableEq

/-- Packet-level timestamp, in ticks of a clock of the given rate. -/
structure Timestamp (RATE : ℕ) where
  asTicks : UInt32
  deriving DecidableEq

abbrev InitializationVector := List.Vector UInt8 12

structure UserTimestampExt where
  value : UInt64
  deriving DecidableEq

structure E2eeExt where
  keyIndex : UInt8
  iv : InitializationVector
  deriving DecidableEq

structure Extensions where
  userTimestamp : Option UserTimestampExt := none
  e2ee : Option E2eeExt := none
  deriving DecidableEq

structure Header where
  marker : FrameMarker
  trackHandle : Handle
  sequence : UInt16
  frameNumber : UInt16
  timestamp : Timestamp 90000
  extensions : Extensions
  deriving DecidableEq

structure Packet where
  header : Header
  payload : Bytes
  deriving DecidableEq

/-! ### Constants of the wire format -/

abbrev ExtensionTag := UInt8

def UserTimestampExt.TAG : ExtensionTag := 2
def UserTimestampExt.LEN : ℕ := 8

def E2eeExt.TAG : ExtensionTag := 1
def E2eeExt.LEN : ℕ := 13

namespace Consts

def SUPPORTED_VERSION : UInt8 := 0
def BASE_HEADER_LEN : ℕ := 12

def VERSION_SHIFT : UInt8 := 5
def VERSION_MASK : UInt8 := 0x07

def FRAME_MARKER_SHIFT : UInt8 := 3
def FRAME_MARKER_MASK : UInt8 := 0x3

def FRAME_MARKER_START : UInt8 := 0x2
def FRAME_MARKER_FINAL : UInt8 := 0x1
def FRAME_MARKER_INTER : UInt8 := 0x0
def FRAME_MARKER_SINGLE : UInt8 := 0x3

def EXT_WORDS_INDICATOR_SIZE : ℕ := 2
def EXT_FLAG_SHIFT : UInt8 := 0x2
def EXT_FLAG_MASK : UInt8 := 0x1
def EXT_MARKER_LEN : ℕ := 2
def EXT_TAG_PADDING : UInt8 := 0

end Consts

end LiveKit.DataTrack
