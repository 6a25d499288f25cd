import LiveKitRust.DataTrack.Packet

/-!
# Data tracks

What identifies a data track (`track.rs`, `frame.rs`): the SID the server gives it, the handle its
publisher gave it, its name, and whether its frames are encrypted end to end. The SID sits behind a
lock shared by everyone who holds the track, because a reconnect changes it: an info value here is
what the lock held when it was read.
-/

open Rust

namespace LiveKit.DataTrack

def SID_PREFIX : String := "DTR_"

structure DataTrackSid where
  raw : String
  hasPrefix : SID_PREFIX.toList <+: raw.toList
  deriving DecidableEq

inductive DataTrackSidError where
  | invalid
  deriving DecidableEq

def DataTrackSid.tryFrom (rawId : String) : Outcome DataTrackSidError DataTrackSid :=
  if h : SID_PREFIX.toList <+: rawId.toList then .ok ⟨rawId, h⟩ else .err .invalid

structure DataTrackInfo where
  sid : DataTrackSid
  pubHandle : Handle
  name : String
  usesE2ee : Bool
  deriving DecidableEq

structure DataTrackFrame where
  payload : Bytes
  userTimestamp : Option UInt64 := none
  deriving DecidableEq

end LiveKit.DataTrack
