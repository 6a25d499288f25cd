import LiveKitRust.DataTrack.Packet

/-!
# End-to-end encryption

The providers an application plugs in (`e2ee.rs`). They are trait objects with a shared mutable
state: what a call returns may depend on anything at the time of the call. That is `ω`, an argument
of every call, and statements quantify over it.
-/

namespace LiveKit.DataTrack

structure EncryptedPayload where
  payload : Bytes
  iv : InitializationVector
  keyIndex : UInt8
  deriving DecidableEq

inductive EncryptionError where
  | failed
  deriving DecidableEq

inductive DecryptionError where
  | failed
  deriving DecidableEq

class EncryptionProvider (π ω : Type) where
  encrypt : π → ω → Bytes → Except EncryptionError EncryptedPayload

class DecryptionProvider (π ω : Type) where
  decrypt : π → ω → EncryptedPayload → String → Except DecryptionError Bytes

end LiveKit.DataTrack
