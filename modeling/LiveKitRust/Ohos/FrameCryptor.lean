import Mathlib.Data.Vector.Defs
import LiveKitRust.Room.Encryption

/-!
# Encryption of media (`room/e2ee/manager.rs`, `ohos/frame_cryptor.rs`)

The manager makes a `FrameCryptor` for the sender of a published track, and enables it while
encryption is on. On OHOS this cryptor does not know the sender (`new_for_rtp_sender` drops it).
The frames go another way: a source gives what its encoder yields (`encode_and_send`), and what
the application has encoded itself (`send_encoded_frame`), to the `RtpSendPipeline` that it is bound
to, as it is. Nothing on that way calls `encrypt_frame`.

So every frame that a bound source sends while a cryptor for its sender is enabled is one that
should have been encrypted and was not, and the media of a run are confidential if and only if
there is no such frame (`confidential_iff`).
-/

open Machine

namespace LiveKit.Ohos

/-- `aes_gcm` and `sha2`. A cipher takes the key, the nonce and the payload. -/
structure Crypto where
  aes128Gcm : List UInt8 → List UInt8 → List UInt8 → Except String (List UInt8)
  aes256Gcm : List UInt8 → List UInt8 → List UInt8 → Except String (List UInt8)
  sha256 : List UInt8 → List UInt8

/-- The ciphers put a tag of 16 bytes behind the ciphertext, which is as long as the payload. -/
def Crypto.Tagged (crypto : Crypto) : Prop :=
  ∀ key nonce payload result, crypto.aes128Gcm key nonce payload = .ok result ∨
    crypto.aes256Gcm key nonce payload = .ok result → result.length = payload.length + 16

inductive EncryptionAlgorithm where
  | aesGcm
  | aesCbc

inductive EncryptionState where
  | encryptionFailed
  | missingKey

/-- The blocks after the first one, for keys which are longer than that. -/
def Crypto.chain (crypto : Crypto) (salt prev : List UInt8) : ℕ → List UInt8
  | 0 => []
  | n + 1 => crypto.sha256 (salt ++ prev) ++ crypto.chain salt (crypto.sha256 (salt ++ prev)) n

def Crypto.deriveKey (crypto : Crypto) (currentKey salt : List UInt8) : List UInt8 :=
  let first := crypto.sha256 (salt ++ currentKey)
  -- there are more blocks than the loop makes, and the end is cut off
  (first ++ crypto.chain salt first currentKey.length).take currentKey.length

structure KeyProvider where
  ratchetSalt : List UInt8
  sharedKeys : Map Int32 (List UInt8)
  participantKeys : Map (String × Int32) (List UInt8)

namespace KeyProvider

variable (self : KeyProvider)

def setSharedKey (keyIndex : Int32) (key : List UInt8) : KeyProvider :=
  { self with sharedKeys := self.sharedKeys.insert keyIndex key }

def ratchetSharedKey (crypto : Crypto) (keyIndex : Int32) : KeyProvider :=
  match self.sharedKeys.lookup keyIndex with
  | some current => self.setSharedKey keyIndex (crypto.deriveKey current self.ratchetSalt)
  | none => self

def setKey (participantId : String) (keyIndex : Int32) (key : List UInt8) : KeyProvider :=
  { self with participantKeys := self.participantKeys.insert (participantId, keyIndex) key }

def ratchetKey (crypto : Crypto) (participantId : String) (keyIndex : Int32) : KeyProvider :=
  match self.participantKeys.lookup (participantId, keyIndex) with
  | some current => self.setKey participantId keyIndex (crypto.deriveKey current self.ratchetSalt)
  | none => self

def getKeyForEncrypt (participantId : String) (keyIndex : Int32) : Except String (List UInt8) :=
  match (self.sharedKeys.lookup keyIndex).or
    (self.participantKeys.lookup (participantId, keyIndex)) with
  | some key => .ok key
  | none => .error "no encryption key available"

end KeyProvider

structure FrameCryptor where
  participantId : String
  enabled : Bool
  keyIndex : Int32
  algorithm : EncryptionAlgorithm
  /-- The sender the cryptor was made for, `none` if it was made for a receiver. The source
  does not keep it, and no function here reads it. -/
  sender : Option String

/-- Encrypt a frame with a new nonce. An error comes with the state that is reported. -/
def FrameCryptor.encryptFrame (self : FrameCryptor) (crypto : Crypto) (keys : KeyProvider)
    (iv : List.Vector UInt8 12) (payload : List UInt8) :
    Except (EncryptionState × String) (List UInt8) :=
  if !self.enabled then .ok payload
  else match keys.getKeyForEncrypt self.participantId self.keyIndex with
    | .error e => .error (.missingKey, e)
    | .ok key =>
      let ciphertext := match self.algorithm with
        | .aesGcm =>
          if key.length = 16 then
            (crypto.aes128Gcm key iv.1 payload).mapError ("encrypt failed: " ++ ·)
          else if 32 ≤ key.length then
            (crypto.aes256Gcm (key.take 32) iv.1 payload).mapError ("encrypt failed: " ++ ·)
          else .error s!"unsupported AES-GCM key length: {key.length}"
        | .aesCbc => .error "AES-CBC is not supported on OHOS"
      match ciphertext with
      | .error e => .error (.encryptionFailed, e)
      | .ok result => .ok (result ++ iv.1 ++ [self.keyIndex.toInt8.toUInt8])

lemma ok_of_mapError {α ε ε' : Type} {f : ε → ε'} {x : Except ε α} {a : α}
    (h : x.mapError f = .ok a) : x = .ok a := by
  cases x with
  | error => cases h
  | ok => cases h; rfl

lemma FrameCryptor.ciphertext_of_encryptFrame {s : FrameCryptor} {crypto : Crypto}
    {keys : KeyProvider} {iv : List.Vector UInt8 12} {payload data : List UInt8}
    (henabled : s.enabled = true) (h : s.encryptFrame crypto keys iv payload = .ok data) :
    ∃ key result, (crypto.aes128Gcm key iv.1 payload = .ok result ∨
      crypto.aes256Gcm key iv.1 payload = .ok result) ∧ data.length = result.length + 13 := by
  rw [encryptFrame, henabled, Bool.not_true, if_neg Bool.false_ne_true] at h
  split at h
  · cases h
  next key _ =>
    dsimp only at h
    split at h
    · cases h
    next result hresult =>
      cases h
      have hlength : (result ++ iv.1 ++ [s.keyIndex.toInt8.toUInt8]).length =
          result.length + 13 := by
        rw [List.length_append, List.length_append, iv.2, List.length_singleton]
      -- the key is that of the provider, or its first 32 bytes
      split at hresult
      · split at hresult
        · exact ⟨key, result, .inl (ok_of_mapError hresult), hlength⟩
        · split at hresult
          · exact ⟨key.take 32, result, .inr (ok_of_mapError hresult), hlength⟩
          · cases hresult
      · cases hresult

/-- An encoded frame: the sender of the track it belongs to, what the source had, and what it has
given to the pipeline. -/
structure Frame where
  sender : String
  encoded : List UInt8
  data : List UInt8

/-! ### The sources -/

/-- The calls by which a source comes to send. The encoders are not part of the model: a capture
has what they yield. -/
inductive Capture where
  /-- `encode_and_send` of a `NativeVideoSource`; its encoder may yield nothing, or fail. -/
  | video (encoded : Option (List UInt8))
  /-- `encode_and_send` of a `NativeAudioSource`, which has encoded some frames. -/
  | audio (encoded : List (List UInt8))
  | sendEncodedFrame (data : List UInt8)

/-- The frames that a source has got to send. -/
def Capture.frames : Capture → List (List UInt8)
  | .video encoded => encoded.toList
  | .audio encoded => encoded
  | .sendEncodedFrame data => [data]

/-- What `send_encoded_video` and `send_encoded_audio` are called with. -/
def Capture.send (sender : String) (bound : Bool) : Capture → List Frame
  | .video none => []
  -- without a pipeline there is a line in the log at most
  | .video (some data) => if bound then [⟨sender, data, data⟩] else []
  | .audio encoded =>
    if encoded.isEmpty then []
    else if bound then encoded.map fun data => ⟨sender, data, data⟩ else []
  -- without a pipeline it returns `InvalidState`
  | .sendEncodedFrame data => if bound then [⟨sender, data, data⟩] else []

/-- A bound source sends all it has got, as it is. -/
lemma Capture.send_eq (sender : String) (bound : Bool) (c : Capture) :
    c.send sender bound = if bound then c.frames.map fun data => ⟨sender, data, data⟩ else [] := by
  cases c with
  | video encoded => cases encoded <;> simp [send, frames]
  | audio encoded =>
    simp only [send, frames]
    split
    next h => simp [List.isEmpty_iff.mp h]
    · rfl
  | sendEncodedFrame => rfl

/-- The E2EE manager, with the cryptors it has made and the senders whose sources are bound to
a pipeline. The cryptors are shared objects: an application may still have one that is no
longer in the map. -/
structure E2eeManager where
  options : Option KeyProvider
  enabled : Bool
  cryptors : List FrameCryptor
  /-- Which of the cryptors it is, by the identity of the participant and the SID. -/
  frameCryptors : Map (String × String) ℕ
  bound : List String

namespace E2eeManager

def new (options : Option KeyProvider) : E2eeManager := ⟨options, options.isSome, [], ∅, []⟩

inductive Input where
  /-- `on_local_track_published`, or `on_track_subscribed`, which is without a sender. -/
  | published (identity sid : String) (sender : Option String) (encryption : Room.EncryptionType)
  | unpublished (identity sid : String)
  | setEnabled (enabled : Bool)
  | cleanup
  | cryptorSetEnabled (cryptor : ℕ) (enabled : Bool)
  | cryptorSetKeyIndex (cryptor : ℕ) (index : Int32)
  | setSharedKey (keyIndex : Int32) (key : List UInt8)
  | ratchetSharedKey (keyIndex : Int32)
  | setKey (participantId : String) (keyIndex : Int32) (key : List UInt8)
  | ratchetKey (participantId : String) (keyIndex : Int32)
  /-- A track is added to the peer connection, and its source bound to a pipeline. -/
  | bindRtpPipeline (sender : String)
  /-- The source of the sender's track comes to send. -/
  | capture (sender : String) (capture : Capture)

section

variable (self : E2eeManager)

/-- `setup_rtp_sender` and `setup_rtp_receiver`, which differ in what the cryptor drops. -/
def setup (participantId : String) (sender : Option String) : FrameCryptor :=
  ⟨participantId, self.enabled, 0, .aesGcm, sender⟩

def onPublished (identity sid : String) (sender : Option String)
    (encryption : Room.EncryptionType) : E2eeManager :=
  if self.options.isNone ∨ encryption = .none then self
  else { self with
    cryptors := self.cryptors ++ [self.setup identity sender]
    frameCryptors := self.frameCryptors.insert (identity, sid) self.cryptors.length }

def setCryptors (enabled : Bool) : List FrameCryptor :=
  self.cryptors.mapIdx fun n cryptor =>
    if self.frameCryptors.entries.any (·.2 = n) then { cryptor with enabled } else cryptor

def setEnabled (enabled : Bool) : E2eeManager :=
  if self.enabled = enabled then self
  else { self with enabled, cryptors := self.setCryptors enabled }

def onKeys (f : KeyProvider → KeyProvider) : E2eeManager :=
  { self with options := self.options.map f }

def step (crypto : Crypto) : Input → E2eeManager × List Frame
  | .published identity sid sender encryption =>
    (self.onPublished identity sid sender encryption, [])
  | .unpublished identity sid =>
    ({ self with frameCryptors := self.frameCryptors.erase (identity, sid) }, [])
  | .setEnabled enabled => (self.setEnabled enabled, [])
  | .cleanup => ({ self with cryptors := self.setCryptors false, frameCryptors := ∅ }, [])
  | .cryptorSetEnabled n enabled =>
    ({ self with cryptors := self.cryptors.modify n ({ · with enabled }) }, [])
  | .cryptorSetKeyIndex n keyIndex =>
    ({ self with cryptors := self.cryptors.modify n ({ · with keyIndex }) }, [])
  | .setSharedKey keyIndex key => (self.onKeys (·.setSharedKey keyIndex key), [])
  | .ratchetSharedKey keyIndex => (self.onKeys (·.ratchetSharedKey crypto keyIndex), [])
  | .setKey id keyIndex key => (self.onKeys (·.setKey id keyIndex key), [])
  | .ratchetKey id keyIndex => (self.onKeys (·.ratchetKey crypto id keyIndex), [])
  | .bindRtpPipeline sender => ({ self with bound := sender :: self.bound }, [])
  | .capture sender capture => (self, capture.send sender (sender ∈ self.bound))

/-- An enabled cryptor that was made for the sender. -/
def Guards (sender : String) (cryptor : FrameCryptor) : Prop :=
  cryptor.sender = some sender ∧ cryptor.enabled = true
  deriving Decidable

/-- If there is an enabled cryptor for the sender, what has gone to the pipeline is what such a
cryptor makes of the encoded frame with the keys as they are. -/
def Protected (crypto : Crypto) (frame : Frame) : Prop :=
  (∃ cryptor ∈ self.cryptors, Guards frame.sender cryptor) →
    ∃ cryptor ∈ self.cryptors, ∃ keys iv, Guards frame.sender cryptor ∧ self.options = some keys ∧
      cryptor.encryptFrame crypto keys iv frame.encoded = .ok frame.data

/-- Every frame that goes to a pipeline in the run is protected. -/
def Confidential (crypto : Crypto) (inputs : List Input) : Prop :=
  Along (step · crypto) (fun self input => ∀ frame ∈ (self.step crypto input).2,
    self.Protected crypto frame) self inputs

/-- No frame comes to a bound source while an enabled cryptor for its sender exists. -/
def Unguarded : Input → Prop
  | .capture sender capture => capture.frames ≠ [] → sender ∈ self.bound →
      ¬ ∃ cryptor ∈ self.cryptors, Guards sender cryptor
  | _ => True

instance (input : Input) : Decidable (self.Unguarded input) := by
  unfold Unguarded
  split <;> infer_instance

end

variable {s : E2eeManager} {crypto : Crypto}

/-- What a cipher makes of a frame is longer than the frame. -/
lemma not_protected (hcrypto : crypto.Tagged) {frame : Frame} (hdata : frame.data = frame.encoded)
    (hguarded : ∃ cryptor ∈ s.cryptors, Guards frame.sender cryptor) :
    ¬ s.Protected crypto frame := by
  intro hprotected
  obtain ⟨cryptor, -, keys, iv, hguards, -, hencrypt⟩ := hprotected hguarded
  obtain ⟨key, result, hresult, hlength⟩ :=
    FrameCryptor.ciphertext_of_encryptFrame hguards.2 hencrypt
  have := hcrypto key iv.1 frame.encoded result hresult
  rw [hdata] at hlength
  omega

lemma protected_step_iff (hcrypto : crypto.Tagged) (i : Input) :
    (∀ frame ∈ (s.step crypto i).2, s.Protected crypto frame) ↔ s.Unguarded i := by
  cases i with
  | capture sender c =>
    simp only [step, Capture.send_eq, decide_eq_true_eq, Unguarded]
    constructor
    · intro h hframes hbound hguarded
      obtain ⟨data, hdata⟩ := List.exists_mem_of_ne_nil _ hframes
      rw [if_pos hbound] at h
      exact not_protected hcrypto rfl hguarded (h ⟨sender, data, data⟩ (List.mem_map_of_mem hdata))
    · intro h frame hm hguarded
      split at hm
      next hbound =>
        obtain ⟨data, hdata, rfl⟩ := List.mem_map.mp hm
        exact absurd hguarded (h (List.ne_nil_of_mem hdata) hbound)
      · cases hm
  | _ => exact iff_of_true (fun _ hm => by cases hm) trivial

/-- **Encryption of media has no effect.** The frames of a run are protected if and only if none
comes to a source with a pipeline while an enabled cryptor for its sender exists. -/
theorem confidential_iff (self : E2eeManager) (crypto : Crypto) (hcrypto : crypto.Tagged)
    (inputs : List Input) : self.Confidential crypto inputs ↔
      Along (step · crypto) Unguarded self inputs := by
  unfold Confidential
  simp only [along_iff_forall, protected_step_iff hcrypto]

/-- Frames are sent before the track is published, and while its cryptor is disabled. -/
theorem confidential_iff_disabled :
    let crypto : Crypto := ⟨fun _ _ payload => .ok (payload ++ List.replicate 16 0),
      fun _ _ payload => .ok (payload ++ List.replicate 16 0), fun _ => List.replicate 32 0⟩
    (new (some ⟨[], ∅, ∅⟩)).Confidential crypto
      [.setSharedKey 0 (List.replicate 16 7), .bindRtpPipeline "sender",
        .capture "sender" (.video (some [1, 2, 3])), .published "me" "TR_a" (some "sender") .gcm,
        .capture "other" (.audio [[4]]), .setEnabled false,
        .capture "sender" (.audio [[5, 6], [7]])] := by
  refine (confidential_iff _ _ ?_ _).mpr (by decide +kernel)
  rintro _ _ payload _ (h | h) <;> cases h <;> simp

/-- With encryption on and a key set, a frame from the encoder goes out as it is. -/
theorem plaintext_forwarded : ¬ ∃ crypto, (new (some ⟨[], ∅, ∅⟩)).Confidential crypto
    [.setSharedKey 0 (List.replicate 16 7), .bindRtpPipeline "sender",
      .published "me" "TR_a" (some "sender") .gcm,
      .capture "sender" (.video (some [1, 2, 3]))] := by
  rintro ⟨_, -, -, -, hf, -⟩
  obtain ⟨_, _, _, _, hguards, -, hencrypt⟩ :=
    hf ⟨"sender", [1, 2, 3], [1, 2, 3]⟩ (.head _) ⟨_, .head _, rfl, rfl⟩
  obtain ⟨_, _, _, hlength⟩ := FrameCryptor.ciphertext_of_encryptFrame hguards.2 hencrypt
  simp at hlength

end E2eeManager

end LiveKit.Ohos
