import LiveKitRust.Ohos.FrameCryptor

/-!
# Keys for outgoing data (`room/e2ee/key_provider.rs`, `room/e2ee/data_track.rs`)

`KeyProvider` has the keys of each participant, but one index only: that of the last key set for
anybody. Data is encrypted with the sender's key of that index, so that it is the sender's last
key only if nobody else was given one of another index meanwhile (`dataKey_own_iff`).
-/

open List

namespace LiveKit.Room

/-- The handle is the key provider of `ohos/frame_cryptor.rs`. -/
structure KeyProvider where
  handle : Ohos.KeyProvider
  latestKeyIndex : Int32

structure EncryptedPacket where
  data : List UInt8
  iv : List UInt8
  keyIndex : UInt32

structure SetKey where
  identity : String
  keyIndex : Int32
  key : List UInt8

namespace KeyProvider

variable (self : KeyProvider)

def new (ratchetSalt : List UInt8) : KeyProvider := ⟨⟨ratchetSalt, ∅, ∅⟩, 0⟩

def setKey (call : SetKey) : KeyProvider :=
  ⟨self.handle.setKey call.identity call.keyIndex call.key, call.keyIndex⟩

/-- The index that `publish_data` and `DataTrackEncryptionProvider::encrypt` ask for, and the key
that `DataPacketCryptor::encrypt` finds for it: a shared one before one of the sender's own. -/
def dataKey (identity : String) : UInt32 × Option (List UInt8) :=
  let keyIndex := self.latestKeyIndex.toUInt32
  (keyIndex, (self.handle.sharedKeys.lookup keyIndex.toInt32).or
    (self.handle.participantKeys.lookup (identity, keyIndex.toInt32)))

/-- `E2eeManager::encrypt_data`. -/
def encryptData (crypto : Ohos.Crypto) (iv : List.Vector UInt8 12) (identity : String)
    (data : List UInt8) : Except String EncryptedPacket :=
  match self.dataKey identity with
  | (_, none) => .error "no key available"
  | (keyIndex, some key) =>
    let ciphertext :=
      if key.length = 16 then (crypto.aes128Gcm key iv.1 data).mapError ("encrypt failed: " ++ ·)
      else if 32 ≤ key.length then
        (crypto.aes256Gcm (key.take 32) iv.1 data).mapError ("encrypt failed: " ++ ·)
      else .error s!"unsupported AES-GCM key length: {key.length}"
    ciphertext.map fun data => ⟨data, iv.1, keyIndex⟩

variable {self} {calls : List SetKey} {identity : String}

lemma sharedKeys_setKeys : (calls.foldl setKey self).handle.sharedKeys =
    self.handle.sharedKeys := by
  induction calls generalizing self with
  | nil => rfl
  | cons _ _ ih => exact ih

lemma latestKeyIndex_setKeys : (calls.foldl setKey self).latestKeyIndex =
    (calls.getLast?.map (·.keyIndex)).getD self.latestKeyIndex := by
  induction calls using reverseRecOn with
  | nil => rfl
  | append_singleton => rw [foldl_concat, getLast?_concat]; rfl

lemma lookup_setKeys (h : ∀ call ∈ calls, call.identity ≠ identity) (keyIndex : Int32) :
    (calls.foldl setKey self).handle.participantKeys.lookup (identity, keyIndex) =
      self.handle.participantKeys.lookup (identity, keyIndex) := by
  induction calls generalizing self with
  | nil => rfl
  | cons call _ ih =>
    rw [foldl_cons, ih fun other hm => h other (mem_cons_of_mem call hm)]
    refine AList.lookup_insert_ne fun heq => ?_
    exact h call (.head _) (Prod.mk.inj heq).1.symm

/-- **The sender's key.** Data is encrypted with the last key set for the sender, under its
index, if and only if the last key that was set at all has that index. -/
theorem dataKey_own_iff (ratchetSalt : List UInt8) (before after : List SetKey) (own : SetKey)
    (h : ∀ call ∈ after, call.identity ≠ own.identity) :
    ((before ++ own :: after).foldl setKey (new ratchetSalt)).dataKey own.identity =
        (own.keyIndex.toUInt32, some own.key) ↔
      ∀ call, after.getLast? = some call → call.keyIndex = own.keyIndex := by
  rw [foldl_append, foldl_cons]
  generalize hprov : before.foldl setKey (new ratchetSalt) = provider
  have hshared : (after.foldl setKey (provider.setKey own)).handle.sharedKeys = ∅ := by
    rw [sharedKeys_setKeys, ← hprov]
    exact sharedKeys_setKeys
  have hlatest : (∀ call, after.getLast? = some call → call.keyIndex = own.keyIndex) ↔
      (after.foldl setKey (provider.setKey own)).latestKeyIndex = own.keyIndex := by
    rw [latestKeyIndex_setKeys]
    cases after.getLast? with
    | none => exact iff_of_true nofun rfl
    | some last =>
      exact ⟨fun hlast => hlast last rfl, fun hlast _ heq => Option.some.inj heq ▸ hlast⟩
  rw [hlatest]
  constructor
  · intro hdata
    have hindex := congrArg (·.1.toInt32) hdata
    simpa only [dataKey, Int32.toInt32_toUInt32] using hindex
  · intro heq
    rw [dataKey, heq, Int32.toInt32_toUInt32, hshared, lookup_setKeys h]
    exact congrArg _ (AList.lookup_insert _)

/-- Another participant gets a key of the same index. -/
theorem dataKey_own_sameIndex :
    ([⟨"alice", 1, [10]⟩, ⟨"bob", 1, [20]⟩].foldl setKey (new [])).dataKey "alice" =
      (1, some [10]) :=
  (dataKey_own_iff [] [] [⟨"bob", 1, [20]⟩] ⟨"alice", 1, [10]⟩ (by decide)).mpr (by decide)

/-- After a key of index 1 for someone else, there is no key to encrypt with. -/
theorem dataKey_otherIndex :
    let provider := [⟨"alice", 0, [10]⟩, ⟨"bob", 1, [20]⟩].foldl setKey (new [])
    provider.dataKey "alice" = (1, none) ∧
      ∀ crypto iv data, provider.encryptData crypto iv "alice" data = .error "no key available" :=
  ⟨rfl, fun _ _ _ => rfl⟩

end KeyProvider

end LiveKit.Room
