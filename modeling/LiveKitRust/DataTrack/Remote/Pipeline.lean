import LiveKitRust.DataTrack.Depacketizer
import LiveKitRust.DataTrack.E2ee
import LiveKitRust.DataTrack.Remote.Announcements
import LiveKitRust.DataTrack.Remote.System

/-!
# The pipeline of a subscription

What a track task does with a packet (`remote/pipeline.rs`): reassemble, and decrypt if the pipeline
has a provider, which is decided by the manager when it starts the task. `Equipped` follows that
decision along a run: the provider of a task is the manager's, if its track was announced as
encrypted. So the frames of an encrypted track are outputs of the provider exactly if the manager
has one (`delivered_decrypted_iff`).
-/

open Machine Option

namespace LiveKit.DataTrack.Remote

/-! ### Model -/

structure Pipeline (π : Type) where
  publisherIdentity : String
  e2eeProvider : Option π
  depacketizer : Depacketizer

/-- What a packet meets: the packet itself, the number of partial frames allowed
at that moment, and what the provider depends on. -/
structure Arrival (ω : Type) where
  packet : Packet
  maxPartialFrames : ℕ
  world : ω

def intoDataTrackFrame (frame : DepacketizerFrame) : DataTrackFrame :=
  ⟨frame.payload, frame.extensions.userTimestamp.map UserTimestampExt.value⟩

namespace Pipeline

variable {π ω : Type}

def new (options : PipelineOptions π) : Pipeline π :=
  ⟨options.publisherIdentity, options.decryptionProvider, Depacketizer.new⟩

def depacketize (self : Pipeline π) (packet : Packet) (maxPartialFrames : ℕ) :
    Option DepacketizerFrame × Pipeline π :=
  let (result, depacketizer) := self.depacketizer.push packet ⟨maxPartialFrames⟩
  (result.frame, { self with depacketizer := depacketizer })

variable [DecryptionProvider π ω]

def decryptIfNeeded (self : Pipeline π) (world : ω) (frame : DepacketizerFrame) :
    Option DepacketizerFrame :=
  match self.e2eeProvider with
  | none => some frame
  | some decryption =>
    match frame.extensions.e2ee with
    | none => none -- missing E2EE meta
    | some e2ee =>
      match DecryptionProvider.decrypt decryption world ⟨frame.payload, e2ee.iv, e2ee.keyIndex⟩
          self.publisherIdentity with
      | .ok decrypted => some { frame with payload := decrypted }
      | .error _ => none

def processPacket (self : Pipeline π) (arrival : Arrival ω) : Option DataTrackFrame × Pipeline π :=
  let (frame, self) := self.depacketize arrival.packet arrival.maxPartialFrames
  ((frame.bind (self.decryptIfNeeded arrival.world)).map intoDataTrackFrame, self)

def step (self : Pipeline π) (arrival : Arrival ω) : Pipeline π × List DataTrackFrame :=
  let (frame, self) := self.processPacket arrival
  (self, frame.toList)

/-! ### Frames -/

/-- The frame delivered on the arrival is the output of a successful call of the
provider on what the arrival completes. -/
def Decrypted (provider : Option π) (publisherIdentity : String) (self : Pipeline π)
    (arrival : Arrival ω) (frame : DataTrackFrame) : Prop :=
  ∃ decryption reassembled e2ee, provider = some decryption ∧
    (self.depacketize arrival.packet arrival.maxPartialFrames).1 = some reassembled ∧
    reassembled.extensions.e2ee = some e2ee ∧
    DecryptionProvider.decrypt decryption arrival.world
      ⟨reassembled.payload, e2ee.iv, e2ee.keyIndex⟩ publisherIdentity = .ok frame.payload

lemma state_fields (opts : PipelineOptions π) (arrivals : List (Arrival ω)) :
    (state step (new opts) arrivals).e2eeProvider = opts.decryptionProvider ∧
      (state step (new opts) arrivals).publisherIdentity = opts.publisherIdentity := by
  refine state_invariant (P := fun s : Pipeline π =>
    s.e2eeProvider = opts.decryptionProvider ∧
      s.publisherIdentity = opts.publisherIdentity) ⟨rfl, rfl⟩ arrivals ?_
  exact fun s arrival _ h => h

variable {s : Pipeline π} {arrival : Arrival ω}

lemma decrypted_of_mem_step {decryption} (hprov : s.e2eeProvider = some decryption) {fr}
    (h : fr ∈ (s.step arrival).2) :
    s.Decrypted (some decryption) s.publisherIdentity arrival fr := by
  have hf := mem_toList.mp h
  obtain ⟨_, hbind, rfl⟩ := map_eq_some_iff.mp hf
  obtain ⟨reassembled, hdepacketized, hdecrypt⟩ := bind_eq_some_iff.mp hbind
  unfold decryptIfNeeded at hdecrypt
  split at hdecrypt
  next hn => cases hprov.symm.trans hn
  next _ hs =>
    obtain rfl := mem_unique hprov hs
    -- a frame without metadata is dropped, and so is one the provider refuses
    split at hdecrypt
    next => cases hdecrypt
    next e2ee he2ee =>
      split at hdecrypt
      next _ hok =>
        cases hdecrypt
        exact ⟨decryption, reassembled, e2ee, rfl, hdepacketized, he2ee, hok⟩
      next => cases hdecrypt

lemma single_mem_step (hprov : s.e2eeProvider = none)
    (hsingle : arrival.packet.header.marker = .single) :
    intoDataTrackFrame ⟨arrival.packet.payload, arrival.packet.header.extensions⟩ ∈
      (s.step arrival).2 := by
  have hf : (s.depacketize arrival.packet arrival.maxPartialFrames).1 =
      some ⟨arrival.packet.payload, arrival.packet.header.extensions⟩ :=
    (Depacketizer.push_single hsingle).1
  -- the provider is not touched by reassembly
  have hsm : (s.depacketize arrival.packet arrival.maxPartialFrames).2.e2eeProvider = none :=
    hprov
  refine mem_toList.mpr ?_
  change ((s.depacketize arrival.packet arrival.maxPartialFrames).1.bind
    ((s.depacketize arrival.packet arrival.maxPartialFrames).2.decryptIfNeeded
      arrival.world)).map intoDataTrackFrame = some _
  rw [hf, bind_some, decryptIfNeeded, hsm]
  rfl

end Pipeline

/-! ### The provider of a task -/

variable {π : Type}

/-- Who has which provider.

* The descriptor of a track has the encryption and the publisher that the track
  was announced with.
* A task has the manager's provider if its track was announced as encrypted, and
  otherwise none. -/
structure Equipped (provider : Option π) (log : List (Effect π)) (manager : Manager π) : Prop where
  provider_eq : manager.decryptionProvider = provider
  live : ∀ sid descriptor, manager.descriptors.lookup sid = some descriptor →
    ∃ announced : RemoteDataTrack, .output (.trackPublished announced) ∈ log ∧
      announced.track = descriptor.track ∧
      announced.info.usesE2ee = descriptor.info.usesE2ee ∧
      announced.publisherIdentity = descriptor.publisherIdentity
  spawned : ∀ task track options, .spawned task track options ∈ log →
    ∃ announced : RemoteDataTrack, .output (.trackPublished announced) ∈ log ∧
      announced.track = track ∧
      options.decryptionProvider = (if announced.info.usesE2ee then provider else none) ∧
      options.publisherIdentity = announced.publisherIdentity

section Transitions

variable {provider : Option π} {log effs : List (Effect π)} {m manager' : Manager π}

def StartedFrom (manager : Manager π) (track : TrackId) (options : PipelineOptions π) : Prop :=
  ∃ sid descriptor, manager.descriptors.lookup sid = some descriptor ∧ descriptor.track = track ∧
    options.decryptionProvider =
      (if descriptor.info.usesE2ee then manager.decryptionProvider else none) ∧
    options.publisherIdentity = descriptor.publisherIdentity

section

variable (h : Equipped provider log m)
include h

lemma Equipped.mono (hprov : manager'.decryptionProvider = m.decryptionProvider)
    (hlive : ∀ sid d', manager'.descriptors.lookup sid = some d' →
      (∃ sid' d, m.descriptors.lookup sid' = some d ∧ d'.track = d.track ∧
        d'.info.usesE2ee = d.info.usesE2ee ∧ d'.publisherIdentity = d.publisherIdentity) ∨
      .output (.trackPublished ⟨d'.track, d'.info, d'.publisherIdentity⟩) ∈ effs)
    (hspawned : ∀ task tr opts, .spawned task tr opts ∈ effs → StartedFrom m tr opts) :
    Equipped provider (log ++ effs) manager' := by
  refine ⟨hprov.trans h.provider_eq, fun sid d' hl => ?_, fun task tr opts hm => ?_⟩
  · -- a descriptor from before was announced before, and one that is new is announced now
    rcases hlive sid d' hl with ⟨sid', d, hbef, htr, he2ee, hid⟩ | hm
    · obtain ⟨announced, hm, htrack', he2ee', hid'⟩ := h.live sid' d hbef
      exact ⟨announced, List.mem_append_left effs hm, htrack'.trans htr.symm,
        he2ee'.trans he2ee.symm, hid'.trans hid.symm⟩
    · exact ⟨_, List.mem_append_right log hm, rfl, rfl, rfl⟩
  · -- a task from before, or one that reads off its descriptor what was announced
    rcases List.mem_append.mp hm with hm | hm
    · obtain ⟨announced, hm, hr⟩ := h.spawned task tr opts hm
      exact ⟨announced, List.mem_append_left effs hm, hr⟩
    · obtain ⟨sid, d, hl, htr, hprovided, hid⟩ := hspawned task tr opts hm
      obtain ⟨announced, hm, htrack', he2ee, hid'⟩ := h.live sid d hl
      refine ⟨announced, List.mem_append_left effs hm, htrack'.trans htr, ?_, hid.trans hid'.symm⟩
      rw [hprovided, he2ee, h.provider_eq]

lemma Equipped.setDescriptor (hprov : manager'.decryptionProvider = m.decryptionProvider)
    {sid desc d'} (hl : m.descriptors.lookup sid = some desc)
    (heq : manager'.descriptors = (m.setDescriptor sid d').descriptors)
    (hsm : d'.track = desc.track ∧ d'.info = desc.info ∧
      d'.publisherIdentity = desc.publisherIdentity)
    (hspawned : ∀ task tr opts, .spawned task tr opts ∈ effs → StartedFrom m tr opts) :
    Equipped provider (log ++ effs) manager' := by
  refine h.mono hprov (fun sid' d hd => .inl ?_) hspawned
  rcases AList.of_lookup_insert (heq ▸ hd) with ⟨-, rfl⟩ | ⟨-, hd⟩
  · exact ⟨sid, desc, hl, hsm.1, by rw [hsm.2.1], hsm.2.2⟩
  · exact ⟨sid', d, hd, rfl, rfl, rfl⟩

lemma Equipped.request
    (hreq : Request m effs manager') : Equipped provider (log ++ effs) manager' := by
  cases hreq with
  | refuse | attach => exact h.mono rfl (fun sid d hd => .inl ⟨sid, d, hd, rfl, rfl, rfl⟩) (by simp)
  | request hl | join hl | unsubscribe hl =>
    exact h.setDescriptor rfl hl rfl ⟨rfl, rfl, rfl⟩ (by simp)

lemma Equipped.move (hmv : Move m effs manager') : Equipped provider (log ++ effs) manager' := by
  -- moves start no task
  have hspawned : ∀ task tr options, .spawned task tr options ∈ effs → StartedFrom m tr options :=
    fun task tr options hm => absurd rfl (hmv.not_spawned hm task tr options)
  cases hmv with
  | deliver | resend => exact h.mono rfl (fun sid d hd => .inl ⟨sid, d, hd, rfl, rfl, rfl⟩) hspawned
  | configure hl => exact h.setDescriptor rfl hl rfl ⟨rfl, rfl, rfl⟩ hspawned
  | shutdown => exact h.mono rfl (nofun) hspawned
  | unpublish =>
    refine h.mono rfl (fun sid d hd => .inl ?_) hspawned
    exact ⟨sid, d, (AList.of_lookup_erase hd).2, rfl, rfl, rfl⟩
  | publish =>
    refine h.mono rfl (fun sid d hd => ?_) hspawned
    rcases AList.of_lookup_insert hd with ⟨-, rfl⟩ | ⟨-, hd⟩
    · exact .inr (List.mem_singleton_self _)
    · exact .inl ⟨sid, d, hd, rfl, rfl, rfl⟩
  | reassign hl hnew =>
    rename_i oldSid newSid desc
    refine h.mono rfl (fun sid d hd => .inl ?_) hspawned
    rcases AList.of_lookup_insert hd with ⟨-, rfl⟩ | ⟨-, hd⟩
    · exact ⟨oldSid, desc, hl, rfl, rfl, rfl⟩
    · exact ⟨sid, d, (AList.of_lookup_erase hd).2, rfl, rfl, rfl⟩

lemma Equipped.assignment (hassign : Assignment m effs manager') :
    Equipped provider (log ++ effs) manager' := by
  cases hassign with
  | rehandle hl => exact h.setDescriptor rfl hl rfl ⟨rfl, rfl, rfl⟩ (by simp)
  | activate hl hsub =>
    rename_i sid d txs bufferSize assignedHandle
    refine h.setDescriptor rfl hl rfl ⟨rfl, rfl, rfl⟩ fun task tr opts hm => ?_
    rcases List.mem_cons.mp hm with heq | hm
    · cases heq
      exact ⟨sid, d, hl, rfl, rfl, rfl⟩
    · obtain ⟨_, -, heq⟩ := List.mem_map.mp hm
      cases heq

end

end Transitions

lemma equipped_run (provider : Option π) (evs) :
    Equipped provider (outputs Manager.step (Manager.new provider) evs)
      (state Manager.step (Manager.new provider) evs) := by
  have hinit : Equipped provider [] (Manager.new provider) :=
    ⟨rfl, nofun, nofun⟩
  exact Manager.run_of_kinds (P := Equipped provider) hinit (fun hreq h => h.request hreq)
    (fun hmv h => h.move hmv) (fun hassign h => h.assignment hassign) evs

/-! ### Delivered frames -/

variable {ω : Type} [DecryptionProvider π ω]

/-- **Decryption.** All frames that a task for a track announced as encrypted ever delivers are
outputs of successful calls of the manager's decryption provider on what was reassembled, if and
only if the manager has a decryption provider. -/
theorem delivered_decrypted_iff [Inhabited ω] (provider : Option π) (events : List InputEvent)
    (announced : RemoteDataTrack) (task : TaskId) (options : PipelineOptions π)
    (h_announced : .output (.trackPublished announced) ∈
      outputs Manager.step (Manager.new provider) events) (h_e2ee : announced.info.usesE2ee)
    (h_spawned : .spawned task announced.track options ∈
      outputs Manager.step (Manager.new provider) events) :
    (∀ (arrivals : List (Arrival ω)) (arrival : Arrival ω),
        let pipeline := state Pipeline.step (Pipeline.new options) arrivals
        ∀ frame ∈ (pipeline.step arrival).2,
          pipeline.Decrypted provider announced.publisherIdentity arrival frame) ↔
      provider.isSome := by
  have hlog := announced_run provider events
  obtain ⟨_, hm, htrack, hprov, hid⟩ :=
    (equipped_run provider events).spawned task announced.track options h_spawned
  obtain rfl := hlog.announcement_unique h_announced hm htrack
  rw [if_pos h_e2ee] at hprov
  cases provider with
  | none =>
    refine iff_of_false (fun h => ?_) (by simp)
    -- any single packet gets through
    let pkt : Packet := ⟨⟨.single, ⟨1, by decide⟩, 0, 0, ⟨0⟩, {}⟩, []⟩
    let arrival : Arrival ω := ⟨pkt, 1, default⟩
    have hf : _ ∈ ((Pipeline.new options).step arrival).2 :=
      Pipeline.single_mem_step hprov rfl
    obtain ⟨_, _, _, hn, _⟩ := h [] arrival _ hf
    cases hn
  | some =>
    refine iff_of_true (fun arrivals arrival frame hf => ?_) rfl
    obtain ⟨hst, hpub⟩ := Pipeline.state_fields options arrivals
    have hdecrypted := Pipeline.decrypted_of_mem_step (hst.trans hprov) hf
    rwa [hpub, hid] at hdecrypted

/-! ### Samples -/

instance samplePadding : DecryptionProvider ℕ Unit :=
  ⟨fun length _ encrypted _ =>
    if length ≤ encrypted.payload.length then .ok (encrypted.payload.drop length)
    else .error .failed⟩

def encryptedInfo : DataTrackInfo := { Manager.infoA with usesE2ee := true }

def encryptedSubscription : List InputEvent :=
  [.sfuPublicationUpdates (.ofList [("alice", [encryptedInfo])]) .asListed .asListed,
    .subscribeRequest encryptedInfo.sid default 0,
    .sfuSubscriberHandles (.ofList [(.one, encryptedInfo.sid)])]

def singlePacket (extensions : Extensions) : Arrival Unit :=
  ⟨⟨⟨.single, .one, 0, 0, ⟨0⟩, extensions⟩, [1, 2, 3]⟩, 1, ()⟩

def sampleE2eeExt : Extensions := { e2ee := some ⟨0, .replicate 12 0⟩ }

/-- With a provider, the frame of an encrypted packet is what the provider makes
of it. -/
theorem delivered_decrypted_sample :
    (Pipeline.new ⟨encryptedInfo, "alice", some 1⟩).Decrypted (some 1) "alice"
      (singlePacket sampleE2eeExt) ⟨[2, 3], none⟩ :=
  (delivered_decrypted_iff (some 1) encryptedSubscription ⟨0, encryptedInfo, "alice"⟩ 0
    ⟨encryptedInfo, "alice", some 1⟩ (by decide +kernel) rfl (by decide +kernel)).mpr rfl []
    (singlePacket sampleE2eeExt) _ (by decide +kernel)

/-- **Plaintext.** A manager without a provider starts a task for an encrypted
track, and the task delivers a packet without encryption metadata as it is. -/
theorem plaintext_delivered :
    let log := outputs Manager.step (Manager.new (none : Option ℕ)) encryptedSubscription
    encryptedInfo.usesE2ee ∧ .output (.trackPublished ⟨0, encryptedInfo, "alice"⟩) ∈ log ∧
      .spawned 0 0 ⟨encryptedInfo, "alice", none⟩ ∈ log ∧
      ((Pipeline.new (⟨encryptedInfo, "alice", none⟩ : PipelineOptions ℕ)).step
        (singlePacket {})).2 = [⟨[1, 2, 3], none⟩] := by
  decide +kernel

end LiveKit.DataTrack.Remote
