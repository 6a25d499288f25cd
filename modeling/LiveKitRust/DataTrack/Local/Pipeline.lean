import LiveKitRust.DataTrack.Codec
import LiveKitRust.DataTrack.E2ee
import LiveKitRust.DataTrack.Local.Moves
import LiveKitRust.DataTrack.Packetizer

/-!
# The pipeline of a publication

What a track task does with a frame pushed by the user (`local/pipeline.rs`, `TrackTask` in
`local/manager.rs`): encrypt it, if the pipeline has a provider, cut it into packets, and put their
bytes on the output channel.

The pipeline gets its provider from the manager when the track is made, and the manager goes by the
info in the SFU's response, not by what it asked for (`of_spawned_mem`). So what the tracks emit is
encrypted exactly if the SFU says so in every response (`emitted_encrypted_iff`).
-/

open Rust Machine List

namespace LiveKit.DataTrack.Local

open Manager

/-! ### Pipeline -/

structure Pipeline (π : Type) where
  encryptionProvider : Option π
  packetizer : Packetizer
  deriving DecidableEq

inductive PipelineError where
  | packetizer (error : PacketizerError)
  | encryption (error : EncryptionError)
  deriving DecidableEq

def TRANSPORT_MTU : ℕ := 16000

def intoPacketizerFrame (frame : DataTrackFrame) : PacketizerFrame :=
  ⟨frame.payload, { userTimestamp := frame.userTimestamp.map UserTimestampExt.mk, e2ee := none }⟩

namespace Pipeline

variable {π ω : Type}

/-- The packetizer's clock starts at `epoch` with a random timestamp. -/
def new (options : PipelineOptions π) (epoch : Instant) (base : Timestamp 90000) : Pipeline π :=
  ⟨options.encryptionProvider, Packetizer.new options.info.pubHandle TRANSPORT_MTU epoch base⟩

variable [EncryptionProvider π ω]

def encryptIfNeeded (self : Pipeline π) (world : ω) (frame : PacketizerFrame) :
    Except EncryptionError PacketizerFrame :=
  match self.encryptionProvider with
  | none => .ok frame
  | some e2eeProvider =>
    match EncryptionProvider.encrypt e2eeProvider world frame.payload with
    | .error error => .error error
    | .ok encrypted =>
      .ok { payload := encrypted.payload
            extensions := { frame.extensions with
              e2ee := some ⟨encrypted.keyIndex, encrypted.iv⟩ } }

def processFrame (self : Pipeline π) (now : Instant) (world : ω) (frame : DataTrackFrame) :
    Outcome PipelineError (List Packet) × Pipeline π :=
  match self.encryptIfNeeded world (intoPacketizerFrame frame) with
  | .error error => (.err (.encryption error), self)
  | .ok frame =>
    let (packets, packetizer) := self.packetizer.packetize now frame
    (packets.mapErr .packetizer, { self with packetizer := packetizer })

end Pipeline

/-! ### Track task -/

/-- Task for an individual published data track. The publish state is the one it
has read last. -/
structure TrackTask (π : Type) where
  info : DataTrackInfo
  pipeline : Pipeline π
  state : PublishState
  deriving DecidableEq

inductive TaskInput (ω : Type) where
  | changed (state : PublishState)
  | frame (frame : DataTrackFrame) (now : Instant) (world : ω)

/-- What a task does to the rest of the program. -/
inductive TaskEffect where
  | output (event : OutputEvent)
  /-- Sent to the manager itself, as the last thing. -/
  | unpublishRequest (handle : Handle)
  deriving DecidableEq

namespace TrackTask

variable {π ω : Type}

/-- A task at its start. That the state may have changed before it is first read
is a first input of the loop. -/
def new (options : PipelineOptions π) (epoch : Instant) (base : Timestamp 90000) : TrackTask π :=
  ⟨options.info, Pipeline.new options epoch base, .published⟩

variable [EncryptionProvider π ω]

def processAndSend (self : TrackTask π) (frame : DataTrackFrame) (now : Instant) (world : ω) :
    TrackTask π × List TaskEffect :=
  match self.pipeline.processFrame now world frame with
  | (.ok packets, pipeline) =>
    match Outcome.mapList Packet.serialize packets with
    | .ok raws => ({ self with pipeline := pipeline }, [.output (.packetsAvailable raws)])
    | _ => ({ self with pipeline := pipeline }, []) -- never, by `Packet.serialize_eq`
  | (_, pipeline) => ({ self with pipeline := pipeline }, [])

/-- One iteration of the loop of `run`, which ends when the track is
unpublished. -/
def step (self : TrackTask π) (input : TaskInput ω) : TrackTask π × List TaskEffect :=
  if self.state = .unpublished then (self, [])
  else
    match input with
    | .changed state =>
      ({ self with state := state },
        if state = .unpublished then [.unpublishRequest self.info.pubHandle] else [])
    | .frame frame now world =>
      if self.state = .republishing then (self, []) -- frames are dropped meanwhile
      else self.processAndSend frame now world

end TrackTask

def emitted (effects : List TaskEffect) : List Bytes :=
  effects.flatMap fun
    | .output (.packetsAvailable packets) => packets
    | _ => []

/-- The bytes are those of a packet that has a chunk of the provider's output for
the frame, with the metadata that goes with it. -/
def Encrypted {π ω : Type} [EncryptionProvider π ω] (provider : π) (input : TaskInput ω)
    (raw : Bytes) : Prop :=
  ∃ frame now world encrypted, ∃ packet : Packet, ∃ size, ∃ h_size : 0 < size,
    input = .frame frame now world ∧
    EncryptionProvider.encrypt provider world frame.payload = .ok encrypted ∧
    packet.serialize = .ok raw ∧
    packet.header.extensions.e2ee = some ⟨encrypted.keyIndex, encrypted.iv⟩ ∧
    packet.payload ∈ intoChunks size h_size encrypted.payload

/-! ### What a task emits -/

section Emission

variable {π ω : Type} [EncryptionProvider π ω]

namespace Pipeline

lemma processFrame_ok {s : Pipeline π} {now : Instant} {world : ω} {fr : DataTrackFrame}
    {pkts : List Packet} (h : (s.processFrame now world fr).1 = .ok pkts) :
    ∃ framed, s.encryptIfNeeded world (intoPacketizerFrame fr) = .ok framed ∧
      ∀ pkt ∈ pkts, pkt.header.extensions = framed.extensions ∧
        ∃ size, ∃ hsize : 0 < size, pkt.payload ∈ intoChunks size hsize framed.payload := by
  unfold processFrame at h
  split at h
  next => cases h
  next framed hframed =>
    refine ⟨framed, hframed, fun pkt hm => ?_⟩
    -- the packetizer has succeeded, only its error would have been converted
    have hok : (s.packetizer.packetize now framed).1 = .ok pkts := Outcome.mapErr_eq_ok.mp h
    obtain ⟨_, size, hsize, hext, -, -, -, rfl, -⟩ := Packetizer.packetize_ok hok
    obtain ⟨hheader, hpay⟩ := Packetizer.of_mem_framePackets hm
    exact ⟨hheader.trans hext, size, hsize, hpay⟩

lemma processFrame_provider (s : Pipeline π) (now : Instant) (world : ω) (fr) :
    (s.processFrame now world fr).2.encryptionProvider = s.encryptionProvider := by
  unfold processFrame
  split <;> rfl

end Pipeline

namespace TrackTask

variable (s : TrackTask π) {i : TaskInput ω} {raw : Bytes}

lemma processAndSend_eq (fr now) (world : ω) :
    s.processAndSend fr now world =
      ({ s with pipeline := (s.pipeline.processFrame now world fr).2 },
        match (s.pipeline.processFrame now world fr).1 with
        | .ok pkts =>
          [.output (.packetsAvailable (pkts.map fun pkt => pkt.header.bytes ++ pkt.payload))]
        | _ => []) := by
  unfold processAndSend
  split
  next pkts pipeline heq =>
    -- the writer of a packet has no error
    have hall : Outcome.mapList Packet.serialize pkts =
        .ok (pkts.map fun pkt => pkt.header.bytes ++ pkt.payload) :=
      Outcome.mapList_eq_ok pkts fun pkt _ => pkt.serialize_eq
    rw [hall, heq]
  next _ _ hnot heq =>
    rw [heq]
    split
    next pkts hok => exact absurd hok (hnot pkts)
    next => rfl

lemma of_mem_emitted {s : TrackTask π} (h : raw ∈ emitted (s.step i).2) :
    ∃ frame now world pkts, ∃ pkt ∈ pkts, i = .frame frame now world ∧
      (s.pipeline.processFrame now world frame).1 = .ok pkts ∧ pkt.serialize = .ok raw := by
  unfold step at h
  split at h
  next => cases h
  next =>
    cases i with
    | changed state =>
      -- the end of the loop asks to unpublish, and emits nothing
      change raw ∈ emitted (if state = .unpublished then _ else []) at h
      split at h
      · cases h
      · cases h
    | frame frame now world =>
      change raw ∈ emitted (if s.state = .republishing then (s, [])
        else s.processAndSend frame now world).2 at h
      split at h
      next => cases h
      next =>
        rw [processAndSend_eq] at h
        cases hf : (s.pipeline.processFrame now world frame).1 with
        | ok pkts =>
          have hraw : raw ∈ pkts.map fun pkt => pkt.header.bytes ++ pkt.payload := by
            simpa [emitted, hf] using h
          obtain ⟨pkt, hm, rfl⟩ := mem_map.mp hraw
          exact ⟨frame, now, world, pkts, pkt, hm, rfl, hf, pkt.serialize_eq⟩
        | err | panic => exact absurd h (by simp [emitted, hf])

lemma step_provider (i : TaskInput ω) :
    (s.step i).1.pipeline.encryptionProvider = s.pipeline.encryptionProvider := by
  unfold step
  split
  -- a task that has ended does nothing
  next => rfl
  next =>
    cases i with
    | changed => rfl
    | frame frame now world =>
      change (if s.state = .republishing then (s, [])
        else s.processAndSend frame now world).1.pipeline.encryptionProvider = _
      split
      next => rfl
      next =>
        rw [processAndSend_eq]
        exact s.pipeline.processFrame_provider now world frame

lemma state_provider (opts : PipelineOptions π) (epoch : Instant) (base : Timestamp 90000)
    (hist : List (TaskInput ω)) :
    (Machine.state step (new opts epoch base) hist).pipeline.encryptionProvider =
      opts.encryptionProvider := by
  refine state_invariant
    (P := fun s : TrackTask π => s.pipeline.encryptionProvider = opts.encryptionProvider)
    rfl hist ?_
  intro s i _ h
  exact (s.step_provider i).trans h

lemma encrypted_of_mem_emitted {s : TrackTask π} {provider : π}
    (hprov : s.pipeline.encryptionProvider = some provider)
    (h : raw ∈ emitted (s.step i).2) : Encrypted provider i raw := by
  obtain ⟨fr, now, world, _, pkt, hm, rfl, hpackets, hraw⟩ := of_mem_emitted h
  obtain ⟨_, hframed, hcar⟩ := Pipeline.processFrame_ok hpackets
  obtain ⟨hext, size, hsize, hpay⟩ := hcar pkt hm
  -- the provider is asked, and a refusal drops the frame
  unfold Pipeline.encryptIfNeeded at hframed
  rw [hprov] at hframed
  change (match EncryptionProvider.encrypt provider world fr.payload with
    | .error error => Except.error error
    | .ok encrypted => _) = _ at hframed
  cases hencrypt : EncryptionProvider.encrypt provider world fr.payload with
  | error error =>
    rw [hencrypt] at hframed
    cases hframed
  | ok encrypted =>
    rw [hencrypt] at hframed
    cases hframed
    refine ⟨fr, now, world, encrypted, pkt, size, hsize, rfl, hencrypt, hraw, ?_, hpay⟩
    rw [hext]

lemma exists_plain_emitted (hprov : s.pipeline.encryptionProvider = none)
    (hst : s.state = .published) (hmtu : 40 < s.pipeline.packetizer.mtuSize) {fr}
    (hpay : fr.payload ≠ []) (now) (world : ω) :
    ∃ pkt : Packet, pkt.header.extensions.e2ee = none ∧
      pkt.header.bytes ++ pkt.payload ∈ emitted (s.step (.frame fr now world)).2 := by
  have hplain : s.pipeline.encryptIfNeeded world (intoPacketizerFrame fr) =
      .ok (intoPacketizerFrame fr) := by
    unfold Pipeline.encryptIfNeeded
    rw [hprov]
  obtain ⟨pkts, hok⟩ := Packetizer.exists_packetize_ok hmtu now (intoPacketizerFrame fr)
  have hpackets : (s.pipeline.processFrame now world fr).1 = .ok pkts := by
    unfold Pipeline.processFrame
    rw [hplain]
    change Outcome.mapErr _ (s.pipeline.packetizer.packetize now _).1 = _
    rw [hok, Outcome.mapErr_ok]
  -- the frame is not empty, so there is a first packet
  obtain ⟨_, size, hsize, hext, -, -, -, heq, -⟩ := Packetizer.packetize_ok hok
  have hne : intoChunks size hsize fr.payload ≠ [] := by
    intro hnil
    have hflat := flatten_intoChunks hsize fr.payload
    rw [hnil] at hflat
    exact hpay hflat.symm
  have hpackets_ne : pkts ≠ [] := by
    intro hnil
    rw [hnil] at heq
    exact hne (mapIdx_eq_nil_iff.mp heq.symm)
  obtain ⟨pkt, hm⟩ := exists_mem_of_ne_nil pkts hpackets_ne
  refine ⟨pkt, ?_, ?_⟩
  · rw [heq] at hm
    rw [(Packetizer.of_mem_framePackets hm).1, hext]
    rfl
  · have hstep : s.step (.frame fr now world) = s.processAndSend fr now world := by
      unfold step
      rw [if_neg (by simp [hst])]
      change (if s.state = .republishing then _ else _) = _
      rw [if_neg (by simp [hst])]
    rw [hstep, processAndSend_eq]
    simpa [emitted, hpackets] using ⟨pkt, hm, rfl⟩

end TrackTask

end Emission

/-! ### The provider of a task -/

section Provision

variable {π : Type}

/-- A positive response on the handle makes a track. -/
def Manager.Accepts (self : Manager π) (view : View) (handle : Handle) : Prop :=
  self.running ∧ ∃ resultTx, self.descriptors.lookup handle = some (.pending resultTx) ∧
    ¬ view.isClosed resultTx

/-- A handler leaves the provider alone, and a task it starts is for an accepted
info, with the provider if that info says so. -/
def Provisioned (self : Manager π) (accepted : DataTrackInfo → Prop)
    (result : Manager π × List (Effect π)) : Prop :=
  result.1.encryptionProvider = self.encryptionProvider ∧
    ∀ track options, .spawned track options ∈ result.2 → accepted options.info ∧
        options.encryptionProvider = if options.info.usesE2ee then self.encryptionProvider else none

variable {s : Manager π} {accepted : DataTrackInfo → Prop}

variable {result : Manager π × List (Effect π)}

lemma Provisioned.of_silent (hprov : result.1.encryptionProvider = s.encryptionProvider)
    (hsi : ∀ tr opts, .spawned tr opts ∉ result.2) : Provisioned s accepted result :=
  ⟨hprov, fun tr opts h => absurd h (hsi tr opts)⟩

lemma Provisioned.of_signals {state} (hprov : result.1.encryptionProvider = s.encryptionProvider)
    (hsig : ∀ eff ∈ result.2, eff.IsSignal state) : Provisioned s accepted result :=
  .of_silent hprov fun _ _ hm => hsig _ hm

/-- **Provision.** A step leaves the provider alone, and starts a task only for the
info of a response it accepts. -/
theorem Manager.step_provisioned (s : Manager π) (view : View) (ev : InputEvent) :
    Provisioned s (fun info => ∃ handle, ev = .sfuPublishResponse handle (.ok info) ∧
        s.Accepts view handle) (s.step (view, ev)) := by
  cases hrun : s.running with
  | false =>
    rw [s.step_of_not_running view hrun]
    exact .of_silent rfl (by simp)
  | true =>
    have hmv := s.step_move view hrun ev
    generalize s.step (view, ev) = result at hmv ⊢
    cases hmv with
    | answer _ han =>
      exact .of_signals rfl (by simpa using han.isSignal .unpublished)
    | request | cancel | lapse | restore => exact .of_silent rfl (by simp)
    | refuse _ hanswers =>
      exact .of_signals rfl fun eff hm => (hanswers eff hm).isSignal .unpublished
    | create hp ho =>
      -- the one place where a task is started
      refine ⟨rfl, fun tr opts hm => ?_⟩
      rcases mem_cons.mp hm with heq | hm
      · cases heq
        exact ⟨⟨_, rfl, hrun, _, hp, ho⟩, rfl⟩
      · cases mem_singleton.mp hm
    | remove outputs =>
      exact .of_signals (by rw [removeDescriptor_fst]; rfl) (s.remove_signals view _ outputs)
    | republish order =>
      obtain ⟨_, hf⟩ := s.onRepublishTracks_frame order
      exact .of_signals (by rw [hf]) (s.onRepublishTracks_signals order)
    | shutdown order => exact .of_signals rfl (s.onShutdown_signals order)

lemma Manager.spawned_of_accepts {s : Manager π} {view : View} {handle : Handle}
    (h : s.Accepts view handle) (info) :
    ∃ opts : PipelineOptions π, opts.info = info ∧ .spawned s.nextTrack opts ∈
        (s.step (view, .sfuPublishResponse handle (.ok info))).2 := by
  obtain ⟨hrun, _, hl, ho⟩ := h
  refine ⟨⟨info, if info.usesE2ee then s.encryptionProvider else none⟩, rfl, ?_⟩
  rw [step, if_pos hrun]
  change _ ∈ (s.onSfuPublishResponse view handle (.ok info)).2
  -- the request is pending and somebody waits for the result
  unfold onSfuPublishResponse
  rw [hl]
  dsimp only
  rw [if_neg ho]
  exact mem_append_left _ (mem_singleton_self _)

lemma state_encryptionProvider (provider : Option π) (is) :
    (state step (new provider) is).encryptionProvider = provider := by
  refine state_invariant (P := fun m : Manager π => m.encryptionProvider = provider)
    rfl is ?_
  intro m i _ h
  exact (m.step_provisioned i.1 i.2).1.trans h

lemma of_spawned_mem {provider : Option π} {is : List (View × InputEvent)}
    {tr : TrackId} {opts : PipelineOptions π}
    (h : .spawned tr opts ∈ outputs step (new provider) is) : (∃ pre view handle post,
        is = pre ++ (view, .sfuPublishResponse handle (.ok opts.info)) :: post ∧
        (state step (new provider) pre).Accepts view handle) ∧
      opts.encryptionProvider = if opts.info.usesE2ee then provider else none := by
  obtain ⟨pre, ⟨view, ev⟩, post, hinputs, hm⟩ := mem_outputs.mp h
  obtain ⟨⟨handle, rfl, haccepts⟩, hprov⟩ :=
    (step_provisioned _ view ev).2 tr opts hm
  rw [state_encryptionProvider] at hprov
  exact ⟨⟨pre, view, handle, post, hinputs, haccepts⟩, hprov⟩

end Provision

/-! ### Confidentiality -/

section Confidentiality

variable {π ω : Type} [EncryptionProvider π ω]

/-- Everything a task with the given options ever emits is encrypted by the
provider. -/
def AlwaysEncrypts (ω : Type) [EncryptionProvider π ω] (provider : π)
    (options : PipelineOptions π) : Prop :=
  ∀ (epoch : Instant) (base : Timestamp 90000) (history : List (TaskInput ω)) (input : TaskInput ω),
    let task := state TrackTask.step (TrackTask.new options epoch base) history
    ∀ raw ∈ emitted (task.step input).2, Encrypted provider input raw

variable [Inhabited ω]

lemma alwaysEncrypts_iff {provider : π} {opts : PipelineOptions π}
    (hprov : opts.encryptionProvider = if opts.info.usesE2ee then some provider else none) :
    AlwaysEncrypts ω provider opts ↔ opts.info.usesE2ee := by
  constructor
  · intro hall
    by_contra hplain
    rw [if_neg hplain] at hprov
    -- one byte, pushed first thing, goes out as it is
    let task := TrackTask.new opts 0 ⟨0⟩
    let fr : DataTrackFrame := ⟨[0], none⟩
    have hpay : fr.payload ≠ [] := by simp [fr]
    have hmtu : 40 < task.pipeline.packetizer.mtuSize := show 40 < TRANSPORT_MTU by decide
    obtain ⟨pkt, hn, hm⟩ :=
      task.exists_plain_emitted hprov rfl hmtu hpay 0 (default : ω)
    obtain ⟨-, -, -, _, packet', -, -, -, -, hraw, he2ee, -⟩ :=
      hall 0 ⟨0⟩ [] (.frame fr 0 default) _ hm
    -- the bytes determine the packet, which has no metadata
    have hbytes : packet'.header.bytes ++ packet'.payload = pkt.header.bytes ++ pkt.payload :=
      Outcome.ok.inj (packet'.serialize_eq.symm.trans hraw)
    have hsm : packet' = pkt := by
      have hread := packet'.deserialize_bytes
      rw [hbytes, pkt.deserialize_bytes] at hread
      exact (Outcome.ok.inj hread).symm
    rw [hsm, hn] at he2ee
    cases he2ee
  · intro he2ee epoch base hist _ _ _ hm
    rw [if_pos he2ee] at hprov
    have hst := TrackTask.state_provider opts epoch base hist
    exact TrackTask.encrypted_of_mem_emitted (hst.trans hprov) hm

/-- **Confidentiality.** Along a run of a manager with a provider, everything the tracks ever emit
is encrypted by it, if and only if every response that the manager accepts says that its track is
encrypted. -/
theorem emitted_encrypted_iff (provider : π) (inputs : List (View × InputEvent)) : (∀ track options,
        .spawned track options ∈ outputs Manager.step (Manager.new (some provider)) inputs →
        AlwaysEncrypts ω provider options) ↔ ∀ pre view handle info post,
        inputs = pre ++ (view, .sfuPublishResponse handle (.ok info)) :: post →
        (state Manager.step (Manager.new (some provider)) pre).Accepts view handle →
        info.usesE2ee := by
  constructor
  · intro hall pre _ _ info post hinputs haccepts
    -- an accepted response starts a task with its info
    obtain ⟨options, rfl, hm⟩ := spawned_of_accepts haccepts info
    have hspawned := mem_outputs.mpr ⟨pre, _, post, hinputs, hm⟩
    exact (alwaysEncrypts_iff (of_spawned_mem hspawned).2).mp (hall _ options hspawned)
  · intro hall _ _ hspawned
    -- and a task started goes back to such a response
    obtain ⟨⟨pre, view, handle, post, hinputs, haccepts⟩, hprov⟩ := of_spawned_mem hspawned
    exact (alwaysEncrypts_iff hprov).mpr (hall pre view handle _ post hinputs haccepts)

end Confidentiality

/-! ### Samples -/

instance samplePadding : EncryptionProvider ℕ Unit :=
  ⟨fun length _ payload => .ok ⟨List.replicate length 0 ++ payload, .replicate 12 0, 0⟩⟩

def sampleInfo (usesE2ee : Bool) : DataTrackInfo :=
  ⟨⟨"DTR_sample", by decide⟩, .one, "a", usesE2ee⟩

def sampleView : View := ⟨fun _ => .published, fun _ => false⟩

def samplePublication (usesE2ee : Bool) : List (View × InputEvent) :=
  [(sampleView, .publishRequest ⟨"a"⟩ 0),
    (sampleView, .sfuPublishResponse .one (.ok (sampleInfo usesE2ee)))]

def sampleFrame : TaskInput Unit := .frame ⟨[1, 2, 3], none⟩ 0 ()

def samplePacket (extensions : Extensions) (payload : Bytes) : Bytes :=
  let header : Header := ⟨.single, .one, 0, 0, ⟨0⟩, extensions⟩
  header.bytes ++ payload

/-- **Plaintext.** The manager has a provider and has asked for an encrypted track; the SFU's answer
calls it not encrypted, and the payload goes out as it is. -/
theorem plaintext_emitted : let log := outputs step (new (some 1)) (samplePublication false)
    .output (.sfuPublishRequest ⟨1, by decide⟩ "a" true) ∈ log ∧
      .spawned 0 ⟨sampleInfo false, none⟩ ∈ log ∧ .result 0 (.ok ⟨0, sampleInfo false⟩) ∈ log ∧
      emitted ((TrackTask.new (⟨sampleInfo false, none⟩ : PipelineOptions ℕ) 0 ⟨0⟩).step
        sampleFrame).2 = [samplePacket {} [1, 2, 3]] := by
  decide +kernel

end LiveKit.DataTrack.Local
