import LiveKitRust.Utils.TtlMap
import LiveKitRust.DataStream.Basic
import LiveKitRust.RtcEngine.DataChannelTask

/-!
# Receiving data packets (`rtc_session.rs`)

A session keeps, for every participant it has got numbered reliable packets from, the last sequence
number in a map that forgets it after a while. The map is sent to the server when the session is
resumed, and the server sends again what it does not cover. A packet is first recorded there
(`updatePacketRxState`) and then handed on as an event (`emitIncomingPacket`).

`updatePacketRxState` finds duplicate and out-of-order packets, and calls that ignoring them. It
returns nothing, so they are handed on like any other. `Fresh` is the test it makes, read as a
condition on what arrives; `delivered_increasing` is the order of the events under it.

What decrypting yields and the readings of the clock are part of the input.
-/

open Machine List

namespace LiveKit.RtcEngine

open Utils (TtlMap)
open DataStream (EncryptionType)

abbrev ParticipantIdentity := String

def ParticipantSid.tryFrom (value : String) : Option String :=
  if "PA_".toList.isPrefixOf value.toList then some value else none

/-! ### Packets and events -/

structure UserPacket where
  participantSid : String
  participantIdentity : String
  payload : List UInt8
  topic : Option String
  deriving DecidableEq

structure TranscriptionSegment where
  id : String
  text : String
  startTime : ℕ
  endTime : ℕ
  language : String
  final : Bool
  deriving DecidableEq

structure RpcError where
  code : ℕ
  message : String
  data : String
  deriving DecidableEq

inductive RpcResponseValue where
  | payload (payload : String)
  | error (error : RpcError)
  | compressedPayload (payload : List UInt8)
  deriving DecidableEq

structure ChatMessage where
  id : String
  message : String
  timestamp : ℤ
  editTimestamp : Option ℤ
  deleted : Bool
  generated : Bool
  deriving DecidableEq

inductive Payload where
  | user (user : UserPacket)
  | sipDtmf (code : ℕ) (digit : String)
  | transcription (transcribedParticipantIdentity trackId : String)
      (segments : List TranscriptionSegment)
  | rpcRequest (id method payload : String) (responseTimeoutMs version : ℕ)
  | rpcResponse (requestId : String) (value : Option RpcResponseValue)
  | rpcAck (requestId : String)
  | chatMessage (message : ChatMessage)
  | streamHeader (header : DataStream.Header)
  | streamChunk (chunk : DataStream.Chunk)
  | streamTrailer (trailer : DataStream.Trailer)
  /-- `Speaker` and `Metrics`, which the session has no event for. -/
  | other
  deriving DecidableEq

inductive Value where
  | plain (payload : Payload)
  | encryptedPacket (encryptionType : EncryptionType)
  deriving DecidableEq

structure DataPacket where
  participantSid : String
  participantIdentity : String
  sequence : ℕ
  value : Option Value
  deriving DecidableEq

def DataPacket.Numbered (packet : DataPacket) : Prop :=
  packet.sequence ≠ 0 ∧ packet.participantSid ≠ ""
  deriving Decidable

inductive SessionEvent where
  | data (kind : DataPacketKind) (participantSid : Option String)
      (participantIdentity : Option ParticipantIdentity) (payload : List UInt8)
      (topic : Option String) (encryptionType : EncryptionType)
  | sipDTMF (participantIdentity : Option ParticipantIdentity) (code : ℕ) (digit : Option String)
  | transcription (participantIdentity : ParticipantIdentity) (trackSid : String)
      (segments : List TranscriptionSegment)
  | rpcRequest (callerIdentity : Option ParticipantIdentity) (requestId method payload : String)
      (responseTimeout version : ℕ)
  | rpcResponse (requestId : String) (payload : Option String) (error : Option RpcError)
  | rpcAck (requestId : String)
  | chatMessage (participantIdentity : ParticipantIdentity) (message : ChatMessage)
  | dataStreamHeader (header : DataStream.Header) (participantIdentity : String)
      (encryptionType : EncryptionType)
  | dataStreamChunk (chunk : DataStream.Chunk) (participantIdentity : String)
      (encryptionType : EncryptionType)
  | dataStreamTrailer (trailer : DataStream.Trailer) (participantIdentity : String)
  deriving DecidableEq

/-! ### The session -/

structure Receiver where
  packetRxState : TtlMap String ℕ
  e2ee : Bool

/-- The readings of the clock in a step: by `get`, by `set` and by `cleanup`. -/
structure Clock where
  get : ℕ
  set : ℕ
  cleanup : ℕ

inductive Receiver.Input where
  /-- `RtcEvent::Data`. The packet is what decoding the data yields, and `decrypted` is
  what decrypting and decoding its value would. -/
  | data (clock : Clock) (kind : DataPacketKind) (binary : Bool) (packet : Option DataPacket)
      (decrypted : Option Payload)
  | dataChannelReceiveStates (order : HashOrder String) (now : ℕ)

inductive Receiver.Output where
  | event (kind : DataPacketKind) (packet : DataPacket) (event : SessionEvent)
  | receiveStates (states : List (String × ℕ))
  deriving DecidableEq

namespace Receiver

def reliableReceivedStateTtl : ℕ := 30 * 1000000000

def new (now : ℕ) (e2ee : Bool) : Receiver := ⟨.new now reliableReceivedStateTtl, e2ee⟩

def updatePacketRxState (self : Receiver) (clock : Clock) (packet : DataPacket) : Receiver :=
  if packet.sequence = 0 ∨ packet.participantSid = "" then self
  else
    match self.packetRxState.get clock.get packet.participantSid with
    | (last, rxState) =>
      -- "Ignoring duplicate/out-of-order reliable data message"
      if last.any fun lastSequence => packet.sequence ≤ lastSequence then
        { self with packetRxState := rxState }
      else { self with
          packetRxState :=
            rxState.set clock.set clock.cleanup packet.participantSid (some packet.sequence) }

def emitPayload (kind : DataPacketKind) (participantSid : Option String)
    (participantIdentity : Option ParticipantIdentity) (encryptionType : EncryptionType) :
    Payload → Option SessionEvent
  | .user user =>
    -- packets used to carry their origin in the user packet
    some (.data kind (participantSid.orElse fun _ => ParticipantSid.tryFrom user.participantSid)
      (participantIdentity.orElse fun _ => some user.participantIdentity)
      user.payload user.topic encryptionType)
  | .sipDtmf code digit =>
    some (.sipDTMF participantIdentity code (if digit = "" then none else some digit))
  | .transcription transcribedParticipantIdentity trackId segments =>
    some (.transcription transcribedParticipantIdentity trackId segments)
  | .rpcRequest id method payload responseTimeoutMs version =>
    some (.rpcRequest participantIdentity id method payload responseTimeoutMs version)
  | .rpcResponse requestId value =>
    match value with
    | none => some (.rpcResponse requestId none none)
    | some (.payload payload) => some (.rpcResponse requestId (some payload) none)
    | some (.error error) => some (.rpcResponse requestId none (some error))
    | some (.compressedPayload _) => some (.rpcResponse requestId none none)
  | .rpcAck requestId => some (.rpcAck requestId)
  | .chatMessage message => some (.chatMessage (participantIdentity.getD "") message)
  | .streamHeader header =>
    some (.dataStreamHeader header (participantIdentity.getD "") encryptionType)
  | .streamChunk chunk => some (.dataStreamChunk chunk (participantIdentity.getD "") encryptionType)
  | .streamTrailer trailer => some (.dataStreamTrailer trailer (participantIdentity.getD ""))
  | .other => none

def emitIncomingPacket (self : Receiver) (kind : DataPacketKind) (participantSid : Option String)
    (participantIdentity : Option ParticipantIdentity) (decrypted : Option Payload) :
    Value → Option SessionEvent
  | .plain payload => emitPayload kind participantSid participantIdentity .none payload
  | .encryptedPacket encryptionType =>
    if self.e2ee then
      decrypted.bind (emitPayload kind participantSid participantIdentity encryptionType)
    else none

/-- What the session does with data that a channel has received, and with a request for
the receive states. -/
def step (self : Receiver) : Input → Receiver × List Output
  | .data clock kind binary packet decrypted =>
    match binary, packet with
    | true, some packet =>
      let self := if kind = .reliable then self.updatePacketRxState clock packet else self
      (self, (packet.value.bind (self.emitIncomingPacket kind
        (ParticipantSid.tryFrom packet.participantSid) (some packet.participantIdentity)
        decrypted)).toList.map (.event kind packet))
    -- text messages aren't supported, and neither is what cannot be decoded
    | _, _ => (self, [])
  | .dataChannelReceiveStates order now =>
    match self.packetRxState.iter order now with
    | (states, rxState) => ({ self with packetRxState := rxState }, [.receiveStates states])

/-! ### The order of the events -/

/-- What `update_packet_rx_state` tests of a numbered packet, as a condition on what
arrives: the packet is past the last one recorded for its publisher, and the clock is not
behind the last cleanup, so that the packet is recorded. -/
def Fresh (self : Receiver) : Input → Prop
  | .data clock .reliable true (some packet) _ =>
    packet.Numbered → (∀ last ∈ (self.packetRxState.get clock.get packet.participantSid).1,
        last < packet.sequence) ∧
      self.packetRxState.lastCleanup ≤ clock.set
  | _ => True

/-- No reading of the clock in the step finds the entry of the publisher expired. -/
def Alive (p : String) (self : Receiver) : Input → Prop
  | .data clock .reliable true (some _) _ =>
    ¬ self.packetRxState.Expired clock.get p ∧ ¬ self.packetRxState.Expired clock.cleanup p
  | .dataChannelReceiveStates _ now => ¬ self.packetRxState.Expired now p
  | _ => True

instance (self : Receiver) (i : Input) : Decidable (self.Fresh i) := by
  unfold Fresh; split <;> infer_instance

instance (p : String) (self : Receiver) (i : Input) : Decidable (self.Alive p i) := by
  unfold Alive; split <;> infer_instance

/-- The sequence numbers of the reliable packets of the publisher whose events have been
emitted, in that order. -/
def delivered (p : String) (log : List Output) : List ℕ :=
  log.filterMap fun
    | .event .reliable packet _ =>
      if packet.Numbered ∧ packet.participantSid = p then some packet.sequence else none
    | _ => none

/-- The events of the publisher are in order, up to the number recorded for it. -/
structure Ordered (p : String) (log : List Output) (receiver : Receiver) : Prop where
  increasing : (delivered p log).Pairwise (· < ·)
  recorded : ∀ n ∈ delivered p log, ∃ last ∈ receiver.packetRxState.value? p, n ≤ last

section

variable {p : String} {log : List Output} {s : Receiver} {clock : Clock} {pkt : DataPacket}

lemma updatePacketRxState_of_not_numbered (h : ¬ pkt.Numbered) :
    s.updatePacketRxState clock pkt = s := by
  unfold updatePacketRxState
  rw [if_pos]
  unfold DataPacket.Numbered at h
  tauto

lemma updatePacketRxState_of_fresh (h : pkt.Numbered)
    (hfresh : ∀ last ∈ (s.packetRxState.get clock.get pkt.participantSid).1, last < pkt.sequence) :
    s.updatePacketRxState clock pkt = { s with
        packetRxState := (s.packetRxState.get clock.get pkt.participantSid).2.set clock.set
          clock.cleanup pkt.participantSid (some pkt.sequence) } := by
  unfold updatePacketRxState
  rw [if_neg (by unfold DataPacket.Numbered at h; tauto)]
  have hpass : (s.packetRxState.get clock.get pkt.participantSid).1.any
      (fun lastSeq => pkt.sequence ≤ lastSeq) = false := by
    cases hget : (s.packetRxState.get clock.get pkt.participantSid).1 with
    | none => rfl
    | some last =>
      have hlt : last < pkt.sequence := hfresh last (by rw [hget]; rfl)
      simpa using hlt
  simp [hpass]

lemma value?_updatePacketRxState_of_ne (hne : p ≠ pkt.participantSid)
    (hcleanup : ¬ s.packetRxState.Expired clock.cleanup p) :
    (s.updatePacketRxState clock pkt).packetRxState.value? p = s.packetRxState.value? p := by
  have hsm : (s.packetRxState.get clock.get pkt.participantSid).2.inner.lookup p =
      s.packetRxState.inner.lookup p := TtlMap.lookup_get_of_ne hne
  have hvalue : (s.packetRxState.get clock.get pkt.participantSid).2.value? p =
      s.packetRxState.value? p := by
    unfold TtlMap.value?
    rw [hsm]
  unfold updatePacketRxState
  split
  · rfl
  · dsimp only
    split
    · exact hvalue
    · rw [TtlMap.value?_set_of_ne _ hne, hvalue]
      unfold TtlMap.Expired
      rw [hsm]
      exact hcleanup

lemma delivered_append (p log log') :
    delivered p (log ++ log') = delivered p log ++ delivered p log' := filterMap_append

lemma delivered_events (p : String) (kind : DataPacketKind) (pkt : DataPacket)
    (ev : Option SessionEvent) : delivered p (ev.toList.map (.event kind pkt)) =
      if kind = .reliable ∧ pkt.Numbered ∧ pkt.participantSid = p ∧ ev.isSome then
        [pkt.sequence] else [] := by
  cases ev with
  | none => simp [delivered]
  | some =>
    cases kind with
    | lossy => simp [delivered]
    | reliable => by_cases h : pkt.Numbered ∧ pkt.participantSid = p <;> simp [delivered, h]

namespace Ordered

lemma new (now : ℕ) (e2ee : Bool) : Ordered p [] (.new now e2ee) :=
  ⟨List.Pairwise.nil, nofun⟩

variable {self' : Receiver} {outputs : List Output}

section

variable (h : Ordered p log s)
include h

lemma keep (hvalue : self'.packetRxState.value? p = s.packetRxState.value? p)
    (hout : delivered p outputs = []) : Ordered p (log ++ outputs) self' where
  increasing := by
    rw [delivered_append, hout, append_nil]
    exact h.increasing
  recorded := by
    rw [delivered_append, hout, append_nil, hvalue]
    exact h.recorded

lemma extend {n} (hlast : ∀ last ∈ s.packetRxState.value? p, last < n)
    (hvalue : self'.packetRxState.value? p = some n)
    (hout : delivered p outputs = [n] ∨ delivered p outputs = []) :
    Ordered p (log ++ outputs) self' := by
  -- all that was delivered is below the recorded number, which is below the new one
  have hbelow : ∀ m ∈ delivered p log, m < n := by
    intro m hm
    obtain ⟨last, hmem, hle⟩ := h.recorded m hm
    exact lt_of_le_of_lt hle (hlast last hmem)
  have hlog := delivered_append p log outputs
  constructor
  · rw [hlog]
    rcases hout with heq | heq
    · rw [heq, pairwise_append]
      refine ⟨h.increasing, pairwise_singleton _ _, fun m hm k hk => ?_⟩
      rw [mem_singleton.mp hk]
      exact hbelow m hm
    · rw [heq, append_nil]
      exact h.increasing
  · intro m hm
    refine ⟨n, by rw [hvalue]; rfl, ?_⟩
    rw [hlog, mem_append] at hm
    rcases hm with hm | hm
    · exact (hbelow m hm).le
    · rcases hout with heq | heq <;> rw [heq] at hm
      · exact (mem_singleton.mp hm).le
      · cases hm

lemma reliable (ev : Option SessionEvent) (hfresh : pkt.Numbered →
      (∀ last ∈ (s.packetRxState.get clock.get pkt.participantSid).1,
        last < pkt.sequence) ∧ s.packetRxState.lastCleanup ≤ clock.set)
    (hget : ¬ s.packetRxState.Expired clock.get p)
    (hcleanup : ¬ s.packetRxState.Expired clock.cleanup p) :
    Ordered p (log ++ ev.toList.map (.event .reliable pkt)) (s.updatePacketRxState clock pkt) := by
  have hevs := delivered_events p .reliable pkt ev
  by_cases hnum : pkt.Numbered
  · obtain ⟨hlast, hclock⟩ := hfresh hnum
    by_cases hp : pkt.participantSid = p
    · -- a packet of the publisher: the map still has the last one
      subst hp
      rw [updatePacketRxState_of_fresh hnum hlast, TtlMap.get_of_not_expired hget]
      rw [TtlMap.get_of_not_expired hget] at hlast
      refine h.extend hlast (TtlMap.value?_set_self hclock) ?_
      rw [hevs]
      exact ite_eq_or_eq _ _ _
    · refine h.keep (value?_updatePacketRxState_of_ne (Ne.symm hp) hcleanup) ?_
      rw [hevs, if_neg fun hand => hp hand.2.2.1]
  · rw [updatePacketRxState_of_not_numbered hnum]
    refine h.keep rfl ?_
    rw [hevs, if_neg fun hand => hnum hand.2.1]

lemma data {kind binary pkt decrypted} (hfresh : s.Fresh (.data clock kind binary pkt decrypted))
    (halive : s.Alive p (.data clock kind binary pkt decrypted)) :
    Ordered p (log ++ (s.step (.data clock kind binary pkt decrypted)).2)
      (s.step (.data clock kind binary pkt decrypted)).1 := by
  cases pkt with
  | none => cases binary <;> exact h.keep rfl rfl
  | some =>
    cases binary with
    | false => exact h.keep rfl rfl
    | true =>
      cases kind with
      | lossy => exact h.keep rfl ((delivered_events ..).trans (if_neg (by simp)))
      | reliable => exact h.reliable _ hfresh halive.1 halive.2

lemma step {i} (hfresh : s.Fresh i) (halive : s.Alive p i) :
    Ordered p (log ++ (s.step i).2) (s.step i).1 := by
  cases i with
  | data => exact h.data hfresh halive
  | dataChannelReceiveStates => exact h.keep (TtlMap.value?_cleanup halive) rfl

end

end Ordered

end

/-- **At-most-once delivery.** In every run of a session in which each numbered packet is
past the last one recorded for its publisher, the events of a publisher whose entry does
not expire are emitted in increasing order of their sequence numbers, so none twice. -/
theorem delivered_increasing (now : ℕ) (e2ee : Bool) (p : String) (is : List Input)
    (h_fresh : Along step Fresh (new now e2ee) is)
    (h_alive : Along step (Alive p) (new now e2ee) is) :
    (delivered p (outputs step (new now e2ee) is)).Pairwise (· < ·) := by
  have hordered := (h_fresh.and h_alive).run_of_step (Ordered.new now e2ee)
    fun log self i hordered hi => hordered.step hi.1 hi.2
  exact hordered.increasing

def userPacket (sid : String) (sequence : ℕ) : DataPacket :=
  ⟨sid, "alice", sequence, some (.plain (.user ⟨"", "", [], none⟩))⟩

def arrival (now : ℕ) (packet : DataPacket) : Input :=
  .data ⟨now, now, now⟩ .reliable true (some packet) none

theorem delivered_increasing_twoPackets : delivered "PA_a" (outputs step (new 0 false)
        [arrival 1 (userPacket "PA_a" 1), arrival 2 (userPacket "PA_b" 7),
          .dataChannelReceiveStates .asListed 3, arrival 4 (userPacket "PA_a" 2)]) = [1, 2] ∧
      (delivered "PA_a" (outputs step (new 0 false)
        [arrival 1 (userPacket "PA_a" 1), arrival 2 (userPacket "PA_b" 7),
          .dataChannelReceiveStates .asListed 3, arrival 4 (userPacket "PA_a" 2)])).Pairwise
        (· < ·) :=
  ⟨by decide +kernel, delivered_increasing 0 false "PA_a" _ (by decide +kernel) (by decide +kernel)⟩

/-- The server sends a packet again that the session has got, and its event is emitted
again, although the entry of the publisher is there and not expired. -/
theorem delivered_twice : Along step (Alive "PA_a") (new 0 false)
        [arrival 1 (userPacket "PA_a" 1), .dataChannelReceiveStates .asListed 2,
          arrival 3 (userPacket "PA_a" 1)] ∧ outputs step (new 0 false)
        [arrival 1 (userPacket "PA_a" 1), .dataChannelReceiveStates .asListed 2,
          arrival 3 (userPacket "PA_a" 1)] = [.event .reliable (userPacket "PA_a" 1)
            (.data .reliable (some "PA_a") (some "alice") [] none .none),
          .receiveStates [("PA_a", 1)], .event .reliable (userPacket "PA_a" 1)
            (.data .reliable (some "PA_a") (some "alice") [] none .none)] ∧
      delivered "PA_a" (outputs step (new 0 false)
        [arrival 1 (userPacket "PA_a" 1), .dataChannelReceiveStates .asListed 2,
          arrival 3 (userPacket "PA_a" 1)]) = [1, 1] := by
  decide +kernel

end Receiver

end LiveKit.RtcEngine
