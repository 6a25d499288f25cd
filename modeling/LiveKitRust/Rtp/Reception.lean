import LiveKitRust.Base.Machine
import LiveKitRust.Rtp.VideoStream
import Mathlib.Data.List.Chain

/-!
# VP8 frames out of the packets that arrive

A frame is complete if it is what is in a run of packets that arrived one after the other, with
consecutive sequence numbers, from one that starts a partition with index 0 to the first one with
the marker (`Complete`).

The assembler's buffer is what the last packets have of a frame that has begun (`Tracks`). A packet
keeps it so if it has a place in that (`Fits`), which the assembler does not see to:

* a packet without the S bit where no frame has begun is taken for a frame of its own, unless there
  was a gap just before;
* any packet with the S bit begins a frame, also if it is for a later partition;
* a packet that cannot be parsed, or is empty, is left out, and the next one goes on where the last
  one stopped;
* flags of an earlier packet are taken for flags of one that has none (`Vp8Packet.Reads`).
-/

open Machine Rust List

namespace LiveKit.Rtp

/-! ### Frames in a sequence of packets -/

structure Begins (segment : List ReceivedRtpPacket) : Prop where
  consecutive : segment.IsChain fun packet next => next.sequenceNumber = packet.sequenceNumber + 1
  first : ∃ packet, segment.head? = some packet ∧ startsPartition packet.payload = true ∧
    partitionIndex packet.payload = 0

def dataOf (segment : List ReceivedRtpPacket) : Bytes :=
  (segment.map fun packet => vp8Payload packet.payload).flatten

structure Completes (received : List ReceivedRtpPacket) (frame : Bytes) : Prop where
  segment : ∃ init last, init ++ [last] <:+ received ∧ Begins (init ++ [last]) ∧
    last.marker = true ∧ (∀ packet ∈ init, packet.marker = false) ∧ frame = dataOf (init ++ [last])

def Complete (received : List ReceivedRtpPacket) (frame : Bytes) : Prop :=
  ∃ before, before <+: received ∧ Completes before frame

def InSequence (received : List ReceivedRtpPacket) (packet : ReceivedRtpPacket) : Prop :=
  ∀ last, received.getLast? = some last → packet.sequenceNumber = last.sequenceNumber + 1

lemma dataOf_append (segment packet) :
    dataOf (segment ++ [packet]) = dataOf segment ++ vp8Payload packet.payload := by
  unfold dataOf
  rw [map_append, flatten_append]
  exact congrArg (_ ++ ·) (flatten_singleton ..)

namespace Begins

variable {recv segment : List ReceivedRtpPacket} {packet : ReceivedRtpPacket}

lemma singleton (hst : startsPartition packet.payload = true)
    (hindex : partitionIndex packet.payload = 0) : Begins [packet] :=
  ⟨.singleton packet, packet, rfl, hst, hindex⟩

lemma ne_nil (h : Begins segment) : segment ≠ [] := by
  rintro rfl
  obtain ⟨_, hhead, -⟩ := h.first
  cases hhead

lemma concat (h : Begins segment) (hsuffix : segment <:+ recv)
    (hseq : InSequence recv packet) : Begins (segment ++ [packet]) := by
  obtain ⟨_, rfl⟩ := hsuffix
  constructor
  · refine isChain_append.mpr ⟨h.consecutive, .singleton packet, ?_⟩
    intro last hlast _ hn
    cases hn
    refine hseq last ?_
    rw [getLast?_append_of_ne_nil _ h.ne_nil]
    exact hlast
  · obtain ⟨first, hhead, hf⟩ := h.first
    refine ⟨first, ?_, hf⟩
    rw [head?_append_of_ne_nil _ h.ne_nil]
    exact hhead

end Begins

lemma Complete.exists_start {arrived fr} (h : Complete arrived fr) :
    ∃ packet ∈ arrived, startsPartition packet.payload = true := by
  obtain ⟨_, hbef, ⟨_, _, hsuffix, hbegins, -⟩⟩ := h
  obtain ⟨packet, hhead, hst, -⟩ := hbegins.first
  exact ⟨packet, hbef.subset (hsuffix.subset (mem_of_head? hhead)), hst⟩

/-! ### The assembler -/

namespace Vp8FrameAssembler

/-- The buffer is what the last packets that arrived have of a frame that is not complete. -/
structure Tracks (received : List ReceivedRtpPacket) (assembler : Vp8FrameAssembler) : Prop where
  begun : assembler.assembling = true → ∃ segment, segment <:+ received ∧ Begins segment ∧
    (∀ packet ∈ segment, packet.marker = false) ∧ assembler.buffer = dataOf segment
  idle : assembler.skipUntilS = true → assembler.assembling = false

/-- The parser finds a descriptor and data. -/
def parses (self : Vp8FrameAssembler) (payload : Bytes) : Bool :=
  match (self.parser.depacketize payload).2 with
  | .ok _ => true
  | _ => false

/-- The packet has a place in the frame that has begun, or begins one, or is left out between two
frames. -/
def Fits (self : Vp8FrameAssembler) (payload : Bytes) (marker : Bool) : Prop :=
  if payload = [] then marker = true → self.assembling = false
  else if self.parses payload = false then self.assembling = false
  else if startsPartition payload = true then
    partitionIndex payload = 0 ∧ self.parser.Reads payload
  else self.skipUntilS = true ∨ (self.assembling = true ∧ self.parser.Reads payload)
  deriving Decidable

variable {recv : List ReceivedRtpPacket} {s : Vp8FrameAssembler} {packet : ReceivedRtpPacket}

lemma tracks_of_idle (h : s.assembling = false) : Tracks recv s :=
  ⟨fun hasm => (nomatch h.symm.trans hasm), fun _ => h⟩

lemma exists_data (h : s.parses packet.payload = true) :
    ∃ data, (s.parser.depacketize packet.payload).2 = .ok data := by
  unfold parses at h
  split at h
  next data hok => exact ⟨data, hok⟩
  · cases h

structure Sound (received : List ReceivedRtpPacket)
    (fed : Vp8FrameAssembler × Outcome Error Bytes) : Prop where
  tracks : Tracks received fed.1
  completes : ∀ frame, fed.2 = .ok frame → frame ≠ [] → Completes received frame

/-- Nothing comes back, as the assembler waits for more. -/
lemma sound_of_tracks (h : Tracks recv s) : Sound recv (s, .ok []) where
  tracks := h
  completes fr hf hne := by
    cases hf
    exact absurd rfl hne

lemma sound_of_completes {fr : Bytes} (hidle : s.assembling = false)
    (h : Completes recv fr) : Sound recv (s, .ok fr) where
  tracks := tracks_of_idle hidle
  completes frame' hf _ := by
    cases hf
    exact h

lemma sound_start (hskip : s.skipUntilS = false)
    (hst : startsPartition packet.payload = true) (hindex : partitionIndex packet.payload = 0) :
    let fed := s.accept true packet.marker (vp8Payload packet.payload)
    Sound (recv ++ [packet]) (fed.1, .ok fed.2) := by
  have hbegins := Begins.singleton hst hindex
  have hsuffix : [packet] <:+ recv ++ [packet] := suffix_append ..
  have hdata : dataOf [packet] = vp8Payload packet.payload := flatten_singleton ..
  cases hmarker : packet.marker with
  | true =>
    exact sound_of_completes rfl ⟨[], packet, hsuffix, hbegins, hmarker, nofun, hdata.symm⟩
  | false =>
    refine sound_of_tracks ⟨fun _ => ⟨[packet], hsuffix, hbegins, ?_, hdata.symm⟩,
      fun h => nomatch hskip.symm.trans h⟩
    exact forall_mem_singleton.mpr hmarker

lemma sound_continue (h : Tracks recv s) (hskip : s.skipUntilS = false)
    (hasm : s.assembling = true) (hseq : InSequence recv packet) :
    let fed := s.accept false packet.marker (vp8Payload packet.payload)
    Sound (recv ++ [packet]) (fed.1, .ok fed.2) := by
  obtain ⟨segment, hsuffix, hbegins, hunmarked, hbuffer⟩ := h.begun hasm
  have hbegins' := hbegins.concat hsuffix hseq
  have hsuffix' : segment ++ [packet] <:+ recv ++ [packet] := by
    obtain ⟨pre, rfl⟩ := hsuffix
    exact ⟨pre, (append_assoc ..).symm⟩
  have hdata : s.buffer ++ vp8Payload packet.payload = dataOf (segment ++ [packet]) := by
    rw [dataOf_append, hbuffer]
  simp only [accept, Bool.false_eq_true, if_false, hasm, if_true]
  cases hmarker : packet.marker with
  | true =>
    exact sound_of_completes rfl ⟨segment, packet, hsuffix', hbegins', hmarker, hunmarked, hdata⟩
  | false =>
    refine sound_of_tracks ⟨fun _ => ⟨segment ++ [packet], hsuffix', hbegins', ?_, hdata⟩,
      fun h => nomatch hskip.symm.trans h⟩
    exact forall_mem_append.mpr ⟨hunmarked, forall_mem_singleton.mpr hmarker⟩

lemma tracks_empty (h : Tracks recv s) (hseq : s.assembling = true → InSequence recv packet)
    (hpay : packet.payload = []) (hfits : s.Fits packet.payload packet.marker) :
    Tracks (recv ++ [packet]) s := by
  refine ⟨fun hasm => ?_, h.idle⟩
  have hmarker : packet.marker = false := by
    unfold Fits at hfits
    rw [if_pos hpay] at hfits
    cases hmarker : packet.marker with
    | false => rfl
    | true => cases (hfits hmarker).symm.trans hasm
  obtain ⟨segment, ⟨pre, rfl⟩, hbegins, hunmarked, hbuffer⟩ := h.begun hasm
  refine ⟨segment ++ [packet], ⟨pre, (append_assoc ..).symm⟩,
    hbegins.concat ⟨pre, rfl⟩ (hseq hasm), ?_, ?_⟩
  · exact forall_mem_append.mpr ⟨hunmarked, forall_mem_singleton.mpr hmarker⟩
  · rw [dataOf_append, hbuffer, hpay]
    exact (append_nil _).symm

lemma sound_unparsed (hparses : s.parses packet.payload = false) (hidle : s.assembling = false) :
    Sound recv (s.feed packet.payload packet.marker) := by
  obtain ⟨e, herr⟩ : ∃ e, (s.parser.depacketize packet.payload).2 = .err e := by
    cases hres : (s.parser.depacketize packet.payload).2 with
    | ok =>
      unfold parses at hparses
      rw [hres] at hparses
      cases hparses
    | err e => exact ⟨e, rfl⟩
    | panic => exact absurd hres (Vp8Packet.depacketize_ne_panic _ _)
  rw [feed_of_err herr]
  exact ⟨tracks_of_idle hidle, nofun⟩

lemma sound_feed (h : Tracks recv s) (hseq : s.assembling = true → InSequence recv packet)
    (hpay : packet.payload ≠ []) (hfits : s.Fits packet.payload packet.marker) :
    Sound (recv ++ [packet]) (s.feed packet.payload packet.marker) := by
  unfold Fits at hfits
  rw [if_neg hpay] at hfits
  split at hfits
  next hparses => exact sound_unparsed hparses hfits
  next hparses =>
    obtain ⟨_, hok⟩ := exists_data (eq_true_of_ne_false hparses)
    split at hfits
    next hst =>
      obtain ⟨hindex, hreads⟩ := hfits
      obtain ⟨rfl, -⟩ := Vp8Packet.depacketize_eq_ok hreads hok
      rw [feed_of_taken hok fun _ => hst, hst]
      exact sound_start rfl hst hindex
    next hst =>
      have hst := eq_false_of_ne_true hst
      cases hskip : s.skipUntilS with
      | true =>
        rw [feed_of_skipped hok hskip hst]
        exact sound_of_tracks (tracks_of_idle (h.idle hskip))
      | false =>
        have htk : ¬ s.skipUntilS = true := by
          rw [hskip]
          exact Bool.false_ne_true
        obtain ⟨hasm, hreads⟩ := hfits.resolve_left htk
        obtain ⟨rfl, -⟩ := Vp8Packet.depacketize_eq_ok hreads hok
        rw [feed_of_taken hok fun hskip' => absurd hskip' htk, hst]
        have hparsed : Tracks recv { s.parsed packet.payload with skipUntilS := false } :=
          ⟨h.begun, nofun⟩
        exact sound_continue hparsed rfl hasm (hseq hasm)

end Vp8FrameAssembler

/-! ### The stream -/

namespace NativeVideoStream

structure Inv (received : List ReceivedRtpPacket) (stream : NativeVideoStream) : Prop where
  lastSeq : stream.lastSeq = received.getLast?.map ReceivedRtpPacket.sequenceNumber
  h264 : ∀ dep, stream.depacketizer = .h264 dep → stream.codecType ≠ some .vp8
  vp8 : ∀ assembler, stream.depacketizer = .vp8 assembler →
    stream.codecType = some .vp8 ∧ assembler.Tracks received

/-- The stream when it has looked at the number of a packet, and not at the payload yet. -/
structure Prepared (received : List ReceivedRtpPacket) (packet : ReceivedRtpPacket)
    (stream : NativeVideoStream) : Prop where
  lastSeq : stream.lastSeq = some packet.sequenceNumber
  h264 : ∀ dep, stream.depacketizer = .h264 dep → stream.codecType ≠ some .vp8
  vp8 : ∀ assembler, stream.depacketizer = .vp8 assembler →
    stream.codecType = some .vp8 ∧ assembler.Tracks received ∧
      (assembler.assembling = true → InSequence received packet)

structure Good (received : List ReceivedRtpPacket) (result : NativeVideoStream × List Handed) :
    Prop where
  inv : Inv received result.1
  completes : ∀ frame timestampUs, .vp8 frame timestampUs ∈ result.2 → Completes received frame

variable {recv : List ReceivedRtpPacket} {s : NativeVideoStream} {packet : ReceivedRtpPacket}

section

variable (h : Inv recv s)
include h

lemma inv_setCodec (codec) : Inv recv (s.setCodec codec) := by
  cases codec with
  | h264 => exact ⟨h.lastSeq, nofun, nofun⟩
  | vp8 =>
    refine ⟨h.lastSeq, nofun, fun asm hdep => ⟨rfl, ?_⟩⟩
    cases hdep
    exact Vp8FrameAssembler.tracks_of_idle rfl

lemma inv_detectCodecType (explicitMime payloadType data) :
    Inv recv (s.detectCodecType explicitMime payloadType data) := by
  unfold detectCodecType
  split
  · exact h
  next hn =>
    split
    · exact inv_setCodec h _
    · split
      · exact inv_setCodec h _
      · split
        · exact inv_setCodec h _
        · refine ⟨h.lastSeq, nofun, fun asm hdep => ?_⟩
          rw [(h.vp8 asm hdep).1] at hn
          exact absurd rfl hn

lemma prepared_trackSequence : Prepared recv packet (s.trackSequence packet.sequenceNumber) := by
  unfold trackSequence
  split
  next assembler hlast hdep =>
    obtain ⟨hcodec, htrs⟩ := h.vp8 assembler hdep
    split
    · refine ⟨rfl, nofun, fun assembler' hdep' => ?_⟩
      cases hdep'
      exact ⟨hcodec, Vp8FrameAssembler.tracks_of_idle rfl, nofun⟩
    next hn =>
      refine ⟨rfl, h.h264, fun assembler' hdep' => ?_⟩
      cases hdep.symm.trans hdep'
      refine ⟨hcodec, htrs, fun _ other hot => ?_⟩
      have heq := h.lastSeq
      rw [hot, hlast] at heq
      rw [← Option.some.inj heq]
      exact not_not.mp hn
  next hnot =>
    refine ⟨rfl, h.h264, fun assembler hdep => ?_⟩
    obtain ⟨hcodec, htrs⟩ := h.vp8 assembler hdep
    refine ⟨hcodec, htrs, fun _ other hot => ?_⟩
    have heq := h.lastSeq
    rw [hot] at heq
    exact (hnot _ _ heq hdep).elim

lemma inv_bringUp {decoder isKey ready stream} (hup : s.bringUp decoder isKey ready = some stream) :
    Inv recv stream := by
  unfold bringUp at hup
  split at hup
  · cases hup
    exact h
  · split at hup
    · cases hup
      exact ⟨h.lastSeq, h.h264, h.vp8⟩
    · cases hup

lemma good_of_inv : Good recv (s, []) := ⟨h, nofun⟩

lemma good_handOver (ready : Bool) (frameData : Bytes) (rtpTimestamp : UInt32)
    (hf : s.codecType = some .vp8 → frameData ≠ [] → Completes recv frameData) :
    Good recv (s.handOver ready frameData rtpTimestamp) := by
  unfold handOver
  split
  · exact good_of_inv h
  next hdata =>
    unfold feedDecoder
    split
    · exact good_of_inv h
    · unfold feedH264Decoder
      dsimp only
      split
      · exact good_of_inv h
      next hup =>
        refine ⟨inv_bringUp h hup, fun fr timestampUs hm => ?_⟩
        split at hm
        · cases mem_singleton.mp hm
        · cases hm
    next hcodec =>
      unfold feedVp8Decoder
      dsimp only
      split
      · exact good_of_inv h
      next hup =>
        refine ⟨inv_bringUp h hup, fun fr timestampUs hm => ?_⟩
        split at hm
        · cases mem_singleton.mp hm
          exact hf hcodec fun hnil => hdata (congrArg length hnil)
        · cases hm

end

def prepare (self : NativeVideoStream) (explicitMime : Option String) (packet : ReceivedRtpPacket) :
    NativeVideoStream :=
  (self.detectCodecType explicitMime packet.payloadType packet.payload).trackSequence
    packet.sequenceNumber

/-- The payload is taken to be VP8 after all. -/
def switches (self : NativeVideoStream) (payload : Bytes) : Bool :=
  match self.depacketizer, payload with
  | .h264 dep, first :: _ =>
    match (dep.depacketize payload).2 with
    | .err _ => decide (self.codecType = some .h264) && !isH264Like first
    | _ => false
  | _, _ => false

def assemblerFor (self : NativeVideoStream) (explicitMime : Option String)
    (packet : ReceivedRtpPacket) : Option Vp8FrameAssembler :=
  match (self.prepare explicitMime packet).depacketizer with
  | .vp8 assembler => some assembler
  | .h264 _ =>
    if (self.prepare explicitMime packet).switches packet.payload then some .default else none

lemma inv_concat {stream} (hlastSeq : stream.lastSeq = some packet.sequenceNumber)
    (hh264 : ∀ dep, stream.depacketizer = .h264 dep → stream.codecType ≠ some .vp8)
    (hvp8 : ∀ asm, stream.depacketizer = .vp8 asm →
      stream.codecType = some .vp8 ∧ asm.Tracks (recv ++ [packet])) :
    Inv (recv ++ [packet]) stream := by
  refine ⟨?_, hh264, hvp8⟩
  rw [hlastSeq, getLast?_concat]
  rfl

lemma good_depacketize (hlastSeq : s.lastSeq = some packet.sequenceNumber)
    (hcodec : s.codecType = some .vp8) {asm} (hdep : s.depacketizer = .vp8 asm)
    (htrs : asm.Tracks recv) (hseq : asm.assembling = true → InSequence recv packet)
    (hpay : packet.payload ≠ []) (hfits : asm.Fits packet.payload packet.marker) :
    let res := s.depacketize packet.payload packet.marker
    res.1.codecType = some .vp8 ∧ Inv (recv ++ [packet]) res.1 ∧
      ∀ frameData, res.2 = .ok frameData → ∀ ready,
        Good (recv ++ [packet]) (res.1.handOver ready frameData packet.timestamp) := by
  have hs := Vp8FrameAssembler.sound_feed htrs hseq hpay hfits
  have heq : s.depacketize packet.payload packet.marker =
      ({ s with depacketizer := .vp8 (asm.feed packet.payload packet.marker).1 },
        (asm.feed packet.payload packet.marker).2) := by
    unfold depacketize
    rw [hdep]
  rw [heq]
  have hinv : Inv (recv ++ [packet])
      { s with depacketizer := .vp8 (asm.feed packet.payload packet.marker).1 } := by
    refine inv_concat hlastSeq nofun fun assembler' h => ⟨hcodec, ?_⟩
    cases h
    exact hs.tracks
  refine ⟨hcodec, hinv, fun frameData hok ready => ?_⟩
  exact good_handOver hinv ready frameData _ fun _ => hs.completes frameData hok

lemma good_processPayload_vp8 (h : Prepared recv packet s) (ready : Bool) {assembler}
    (hdep : s.depacketizer = .vp8 assembler) (hfits : assembler.Fits packet.payload packet.marker) :
    Good (recv ++ [packet]) (s.processPayload ready packet) := by
  obtain ⟨hcodec, htrs, hseq⟩ := h.vp8 assembler hdep
  unfold processPayload
  split
  next hpay =>
    refine good_of_inv (inv_concat h.lastSeq h.h264 fun assembler' hdep' => ⟨hcodec, ?_⟩)
    cases hdep.symm.trans hdep'
    exact Vp8FrameAssembler.tracks_empty htrs hseq hpay hfits
  next hpay =>
    obtain ⟨hcodec', hinv, hgood⟩ := good_depacketize h.lastSeq hcodec hdep htrs hseq
      (hpay ▸ cons_ne_nil _ _) hfits
    split
    next heq =>
      rw [heq] at hgood
      exact hgood _ rfl ready
    next heq =>
      rw [heq] at hinv
      exact good_of_inv hinv
    next heq =>
      rw [heq] at hcodec' hinv
      rw [if_neg fun hh264 => by rw [hcodec'] at hh264; cases hh264.1]
      exact good_of_inv hinv

lemma good_processPayload_h264 (h : Prepared recv packet s) (ready : Bool) {dep}
    (hdep : s.depacketizer = .h264 dep) (hfits : s.switches packet.payload = true →
      Vp8FrameAssembler.default.Fits packet.payload packet.marker) :
    Good (recv ++ [packet]) (s.processPayload ready packet) := by
  have hcodec := h.h264 dep hdep
  have hinv (dep' : H264Packet) : Inv (recv ++ [packet]) { s with depacketizer := .h264 dep' } :=
    inv_concat h.lastSeq (fun _ _ => hcodec) (by simp)
  unfold processPayload
  split
  · refine good_of_inv (inv_concat h.lastSeq h.h264 fun asm hvp8 => ?_)
    cases hdep.symm.trans hvp8
  next rest hpay =>
    have heq : s.depacketize packet.payload packet.marker =
        ({ s with depacketizer := .h264 (dep.depacketize packet.payload).1 },
          (dep.depacketize packet.payload).2) := by
      unfold depacketize
      rw [hdep]
    rw [heq]
    cases hres : (dep.depacketize packet.payload).2 with
    | ok frameData => exact good_handOver (hinv _) ready frameData _ fun hvp8 => absurd hvp8 hcodec
    | panic => exact good_of_inv (hinv _)
    | err =>
      dsimp only
      split
      next hswitch =>
        have hswitches : s.switches packet.payload = true := by
          unfold switches
          rw [hdep, hpay]
          rw [hpay] at hres
          dsimp only
          rw [hres]
          simp [hswitch.1, hswitch.2]
        -- the same payload again, for a new assembler
        obtain ⟨-, hinv', hgood⟩ := @good_depacketize recv
          ({ s with depacketizer := .h264 (dep.depacketize packet.payload).1 } :
            NativeVideoStream).switchToVp8 packet h.lastSeq rfl .default rfl
          (Vp8FrameAssembler.tracks_of_idle rfl) (fun hidle => by cases hidle)
          (hpay ▸ cons_ne_nil _ _) (hfits hswitches)
        split
        next hre =>
          rw [hre] at hgood
          exact hgood _ rfl ready
        next hre =>
          rw [hre] at hinv'
          exact good_of_inv hinv'
      · exact good_of_inv (hinv _)

lemma good_processRtpPacket (h : Inv recv s) (explicitMime ready)
    (hfits : ∀ asm, s.assemblerFor explicitMime packet = some asm →
      asm.Fits packet.payload packet.marker) :
    Good (recv ++ [packet]) (s.processRtpPacket explicitMime ready packet) := by
  have hprepared : Prepared recv packet (s.prepare explicitMime packet) :=
    prepared_trackSequence (inv_detectCodecType h explicitMime packet.payloadType packet.payload)
  unfold assemblerFor at hfits
  cases hdep : (s.prepare explicitMime packet).depacketizer with
  | vp8 asm =>
    rw [hdep] at hfits
    exact good_processPayload_vp8 hprepared ready hdep (hfits asm rfl)
  | h264 =>
    rw [hdep] at hfits
    refine good_processPayload_h264 hprepared ready hdep fun hswitches => ?_
    exact hfits .default (if_pos hswitches)

/-! ### Runs -/

def packetsOf (inputs : List Input) : List ReceivedRtpPacket :=
  inputs.filterMap fun input =>
    match input with
    | .packet _ _ packet => some packet
    | .close => none

def PacketFits (self : NativeVideoStream) : Input → Prop
  | .packet explicitMime _ packet => self.closed = false →
    ∀ assembler ∈ self.assemblerFor explicitMime packet, assembler.Fits packet.payload packet.marker
  | .close => True

instance (self : NativeVideoStream) (input : Input) : Decidable (self.PacketFits input) := by
  unfold PacketFits
  split <;> infer_instance

lemma packetsOf_packet (is explicitMime ready packet) :
    packetsOf (is ++ [.packet explicitMime ready packet]) = packetsOf is ++ [packet] := by
  unfold packetsOf
  rw [filterMap_append]
  rfl

lemma inv_state {is} (h : Along step PacketFits build is) :
    (Machine.state step build is).closed = true ∨
      Inv (packetsOf is) (Machine.state step build is) := by
  induction is using reverseRecOn with
  | nil => exact .inr ⟨rfl, nofun, nofun⟩
  | append_singleton is i ih =>
    have hbef := ih h.append_left
    have hfits := h.append_right.1
    rw [state_concat]
    cases i with
    | close => exact .inl rfl
    | packet explicitMime ready packet =>
      rw [step]
      cases hcl : (state step build is).closed with
      | true => exact .inl hcl
      | false =>
        have hinv := hbef.resolve_left (ne_true_of_eq_false hcl)
        rw [packetsOf_packet]
        exact .inr (good_processRtpPacket hinv explicitMime ready (hfits hcl)).inv

/-- Whatever is lost, repeated or out of order, the VP8 decoder gets complete frames only, if each
packet fits into what the assembler has. -/
theorem handed_complete {inputs : List Input} (h : Along step PacketFits build inputs)
    {frame : Bytes} {timestampUs : ℕ} (h_mem : .vp8 frame timestampUs ∈ outputs step build inputs) :
    Complete (packetsOf inputs) frame := by
  obtain ⟨before, i, after, rfl, hout⟩ := mem_outputs.mp h_mem
  have hfits := h.append_right.1
  cases i with
  | close => cases hout
  | packet explicitMime ready packet =>
    rw [step] at hout
    cases hcl : (state step build before).closed with
    | true =>
      rw [if_pos hcl] at hout
      cases hout
    | false =>
      rw [if_neg (ne_true_of_eq_false hcl)] at hout
      have hinv := (inv_state h.append_left).resolve_left (ne_true_of_eq_false hcl)
      have hgood := good_processRtpPacket hinv explicitMime ready (hfits hcl)
      refine ⟨packetsOf before ++ [packet], ?_, hgood.completes frame timestampUs hout⟩
      have hearlier : before ++ [.packet explicitMime ready packet] <+:
          before ++ .packet explicitMime ready packet :: after :=
        ⟨after, append_assoc ..⟩
      rw [← packetsOf_packet before explicitMime ready packet]
      exact hearlier.filterMap _

/-- Two fragments of a key frame; the next frame loses its first one, and a third one follows. -/
def joinedAtKeyFrame : List Input :=
  [.packet none true ⟨96, 65535, 0, false, [0x90, 0x80, 0x05, 0x10]⟩,
    .packet none true ⟨96, 0, 0, true, [0x80, 0x80, 0x05, 0x11]⟩,
    .packet none true ⟨96, 2, 3000, true, [0x80, 0x80, 0x06, 0x13]⟩,
    .packet none true ⟨96, 3, 6000, true, [0x90, 0x80, 0x07, 0x15]⟩]

theorem handed_complete_joinedAtKeyFrame : Along step PacketFits build joinedAtKeyFrame ∧
      outputs step build joinedAtKeyFrame = [.vp8 [0x10, 0x11] 0, .vp8 [0x15] 66666] ∧
        Complete (packetsOf joinedAtKeyFrame) [0x10, 0x11] := by
  have hfits : Along step PacketFits build joinedAtKeyFrame := by decide +kernel
  have hout : outputs step build joinedAtKeyFrame = [.vp8 [0x10, 0x11] 0, .vp8 [0x15] 66666] := by
    decide +kernel
  have hm : .vp8 [0x10, 0x11] 0 ∈ outputs step build joinedAtKeyFrame := by
    exact .head _
  exact ⟨hfits, hout, handed_complete hfits hm⟩

/-- The first packet that arrives is from the middle of a frame. -/
def joinedMidFrame : List Input := [.packet none true ⟨96, 7, 0, false, [0x80, 0x80, 0x05, 0x20]⟩]

/-- The packet is handed to the decoder as if it were a frame. -/
theorem midFrame_handed : .vp8 [0x20] 0 ∈ outputs step build joinedMidFrame ∧
      ¬ Complete (packetsOf joinedMidFrame) [0x20] := by
  refine ⟨by decide +kernel, fun h => ?_⟩
  obtain ⟨packet, _, _⟩ := h.exists_start
  revert packet
  decide +kernel

end NativeVideoStream

end LiveKit.Rtp
