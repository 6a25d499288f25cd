import LiveKitRust.DataTrack.Codec
import LiveKitRust.DataTrack.Depacketizer
import LiveKitRust.DataTrack.Packetizer

/-!
# From a frame to its packets and back

A sender packetizes frames one after the other and serializes the packets; a receiver deserializes
them and pushes them, in the same order and without loss, into one depacketizer. It gets the
sender's frames, in their order, apart from those that have no packet at all (an empty payload) or
more packets than the depacketizer buffers.

Between two frames the depacketizer is `Idle`. Within a frame it is `Holding` the chunks received so
far (`frames_of_rest` is the induction over the chunks still to come); the packet that would be the
129th drops the partial frame, and the remaining packets find none (`frames_of_idle`).
-/

open Rust Sequence List

namespace LiveKit.DataTrack

open Depacketizer

/-! ### Packetizing several frames -/

def Packetizer.packetizeAll (self : Packetizer) :
    List (Instant × PacketizerFrame) → Outcome PacketizerError (List (List Packet))
  | [] => .ok []
  | (now, frame) :: rest => do
    let packets ← (self.packetize now frame).1
    let more ← (self.packetize now frame).2.packetizeAll rest
    return packets :: more

variable (self : Depacketizer)

def emittedFrames (pushes : List (Packet × DepacketizerPushOptions)) : List DepacketizerFrame :=
  (Machine.outputs Depacketizer.step self pushes).filterMap (·.frame)

@[simp] lemma emittedFrames_nil : emittedFrames self [] = [] := rfl

lemma emittedFrames_cons (pushed pushes) :
    emittedFrames self (pushed :: pushes) = (self.push pushed.1 pushed.2).1.frame.toList ++
        emittedFrames (self.push pushed.1 pushed.2).2 pushes := by
  rw [emittedFrames, Machine.outputs_cons, filterMap_append]
  change filterMap _ [(self.push pushed.1 pushed.2).1] ++
    emittedFrames (self.push pushed.1 pushed.2).2 pushes = _
  cases h : (self.push pushed.1 pushed.2).1.frame with
  | none => rw [filterMap_cons_none h, filterMap_nil, Option.toList_none]
  | some => rw [filterMap_cons_some h, filterMap_nil, Option.toList_some]

lemma emittedFrames_append (pushes more) :
    emittedFrames self (pushes ++ more) =
      emittedFrames self pushes ++ emittedFrames (Machine.state step self pushes) more := by
  rw [emittedFrames, Machine.outputs_append, filterMap_append]
  rfl

/-! ### The depacketizer within a frame -/

def Idle : Prop := ∀ n, self.partials.lookup n = none

/-- The partial frame of `header`'s frame number is the only one, and it has
exactly the chunks `received`, numbered from `sequence` on. -/
structure Holding (state : Depacketizer) (header : Header) (sequence : UInt16)
    (received : List Bytes) : Prop where
  partialFrame : ∃ partialFrame : PartialFrame,
    state.partials.lookup header.frameNumber = some partialFrame ∧
    partialFrame.startSequence = sequence ∧
    partialFrame.extensions = header.extensions ∧
    partialFrame.payloads.len = received.length ∧
    ∀ i < 2 ^ 16, partialFrame.payloads.lookup (sequence + UInt16.ofNat i) = received[i]?
  others : ∀ n, n ≠ header.frameNumber → state.partials.lookup n = none

def fragment (header : Header) (sequence : UInt16) (count index : ℕ) (payload : Bytes) : Packet :=
  ⟨{ header with
      marker := Packetizer.frameMarker index count
      sequence := sequence + UInt16.ofNat index }, payload⟩

/-- The packets of a frame's last chunks `rest`, the first of them being number
`index` of `count`. -/
def fragments (header : Header) (sequence : UInt16) (count index : ℕ) (rest : List Bytes) :
    List Packet :=
  rest.mapIdx fun j payload => fragment header sequence count (index + j) payload

lemma framePackets_eq_fragments (header seq chunks) :
    Packetizer.framePackets header seq chunks = fragments header seq chunks.length 0 chunks := by
  unfold Packetizer.framePackets fragments fragment
  simp only [Nat.zero_add]

lemma fragments_cons (header seq count index data rest) :
    fragments header seq count index (data :: rest) =
      fragment header seq count index data :: fragments header seq count (index + 1) rest := by
  unfold fragments
  rw [mapIdx_cons]
  simp only [Nat.add_zero, Nat.add_assoc, Nat.add_comm 1]

variable {header : Header} {seq : UInt16} {count : ℕ} {self : Depacketizer}

lemma fragment_marker {index data} (hpos : 0 < index) (hlt : index < count) :
    (fragment header seq count index data).header.marker =
      if index + 1 = count then .final else .inter := by
  change Packetizer.frameMarker index count = _
  unfold Packetizer.frameMarker
  rw [if_neg (by omega), if_neg (by omega)]
  by_cases h : index + 1 = count
  · rw [if_pos h, if_pos (by omega)]
  · rw [if_neg h, if_neg (by omega)]

lemma fragment_marker_ne {index data} (hpos : 0 < index) (hlt : index < count) :
    (fragment header seq count index data).header.marker ≠ .single ∧
      (fragment header seq count index data).header.marker ≠ .start := by
  rw [fragment_marker hpos hlt]
  split <;> simp

lemma frames_of_idle (h : Idle self) (pushes)
    (hmarker : ∀ pkt ∈ packetsOf pushes, pkt.header.marker ≠ .single ∧ pkt.header.marker ≠ .start) :
    emittedFrames self pushes = [] ∧ Idle (Machine.state step self pushes) := by
  induction pushes generalizing self with
  | nil => exact ⟨rfl, h⟩
  | cons pushed pushes ih =>
    obtain ⟨hsingle, hst⟩ := hmarker pushed.1 (.head _)
    -- the packet finds no partial frame and the state stays as it is
    have hpush : self.push pushed.1 pushed.2 =
        (⟨none, some ⟨pushed.1.header.frameNumber, .unknownFrame⟩⟩, self) := by
      rw [push_of_ne hsingle hst, pushToPartial_unknown (h _)]
    have hr := ih h fun pkt hm => hmarker pkt (mem_cons_of_mem _ hm)
    rw [emittedFrames_cons, Machine.state_cons]
    change _ ∧ Idle (Machine.state step (self.push pushed.1 pushed.2).2 pushes)
    rw [hpush]
    exact hr

lemma Holding.idle_erase {recv} (h : Holding self header seq recv) :
    Idle ⟨self.partials.erase header.frameNumber⟩ := by
  intro n
  rw [AList.lookup_erase_ite]
  by_cases hn : n = header.frameNumber
  · rw [if_pos hn]
  · rw [if_neg hn]
    exact h.others n hn

lemma lookup_insert_next {payloads : Map UInt16 Bytes} {recv : List Bytes}
    (hlen : recv.length < 2 ^ 16)
    (h : ∀ i < 2 ^ 16, payloads.lookup (seq + UInt16.ofNat i) = recv[i]?)
    (data : Bytes) {i : ℕ} (hi : i < 2 ^ 16) :
    (payloads.insert (seq + UInt16.ofNat recv.length) data).lookup
      (seq + UInt16.ofNat i) = (recv ++ [data])[i]? := by
  rw [AList.lookup_insert_ite]
  -- fewer than `2 ^ 16` chunks: their sequence numbers are distinct
  by_cases heq : i = recv.length
  · rw [if_pos ((add_ofNat_inj hi hlen).mpr heq), heq, getElem?_concat_length]
  · rw [if_neg fun h' => heq ((add_ofNat_inj hi hlen).mp h'), h i hi, getElem?_append]
    split
    · rfl
    · rw [getElem?_eq_none (by omega), getElem?_eq_none (by simp; omega)]

lemma Idle.holding_start (h : Idle self) (header seq data) (hcount : 1 < count) (opts) :
    let pushed := self.push (fragment header seq count 0 data) opts
    pushed.1.frame = none ∧ Holding pushed.2 header seq [data] := by
  have hmarker : (fragment header seq count 0 data).header.marker = .start := by
    change Packetizer.frameMarker 0 count = _
    unfold Packetizer.frameMarker
    rw [if_neg (by omega), if_pos rfl]
  have hzero : seq + UInt16.ofNat 0 = seq := UInt16.add_zero seq
  obtain ⟨hf, hnew, hremoved⟩ :=
    @push_start self (fragment header seq count 0 data) opts hmarker
  -- an empty buffer with the first chunk added
  refine ⟨hf, ⟨_, hnew, hzero, rfl, rfl, fun i hi => ?_⟩, fun n hn => ?_⟩
  · change AList.lookup _ (AList.singleton (seq + UInt16.ofNat 0) data : Map UInt16 Bytes) = _
    have hnext := @lookup_insert_next seq ∅ [] (by decide) (by simp) data i hi
    rwa [length_nil, AList.insert_empty] at hnext
  · rcases hremoved n hn with hnone | hsm
    · exact hnone
    · rw [hsm, h n]

section Rest

variable {recv : List Bytes} (data : Bytes) (opts : DepacketizerPushOptions)

lemma push_fragment (hpos : 0 < recv.length) (hcount : recv.length < count) :
    self.push (fragment header seq count recv.length data) opts =
      self.pushToPartial (fragment header seq count recv.length data) := by
  obtain ⟨hsingle, hstart⟩ :=
    @fragment_marker_ne header seq count recv.length data hpos hcount
  exact push_of_ne hsingle hstart

section

variable (h : Holding self header seq recv)
include h

lemma Holding.push_full (hpos : 0 < recv.length)
    (hcount : recv.length < count) (hfull : 128 ≤ recv.length) :
    let pushed := self.push (fragment header seq count recv.length data) opts
    pushed.1.frame = none ∧ Idle pushed.2 := by
  obtain ⟨_, hl, -, -, hlen, -⟩ := h.partialFrame
  rw [push_fragment data opts hpos hcount, pushToPartial_full hl (hlen ▸ hfull)]
  exact ⟨rfl, h.idle_erase⟩

lemma Holding.push_inter (hpos : 0 < recv.length) (hcount : recv.length + 1 < count)
    (hroom : ¬ 128 ≤ recv.length) :
    let pushed := self.push (fragment header seq count recv.length data) opts
    pushed.1.frame = none ∧ Holding pushed.2 header seq (recv ++ [data]) := by
  obtain ⟨pf, hl, hstart, hext, hlen, hpayloads⟩ := h.partialFrame
  have hlt : recv.length < 2 ^ 16 := by omega
  have hmarker : (fragment header seq count recv.length data).header.marker ≠ .final := by
    rw [fragment_marker hpos (by omega), if_neg (by omega)]
    simp
  rw [push_fragment data opts hpos (by omega), pushToPartial_inter hl (hlen ▸ hroom) hmarker]
  refine ⟨rfl, ⟨{ pf with
    payloads := pf.payloads.insert (seq + UInt16.ofNat recv.length) data },
    ?_, hstart, hext, ?_, fun i hi => ?_⟩, fun n hn => ?_⟩
  · exact (AList.lookup_insertLast ..).trans (if_pos rfl)
  · -- no chunk has this sequence number yet, so the buffer grows by one
    have hnew : pf.payloads.lookup (seq + UInt16.ofNat recv.length) = none := by
      rw [hpayloads _ hlt, getElem?_eq_none (Nat.le_refl _)]
    calc (pf.payloads.insert (seq + UInt16.ofNat recv.length) data).len
        = pf.payloads.len + 1 := AList.len_insert_of_lookup_eq_none hnew data
      _ = recv.length + 1 := by rw [hlen]
      _ = (recv ++ [data]).length := by rw [length_append, length_singleton]
  · exact lookup_insert_next hlt hpayloads data hi
  · exact ((AList.lookup_insertLast ..).trans (if_neg hn)).trans (h.others n hn)

lemma Holding.push_final (hpos : 0 < recv.length) (hroom : ¬ 128 ≤ recv.length) :
    let pushed := self.push (fragment header seq (recv.length + 1) recv.length data) opts
    pushed.1.frame = some ⟨(recv ++ [data]).flatten, header.extensions⟩ ∧ Idle pushed.2 := by
  obtain ⟨pf, hl, hstart, hext, hlen, hpayloads⟩ := h.partialFrame
  have hlt : recv.length < 2 ^ 16 := by omega
  have hmarker : (fragment header seq (recv.length + 1) recv.length
      data).header.marker = .final := by
    rw [fragment_marker hpos (Nat.lt_succ_self _), if_pos rfl]
  let payloads := pf.payloads.insert (seq + UInt16.ofNat recv.length) data
  -- the buffer with the last chunk reads back all of them
  have hread : consecutive (fun s => payloads.lookup s) seq (recv.length + 1) =
      some (recv ++ [data]) := by
    have hall := consecutive_of_getElem? (f := fun s => payloads.lookup s) fun i hi =>
        lookup_insert_next hlt hpayloads data (by simp at hi; omega)
    rwa [length_append, length_singleton] at hall
  -- the frame is finalized over the range from its start to this packet
  rw [push_fragment data opts hpos (Nat.lt_succ_self _),
    pushToPartial_final hl (hlen ▸ hroom) hmarker]
  refine ⟨?_, h.idle_erase⟩
  rw [finalize_frame]
  change Option.map _ (consecutive _ pf.startSequence
    ((seq + UInt16.ofNat recv.length - pf.startSequence).toNat + 1)) = _
  rw [hstart, toNat_add_ofNat_sub seq hlt]
  change Option.map _ (consecutive (fun s => payloads.lookup s) _ _) = _
  rw [hread, Option.map_some, ← hext]

end

end Rest

variable {pushes : List (Packet × DepacketizerPushOptions)} {now : Instant}
  {fr : PacketizerFrame} {packets : List (List Packet)}
  {frames : List (Instant × PacketizerFrame)}

lemma frames_of_rest {recv} (h : Holding self header seq recv) (hpos : 0 < recv.length) {rest}
    (hr : rest ≠ []) (hpushes : packetsOf pushes =
      fragments header seq (recv.length + rest.length) recv.length rest) :
    emittedFrames self pushes = (if recv.length + rest.length ≤ 128 then
          [⟨(recv ++ rest).flatten, header.extensions⟩] else []) ∧
      Idle (Machine.state step self pushes) := by
  -- on the chunks still to come, with those received held in the buffer
  induction rest generalizing self recv pushes with
  | nil => exact absurd rfl hr
  | cons data rest ih =>
    rw [fragments_cons, packetsOf, map_eq_cons_iff] at hpushes
    obtain ⟨pushed, pushes, rfl, hfirst, hpushes⟩ := hpushes
    rw [emittedFrames_cons, Machine.state_cons]
    change _ ∧ Idle (Machine.state step (self.push pushed.1 pushed.2).2 pushes)
    rw [hfirst]
    by_cases hfull : 128 ≤ recv.length
    · -- this packet does not fit, and the remaining ones find no partial frame
      obtain ⟨hf, hidle⟩ := h.push_full data pushed.2 hpos
        (by simp : recv.length < recv.length + (data :: rest).length) hfull
      obtain ⟨hn, hend⟩ := frames_of_idle hidle pushes fun pkt hm => by
        rw [packetsOf, hpushes] at hm
        obtain ⟨j, _, rfl⟩ := mem_mapIdx.mp hm
        exact fragment_marker_ne (by omega) (by simp; omega)
      rw [hf, hn, if_neg (by simp; omega)]
      exact ⟨rfl, hend⟩
    · cases rest with
      | nil =>
        -- the last chunk comes in the final packet
        obtain ⟨hf, hidle⟩ := h.push_final data pushed.2 hpos hfull
        obtain rfl := map_eq_nil_iff.mp hpushes
        rw [length_singleton, hf, if_pos (by omega)]
        exact ⟨rfl, hidle⟩
      | cons next rest =>
        -- more chunks follow: this one is held and the induction goes on
        have hlen : (recv ++ [data]).length = recv.length + 1 := by simp
        have hcount : recv.length + (data :: next :: rest).length =
            (recv ++ [data]).length + (next :: rest).length := by simp; omega
        obtain ⟨hf, hheld⟩ := h.push_inter data pushed.2 hpos
          (by simp : recv.length + 1 < recv.length + (data :: next :: rest).length) hfull
        rw [hf, hcount]
        rw [hcount] at hheld
        obtain ⟨hframes, hend⟩ := ih hheld (by omega) (by simp)
          (by rw [← hcount, hlen]; exact hpushes)
        refine ⟨?_, hend⟩
        rw [hframes, append_assoc]
        rfl

/-- **One frame.** The packets of a frame take an idle depacketizer back to an
idle one, and deliver the frame if there are between one and 128 of them. -/
theorem frames_of_framePackets (h : Idle self) {chunks : List Bytes}
    (hpushes : packetsOf pushes = Packetizer.framePackets header seq chunks) :
    emittedFrames self pushes = (if 1 ≤ chunks.length ∧ chunks.length ≤ 128 then
          [⟨chunks.flatten, header.extensions⟩] else []) ∧
      Idle (Machine.state step self pushes) := by
  rw [framePackets_eq_fragments] at hpushes
  cases chunks with
  | nil =>
    -- an empty payload has no packet
    obtain rfl := map_eq_nil_iff.mp hpushes
    exact ⟨rfl, h⟩
  | cons data rest =>
    rw [fragments_cons, packetsOf, map_eq_cons_iff] at hpushes
    obtain ⟨pushed, pushes, rfl, hfirst, hpushes⟩ := hpushes
    rw [emittedFrames_cons, Machine.state_cons]
    change _ ∧ Idle (Machine.state step (self.push pushed.1 pushed.2).2 pushes)
    cases rest with
    | nil =>
      -- the only packet is a frame of its own
      have hsingle : pushed.1.header.marker = .single := by
        rw [hfirst]
        rfl
      obtain ⟨hf, hremoved⟩ := @push_single self pushed.1 pushed.2 hsingle
      obtain rfl := map_eq_nil_iff.mp hpushes
      refine ⟨?_, fun n => ?_⟩
      · rw [hf, hfirst, if_pos (by simp)]
        simp [fragment]
      · rcases hremoved n with hn | hsame
        · exact hn
        · exact hsame.trans (h n)
    | cons next rest =>
      rw [hfirst]
      obtain ⟨hf, hheld⟩ := h.holding_start header seq data
        (by simp : 1 < (data :: next :: rest).length) pushed.2
      have hcount : (data :: next :: rest).length = [data].length + (next :: rest).length := by
        simp
        omega
      rw [hcount] at hpushes hheld hf ⊢
      obtain ⟨hframes, hend⟩ := frames_of_rest hheld (by simp) (by simp) hpushes
      refine ⟨?_, hend⟩
      rw [hf, hframes]
      simp

/-! ### A sequence of frames -/

def deliverable (frames : List (Instant × PacketizerFrame)) (packets : List (List Packet)) :
    List DepacketizerFrame :=
  ((frames.zip packets).filter fun x =>
    1 ≤ x.2.length ∧ x.2.length ≤ Depacketizer.MAX_BUFFER_PACKETS).map
    fun x => ⟨x.1.2.payload, x.1.2.extensions⟩

variable {s : Packetizer}

lemma packetizeAll_cons {rest} (h : s.packetizeAll ((now, fr) :: rest) = .ok packets) :
    ∃ first more, packets = first :: more ∧ (s.packetize now fr).1 = .ok first ∧
      (s.packetize now fr).2.packetizeAll rest = .ok more := by
  obtain ⟨first, hf, h⟩ := Outcome.bind_eq_ok.mp h
  obtain ⟨more, hmore, h⟩ := Outcome.bind_eq_ok.mp h
  exact ⟨first, more, (Outcome.ok.inj h).symm, hf, hmore⟩

lemma packetize_eq_nil_iff {packets} (h : (s.packetize now fr).1 = .ok packets) :
    packets = [] ↔ fr.payload = [] := by
  obtain ⟨_, _, hsize, -, -, -, -, rfl, -⟩ := Packetizer.packetize_ok h
  rw [Packetizer.framePackets, mapIdx_eq_nil_iff]
  -- the chunks put together are the payload
  constructor
  · intro hnil
    rw [← flatten_intoChunks hsize fr.payload, hnil, flatten_nil]
  · intro hnil
    rw [hnil, intoChunks_nil]

lemma packetizeAll_zip (h : s.packetizeAll frames = .ok packets) :
    packets.length = frames.length ∧ ∀ x ∈ frames.zip packets, x.2 = [] ↔ x.1.2.payload = [] := by
  induction frames generalizing s packets with
  | nil =>
    cases h
    simp
  | cons _ _ ih =>
    obtain ⟨_, _, rfl, hf, hmore⟩ := packetizeAll_cons h
    obtain ⟨hlen, hzip⟩ := ih hmore
    exact ⟨by simp [hlen], forall_mem_cons.mpr ⟨packetize_eq_nil_iff hf, hzip⟩⟩

lemma frames_of_packetizeAll (h : s.packetizeAll frames = .ok packets) {depacketizer}
    (hidle : Idle depacketizer) (hpushes : packetsOf pushes = packets.flatten) :
    emittedFrames depacketizer pushes = deliverable frames packets := by
  induction frames generalizing s packets depacketizer pushes with
  | nil =>
    cases h
    obtain rfl := map_eq_nil_iff.mp hpushes
    rfl
  | cons x _ ih =>
    obtain ⟨_, fr⟩ := x
    obtain ⟨_, _, rfl, hf, hmore⟩ := packetizeAll_cons h
    obtain ⟨header, size, hsize, hext, -, -, -, rfl, -⟩ := Packetizer.packetize_ok hf
    rw [flatten_cons, packetsOf, map_eq_append_iff] at hpushes
    -- the pushes of this frame, then those of the others
    obtain ⟨_, _, rfl, hpushes, hpushes'⟩ := hpushes
    obtain ⟨hframes, hend⟩ := frames_of_framePackets hidle hpushes
    rw [emittedFrames_append, hframes, ih hmore hend hpushes', deliverable, deliverable,
      zip_cons_cons, filter_cons, flatten_intoChunks, hext]
    have hcount : (Packetizer.framePackets header s.sequence.get
        (intoChunks size hsize fr.payload)).length =
          (intoChunks size hsize fr.payload).length := length_mapIdx
    simp only [hcount, Depacketizer.MAX_BUFFER_PACKETS, decide_eq_true_eq]
    split <;> rfl

/-- **Round trip.** Frames packetized one after the other — with any state of the two wrapping
counters, any MTU that leaves room for a payload, any payloads and extensions — go through the wire
format unchanged, and pushing the packets in order into a new depacketizer delivers, in order and
each once, exactly the frames that have between one and 128 packets. -/
theorem frames_round_trip (self : Packetizer) (frames : List (Instant × PacketizerFrame))
    (packets : List (List Packet)) (h : self.packetizeAll frames = .ok packets) :
    packets.length = frames.length ∧ (∀ x ∈ frames.zip packets, x.2 = [] ↔ x.1.2.payload = []) ∧
      ∃ (wire : List Bytes) (received : List Packet),
        packets.flatten.map Packet.serialize = wire.map .ok ∧
        wire.map Packet.deserialize = received.map .ok ∧
        ∀ pushes, Depacketizer.packetsOf pushes = received →
          emittedFrames .new pushes = deliverable frames packets := by
  obtain ⟨hlen, hzip⟩ := packetizeAll_zip h
  refine ⟨hlen, hzip, packets.flatten.map (fun p => p.header.bytes ++ p.payload),
    packets.flatten, ?_, ?_, fun pushes hpushes => ?_⟩
  · -- on the wire each packet is its header and its payload
    rw [map_map]
    exact map_congr_left fun pkt _ => pkt.serialize_eq
  · rw [map_map]
    exact map_congr_left fun pkt _ => pkt.deserialize_bytes
  · have hidle : Idle .new := fun n => by simp [new]
    exact frames_of_packetizeAll h hidle hpushes

/-- Two frames around the end of both counters, with an MTU of fourteen bytes:
two payload bytes fit a packet. -/
theorem frames_round_trip_wrapping : let handle : Handle := ⟨1, by decide⟩
    let self : Packetizer := ⟨handle, 14, ⟨65535⟩, ⟨65535⟩, Clock.withEpoch 0 ⟨0⟩⟩
    let frames : List (Instant × PacketizerFrame) := [(0, ⟨[1, 2, 3], {}⟩), (0, ⟨[4], {}⟩)]
    let packets : List (List Packet) := [[⟨⟨.start, handle, 65535, 65535, ⟨0⟩, {}⟩, [1, 2]⟩,
        ⟨⟨.final, handle, 0, 65535, ⟨0⟩, {}⟩, [3]⟩], [⟨⟨.single, handle, 1, 0, ⟨0⟩, {}⟩, [4]⟩]]
    self.packetizeAll frames = .ok packets ∧ ∃ (wire : List Bytes) (received : List Packet),
        packets.flatten.map Packet.serialize = wire.map .ok ∧
        wire.map Packet.deserialize = received.map .ok ∧
        ∀ pushes, packetsOf pushes = received →
          emittedFrames .new pushes = [⟨[1, 2, 3], {}⟩, ⟨[4], {}⟩] := by
  intro _ self frames packets
  have h : self.packetizeAll frames = .ok packets := by decide +kernel
  obtain ⟨-, -, hwire⟩ := frames_round_trip self frames packets h
  exact ⟨h, hwire⟩

end LiveKit.DataTrack
