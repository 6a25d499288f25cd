import LiveKitRust.Base.Sequence
import LiveKitRust.DataTrack.Clock
import LiveKitRust.DataTrack.Serialize
import Mathlib.Data.List.Flatten

/-!
# Packetizing a frame

The sender's half of a data track (`local/packetizer.rs`, with the chunk iterator and the wrapping
counter of `utils/`): a frame is cut into chunks that fit the MTU next to the header, and each chunk
becomes a packet with the next sequence number.

Later modules use `packetize_ok`: the packets are `framePackets` — chunk `i` of the payload under
sequence number `sequence + i` with the marker of position `i` — and the two counters have moved on.
`packetize_law` says what that comes to for one frame.
-/

open Rust Sequence List

namespace LiveKit.DataTrack

/-! ### Wrapping counters -/

class WrappingIncrement (α : Type) where
  wrappingInc : α → α

instance : WrappingIncrement UInt16 := ⟨fun n => n + 1⟩

structure Counter (α : Type) where
  get : α
  deriving DecidableEq

/-- Returns current value, then increments with wrap-around. -/
def Counter.getThenIncrement {α : Type} [WrappingIncrement α] (self : Counter α) : α × Counter α :=
  (self.get, ⟨WrappingIncrement.wrappingInc self.get⟩)

/-! ### Chunks -/

/-- `into_chunks`: split into chunks of size at most `maxSize`. A chunk size of
zero panics in the source; here the caller proves that it is not. -/
def intoChunks (maxSize : ℕ) (h : 0 < maxSize) (source : Bytes) : List Bytes :=
  if source = [] then []
  else
    let n := min maxSize source.length
    source.take n :: intoChunks maxSize h (source.drop n)
termination_by source.length
decreasing_by
  rename_i h_ne
  have h_pos := List.length_pos_of_ne_nil h_ne
  rw [List.length_drop]
  omega

section Chunks

variable {maxSize : ℕ} (h : 0 < maxSize)

@[simp] lemma intoChunks_nil : intoChunks maxSize h [] = [] := by
  rw [intoChunks, if_pos rfl]

lemma intoChunks_of_ne_nil {source} (hne : source ≠ []) : intoChunks maxSize h source =
      source.take (min maxSize source.length) ::
        intoChunks maxSize h (source.drop (min maxSize source.length)) := by
  rw [intoChunks, if_neg hne]

variable (source : Bytes)

lemma flatten_intoChunks : (intoChunks maxSize h source).flatten = source := by
  induction source using intoChunks.induct maxSize h with
  | case1 => rw [intoChunks_nil, flatten_nil]
  | case2 _ hne _ ih =>
    rw [intoChunks_of_ne_nil h hne, flatten_cons, ih, take_append_drop]

lemma length_of_mem_intoChunks :
    ∀ c ∈ intoChunks maxSize h source, 0 < c.length ∧ c.length ≤ maxSize := by
  induction source using intoChunks.induct maxSize h with
  | case1 => simp
  | case2 _ hne _ ih =>
    rw [intoChunks_of_ne_nil h hne]
    intro c hm
    rcases mem_cons.mp hm with rfl | hm
    · have hpos := length_pos_of_ne_nil hne
      rw [length_take]
      omega
    · exact ih c hm

lemma length_intoChunks : (intoChunks maxSize h source).length = source.length ⌈/⌉ maxSize := by
  induction source using intoChunks.induct maxSize h with
  | case1 => simp
  | case2 source hne n ih =>
    have hpos := length_pos_of_ne_nil hne
    rw [intoChunks_of_ne_nil h hne, length_cons, ih, length_drop,
      Nat.ceilDiv_eq_add_pred_div, Nat.ceilDiv_eq_add_pred_div]
    rcases Nat.le_total maxSize source.length with hle | hle
    · -- a full chunk is cut off, the quotient drops by one
      have hsplit : source.length + maxSize - 1 = (source.length - n + maxSize - 1) + maxSize := by
        omega
      rw [hsplit, Nat.add_div_right _ h]
    · -- the last chunk, full or not, leaves nothing
      have hsplit : source.length + maxSize - 1 = (source.length - 1) + maxSize := by omega
      rw [hsplit, Nat.add_div_right _ h, Nat.div_eq_of_lt (by omega), Nat.div_eq_of_lt (by omega)]

end Chunks

/-! ### The packetizer -/

structure Packetizer where
  handle : Handle
  mtuSize : ℕ
  sequence : Counter UInt16
  frameNumber : Counter UInt16
  clock : Clock 90000
  deriving DecidableEq

structure PacketizerFrame where
  payload : Bytes
  extensions : Extensions
  deriving DecidableEq

inductive PacketizerError where
  | mtuTooShort
  deriving DecidableEq

namespace Packetizer

/-- `Packetizer::new`; the timestamp of the epoch is random in the source. -/
def new (trackHandle : Handle) (mtuSize : ℕ) (epoch : Instant) (base : Timestamp 90000) :
    Packetizer :=
  ⟨trackHandle, mtuSize, ⟨0⟩, ⟨0⟩, Clock.withEpoch epoch base⟩

def frameMarker (index packetCount : ℕ) : FrameMarker :=
  if packetCount ≤ 1 then .single
  else if index = 0 then .start
  else if index = packetCount - 1 then .final
  else .inter

/-- The `map` over the chunks: packet `index` and the following ones, each with
the next sequence number. -/
def packetsFrom (header : Header) (packetCount : ℕ) :
    ℕ → Counter UInt16 → List Bytes → List Packet × Counter UInt16
  | _, sequence, [] => ([], sequence)
  | index, sequence, payload :: chunks =>
    let (current, sequence) := sequence.getThenIncrement
    let packet : Packet :=
      ⟨{ header with marker := frameMarker index packetCount, sequence := current }, payload⟩
    let (packets, sequence) := packetsFrom header packetCount (index + 1) sequence chunks
    (packet :: packets, sequence)

def packetize (self : Packetizer) (now : Instant) (frame : PacketizerFrame) :
    Outcome PacketizerError (List Packet) × Packetizer :=
  let (timestamp, clock) := self.clock.atInstant now
  let self := { self with clock := clock }
  let header : Header := ⟨.inter, self.handle, 0, 0, timestamp, frame.extensions⟩
  let maxPayloadSize := self.mtuSize - header.serializedLen -- `saturating_sub`
  if h : maxPayloadSize = 0 then (.err .mtuTooShort, self)
  else
    let (current, frameNumber) := self.frameNumber.getThenIncrement
    let header := { header with frameNumber := current }
    let packetCount := frame.payload.length ⌈/⌉ maxPayloadSize
    let chunks := intoChunks maxPayloadSize (Nat.pos_of_ne_zero h) frame.payload
    let (packets, sequence) := packetsFrom header packetCount 0 self.sequence chunks
    (.ok packets, { self with sequence := sequence, frameNumber := frameNumber })

/-! ### What packetizing gives -/

def framePackets (header : Header) (sequence : UInt16) (chunks : List Bytes) : List Packet :=
  chunks.mapIdx fun i payload =>
    ⟨{ header with
        marker := frameMarker i chunks.length
        sequence := sequence + UInt16.ofNat i }, payload⟩

variable {chunks : List Bytes} (header : Header) {s : Packetizer} {now : Instant}
  {fr : PacketizerFrame}

lemma of_mem_framePackets {header seq pkt} (h : pkt ∈ framePackets header seq chunks) :
    pkt.header.extensions = header.extensions ∧ pkt.payload ∈ chunks := by
  obtain ⟨i, hi, rfl⟩ := mem_mapIdx.mp h
  exact ⟨rfl, getElem_mem hi⟩

lemma packetsFrom_eq (packetCount index seq chunks) :
    packetsFrom header packetCount index ⟨seq⟩ chunks = (chunks.mapIdx fun i data =>
          ⟨{ header with
              marker := frameMarker (index + i) packetCount
              sequence := seq + UInt16.ofNat i }, data⟩, ⟨seq + UInt16.ofNat chunks.length⟩) := by
  induction chunks generalizing index seq with
  | nil => simp [packetsFrom]
  | cons _ chunks ih =>
    change (_ :: (packetsFrom header packetCount (index + 1) ⟨seq + 1⟩ chunks).1,
      (packetsFrom header packetCount (index + 1) ⟨seq + 1⟩ chunks).2) = _
    rw [ih, mapIdx_cons, length_cons, add_one_add_ofNat]
    simp only [add_one_add_ofNat, Nat.add_right_comm index 1, Nat.add_assoc]
    simp

lemma packetize_of_no_room (h : s.mtuSize - (Header.mk .inter s.handle 0 0 (s.clock.atInstant now).1
      fr.extensions).serializedLen = 0) :
    s.packetize now fr = (.err .mtuTooShort, { s with clock := (s.clock.atInstant now).2 }) := by
  exact dif_pos h

/-- **The packetizer.** When packetizing succeeds, the packets are those of the
frame's chunks, under the two counters as they stood before; both move on. -/
theorem packetize_ok {pkts : List Packet} (h : (s.packetize now fr).1 = .ok pkts) :
    ∃ (header : Header) (size : ℕ) (hsize : 0 < size), header.extensions = fr.extensions ∧
      header.frameNumber = s.frameNumber.get ∧ header.trackHandle = s.handle ∧
      size = s.mtuSize - header.serializedLen ∧
      pkts = framePackets header s.sequence.get (intoChunks size hsize fr.payload) ∧
      (s.packetize now fr).2 = { s with
          sequence := ⟨s.sequence.get + UInt16.ofNat pkts.length⟩
          frameNumber := ⟨s.frameNumber.get + 1⟩
          clock := (s.clock.atInstant now).2 } := by
  let header : Header := ⟨.inter, s.handle, 0, s.frameNumber.get,
    (s.clock.atInstant now).1, fr.extensions⟩
  by_cases hzero : s.mtuSize - header.serializedLen = 0
  · rw [packetize_of_no_room hzero] at h
    cases h
  · have hsize := Nat.pos_of_ne_zero hzero
    let chunks := intoChunks (s.mtuSize - header.serializedLen) hsize fr.payload
    -- otherwise every chunk becomes a packet
    have heq : s.packetize now fr =
        (.ok (packetsFrom header (fr.payload.length ⌈/⌉ (s.mtuSize - header.serializedLen))
            0 s.sequence chunks).1,
          { s with
            sequence := (packetsFrom header
              (fr.payload.length ⌈/⌉ (s.mtuSize - header.serializedLen))
              0 s.sequence chunks).2
            frameNumber := ⟨s.frameNumber.get + 1⟩
            clock := (s.clock.atInstant now).2 }) := by
      exact dif_neg hzero
    -- the count announced to the marker is the number of chunks
    rw [← length_intoChunks hsize, packetsFrom_eq] at heq
    have hpackets : pkts = framePackets header s.sequence.get chunks := by
      rw [heq] at h
      rw [← Outcome.ok.inj h]
      simp only [Nat.zero_add]
      rfl
    refine ⟨header, _, hsize, rfl, rfl, rfl, rfl, hpackets, ?_⟩
    rw [heq, hpackets, framePackets, length_mapIdx]

lemma exists_ok_of_room (h : ¬ s.mtuSize - (Header.mk .inter s.handle 0 0 (s.clock.atInstant now).1
      fr.extensions).serializedLen = 0) : ∃ pkts, (s.packetize now fr).1 = .ok pkts := by
  unfold packetize
  dsimp only
  rw [dif_neg h]
  exact ⟨_, rfl⟩

lemma exists_packetize_ok (hmtu : 40 < s.mtuSize) (now fr) :
    ∃ pkts, (s.packetize now fr).1 = .ok pkts := by
  refine exists_ok_of_room ?_
  have hlen := Header.serializedLen_le
    ⟨.inter, s.handle, 0, 0, (s.clock.atInstant now).1, fr.extensions⟩
  omega

/-! ### The law of the packetizer -/

/-- The markers of the packets of a frame: one alone, or a first, some in between and a
last. -/
def Marked (markers : List FrameMarker) : Prop :=
  markers = [.single] ∨ ∃ n, markers = .start :: (replicate n .inter ++ [.final])

lemma marked_framePackets (seq : UInt16) (h : chunks ≠ []) :
    Marked ((framePackets header seq chunks).map fun pkt => pkt.header.marker) := by
  have hmarkers : (framePackets header seq chunks).map (fun pkt => pkt.header.marker) =
      chunks.mapIdx fun i _ => frameMarker i chunks.length :=
    ext_getElem (by simp [framePackets]) (by simp [framePackets])
  have hlen := length_pos_of_ne_nil h
  rw [hmarkers]
  rcases Nat.lt_or_ge 1 chunks.length with _ | hone
  · refine .inr ⟨chunks.length - 2, ext_getElem (by simp; omega) fun i hi _ => ?_⟩
    have hlt : i < chunks.length := by simpa using hi
    rw [getElem_mapIdx, frameMarker, if_neg (by omega)]
    -- the first, the last, or one in between
    rcases i with _ | i
    · rfl
    · rw [if_neg (Nat.succ_ne_zero i), getElem_cons_succ, getElem_append]
      simp only [length_replicate, getElem_replicate, getElem_singleton]
      split <;> split <;> first | rfl | omega
  · refine .inl (ext_getElem (by simp; omega) fun i hi _ => ?_)
    rw [getElem_mapIdx, frameMarker, if_pos hone, getElem_singleton]

/-- **The law of the packetizer.** Packing never panics. When it succeeds, every packet fits the MTU
and carries the frame number and the next sequence number, the payloads make up that of the frame,
and the markers are those of one frame, except that an empty payload has no packets. When it fails,
the counters stay. -/
theorem packetize_law (self : Packetizer) (now : Instant) (frame : PacketizerFrame) :
    match self.packetize now frame with
    | (.ok packets, after) =>
      (∀ packet ∈ packets, ∃ bytes, packet.serialize = .ok bytes ∧ bytes.length ≤ self.mtuSize) ∧
        packets.flatMap Packet.payload = frame.payload ∧
        (if frame.payload = [] then packets = []
          else Marked (packets.map fun packet => packet.header.marker)) ∧
        (∀ i packet, packets[i]? = some packet →
          packet.header.sequence = self.sequence.get + UInt16.ofNat i ∧
            packet.header.frameNumber = self.frameNumber.get) ∧
        after.sequence.get = self.sequence.get + UInt16.ofNat packets.length ∧
        after.frameNumber.get = self.frameNumber.get + 1
    | (.err _, after) => after.sequence = self.sequence ∧ after.frameNumber = self.frameNumber
    | (.panic, _) => False := by
  by_cases hroom : self.mtuSize - (Header.mk .inter self.handle 0 0 (self.clock.atInstant now).1
      frame.extensions).serializedLen = 0
  · rw [packetize_of_no_room hroom]
    exact ⟨rfl, rfl⟩
  obtain ⟨packets, hok⟩ := exists_ok_of_room hroom
  obtain ⟨header, _, hsize, _, hnumber, -, rfl, hpackets, ha⟩ := packetize_ok hok
  rw [show self.packetize now frame = (.ok packets, (self.packetize now frame).2) from
    Prod.ext hok rfl, ha]
  let chunks := intoChunks (self.mtuSize - header.serializedLen) hsize frame.payload
  have hflatten : chunks.flatten = frame.payload := flatten_intoChunks hsize frame.payload
  refine ⟨fun packet hm => ?_, ?_, ?_, fun i packet hget => ?_, rfl, rfl⟩
  · rw [hpackets] at hm
    obtain ⟨hsame, hchunk⟩ := of_mem_framePackets hm
    have hlen : packet.header.serializedLen = header.serializedLen := by
      rw [Header.serializedLen, Header.metrics, hsame]
      rfl
    have hfits := (length_of_mem_intoChunks hsize frame.payload _ hchunk).2
    refine ⟨_, packet.serialize_eq, ?_⟩
    rw [length_append, Header.length_bytes]
    omega
  · have hpayloads : packets.map Packet.payload = chunks := by
      rw [hpackets]
      exact ext_getElem (by simp [framePackets, chunks]) (by simp [framePackets, chunks])
    rw [flatMap_def, hpayloads, hflatten]
  · split
    next hempty => rw [hpackets, hempty, intoChunks_nil]; rfl
    next hne =>
      rw [hpackets]
      refine marked_framePackets header _ fun hnil => hne ?_
      rw [← hflatten]
      exact congrArg flatten hnil
  · rw [hpackets, framePackets, getElem?_mapIdx] at hget
    obtain ⟨_, -, rfl⟩ := Option.map_eq_some_iff.mp hget
    exact ⟨rfl, hnumber⟩

/-- An empty payload is packed into no packet at all. -/
theorem packetize_empty_unmarked :
    ∃ packets, ((new ⟨1, by decide⟩ 1024 0 ⟨0⟩).packetize 0 ⟨[], {}⟩).1 = .ok packets ∧
      ¬ Marked (packets.map fun packet => packet.header.marker) := by
  obtain ⟨_, hok⟩ := @exists_packetize_ok (new ⟨1, by decide⟩ 1024 0 ⟨0⟩) (by decide) 0 ⟨[], {}⟩
  obtain ⟨_, _, _, -, -, -, -, rfl, -⟩ := packetize_ok hok
  refine ⟨_, hok, ?_⟩
  simp [Marked, framePackets]

end Packetizer

end LiveKit.DataTrack
