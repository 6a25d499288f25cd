import LiveKitRust.Base.Machine
import LiveKitRust.Base.Sequence
import LiveKitRust.Rtp.VideoStream

/-!
# VP8 frames and back

The frames that a pipeline sends are cut into packets, each with a descriptor that carries the id of
the picture. `roundTrip` says what the packets of any sequence of frames are like, and that an
assembler that is fed with them gives the frames back.

A packet of the pipeline has the octet of extended control bits, so that it is read by its own flags
whatever the parser has seen before (`depacketize_vp8Fragment`). The fragments of a frame take the
assembler from idle to idle and give the frame (`run_labelled`, by induction on the chunks). The
rest is the numbering, which goes on from one frame to the next.
-/

open Fragments Machine Rust List

namespace LiveKit.Rtp

/-! ### The descriptor of a fragment -/

section Descriptor

variable (pictureId : UInt16) (isFirst isLast : Bool) {chunk : Bytes}

def firstOctet : Bool → UInt8
  | true => 0x90
  | false => 0x80

lemma firstOctet_bits : ∀ isFirst,
    firstOctet isFirst &&& 0x80 ≠ 0 ∧ (firstOctet isFirst &&& 0x10 != 0) = isFirst := by
  decide

lemma payload_short (h : pictureId < 128) : (vp8Fragment pictureId isFirst isLast chunk).payload =
      firstOctet isFirst :: 0x80 :: pictureId.toUInt8 :: chunk := by
  unfold vp8Fragment vp8Descriptor
  cases isFirst <;> simp only [if_pos h] <;> rfl

lemma payload_long (h : ¬ pictureId < 128) : (vp8Fragment pictureId isFirst isLast chunk).payload =
      firstOctet isFirst :: 0x80 :: ((0x80 : UInt8) ||| ((pictureId >>> 8).toUInt8 &&& 0x7F)) ::
        pictureId.toUInt8 :: chunk := by
  unfold vp8Fragment vp8Descriptor
  cases isFirst <;> simp only [if_neg h] <;> rfl

lemma exists_payload : ∃ rest, (vp8Fragment pictureId isFirst isLast chunk).payload =
    firstOctet isFirst :: 0x80 :: rest := by
  by_cases hsh : pictureId < 128
  · exact ⟨_, payload_short pictureId isFirst isLast hsh⟩
  · exact ⟨_, payload_long pictureId isFirst isLast hsh⟩

lemma high_toUInt8 (h : pictureId < 128) :
    pictureId.toUInt8 &&& 0x80 = 0 ∧ pictureId.toUInt8.toNat = pictureId.toNat := by
  have hlt : pictureId.toNat < 128 := h
  have hnat : ∀ n < 128, (UInt16.ofNat n).toUInt8 &&& 0x80 = 0 ∧
      (UInt16.ofNat n).toUInt8.toNat = (UInt16.ofNat n).toNat := by decide +kernel
  have hid := hnat pictureId.toNat hlt
  rwa [UInt16.ofNat_toNat] at hid

lemma high_lor (high : UInt8) : ((0x80 : UInt8) ||| (high &&& 0x7F)) &&& 0x80 ≠ 0 ∧
      ((0x80 : UInt8) ||| (high &&& 0x7F)).toNat % 2 ^ 7 = high.toNat % 2 ^ 7 := by
  revert high
  exact forall_byte (by decide +kernel)

lemma isExtended_vp8Fragment :
    isExtended (vp8Fragment pictureId isFirst isLast chunk).payload = true := by
  obtain ⟨_, hpay⟩ := exists_payload pictureId isFirst isLast
  rw [hpay]
  exact (bitAt_zero ..).mpr (firstOctet_bits isFirst).1

lemma startsPartition_vp8Fragment :
    startsPartition (vp8Fragment pictureId isFirst isLast chunk).payload = isFirst := by
  obtain ⟨_, hpay⟩ := exists_payload pictureId isFirst isLast
  rw [hpay]
  exact (firstOctet_bits isFirst).2

lemma bitAt_one_vp8Fragment (mask : UInt8) :
    bitAt (vp8Fragment pictureId isFirst isLast chunk).payload 1 mask =
      ((0x80 : UInt8) &&& mask != 0) := by
  obtain ⟨_, hpay⟩ := exists_payload pictureId isFirst isLast
  rw [hpay]
  rfl

lemma bitAt_two_vp8Fragment : bitAt (vp8Fragment pictureId isFirst isLast chunk).payload 2 0x80 =
      !decide (pictureId < 128) := by
  by_cases hsh : pictureId < 128
  · rw [payload_short pictureId isFirst isLast hsh, decide_eq_true hsh]
    exact bne_eq_false_iff_eq.mpr (high_toUInt8 pictureId hsh).1
  · rw [payload_long pictureId isFirst isLast hsh, decide_eq_false hsh]
    exact bne_iff_ne.mpr (high_lor (pictureId >>> 8).toUInt8).1

lemma descriptorSize_vp8Fragment :
    descriptorSize (vp8Fragment pictureId isFirst isLast chunk).payload =
      vp8DescSize pictureId := by
  unfold descriptorSize vp8DescSize
  rw [isExtended_vp8Fragment, bitAt_one_vp8Fragment, bitAt_one_vp8Fragment, bitAt_one_vp8Fragment,
    bitAt_one_vp8Fragment, bitAt_two_vp8Fragment]
  by_cases hsh : pictureId < 128
  · rw [decide_eq_true hsh, if_pos hsh]
    decide
  · rw [decide_eq_false hsh, if_neg hsh]
    decide

lemma pictureIdOf_vp8Fragment : pictureIdOf (vp8Fragment pictureId isFirst isLast chunk).payload =
      some (pictureId.toNat % 2 ^ 15) := by
  unfold pictureIdOf
  rw [isExtended_vp8Fragment, bitAt_one_vp8Fragment, bitAt_two_vp8Fragment]
  by_cases hsh : pictureId < 128
  · have hlt : pictureId.toNat < 128 := hsh
    rw [payload_short pictureId isFirst isLast hsh, decide_eq_true hsh]
    show some pictureId.toUInt8.toNat = _
    rw [(high_toUInt8 pictureId hsh).2, Nat.mod_eq_of_lt (by omega)]
  · rw [payload_long pictureId isFirst isLast hsh, decide_eq_false hsh]
    show some (((0x80 : UInt8) ||| ((pictureId >>> 8).toUInt8 &&& 0x7F)).toNat % 2 ^ 7 * 2 ^ 8 +
      pictureId.toUInt8.toNat) = _
    have hhigh : (pictureId >>> 8).toUInt8.toNat = pictureId.toNat / 2 ^ 8 % 2 ^ 8 := by
      rw [UInt16.toNat_toUInt8, UInt16.toNat_shiftRight, Nat.shiftRight_eq_div_pow]
      rfl
    rw [(high_lor _).2, hhigh, UInt16.toNat_toUInt8]
    congr 1
    omega

lemma length_vp8Descriptor : (vp8Descriptor pictureId isFirst).length = vp8DescSize pictureId := by
  by_cases hsh : pictureId < 128 <;> simp [vp8Descriptor, vp8DescSize, hsh]

lemma vp8Payload_vp8Fragment :
    vp8Payload (vp8Fragment pictureId isFirst isLast chunk).payload = chunk := by
  rw [vp8Payload, descriptorSize_vp8Fragment]
  exact drop_left' (length_vp8Descriptor ..)

lemma length_vp8Fragment : (vp8Fragment pictureId isFirst isLast chunk).payload.length =
      vp8DescSize pictureId + chunk.length := by
  rw [vp8Fragment, length_append, length_vp8Descriptor]

lemma depacketize_vp8Fragment (parser : Vp8Packet) (h : chunk ≠ []) :
    (parser.depacketize (vp8Fragment pictureId isFirst isLast chunk).payload).2 = .ok chunk := by
  have hchunk := length_pos_of_ne_nil h
  have hsize : 3 ≤ vp8DescSize pictureId := by
    unfold vp8DescSize
    split <;> decide
  have hlen : 4 ≤ (vp8Fragment pictureId isFirst isLast chunk).payload.length := by
    rw [length_vp8Fragment]
    omega
  rw [Vp8Packet.depacketize_snd (.inl (isExtended_vp8Fragment ..)) hlen, vp8Payload_vp8Fragment]
  exact if_neg (Nat.ne_of_gt hchunk)

end Descriptor

/-! ### Fragments of a frame -/

namespace Vp8FrameAssembler

/-- Feed a fragment; what comes back counts unless the assembler waits for more. -/
def step (self : Vp8FrameAssembler) (fragment : RtpFragment) :
    Vp8FrameAssembler × List (Outcome Error Bytes) :=
  let (self, result) := self.feed fragment.payload fragment.marker
  (self, if result = .ok [] then [] else [result])

/-- The assembler is about to take the first fragment of a frame, or has the others in its
buffer. -/
structure Ready (assembler : Vp8FrameAssembler) (isFirst : Bool) (buffer : Bytes) : Prop where
  not_skipping : assembler.skipUntilS = false
  buffered : isFirst = true ∧ buffer = [] ∨
    isFirst = false ∧ assembler.assembling = true ∧ assembler.buffer = buffer

section Fragments

variable {s : Vp8FrameAssembler} {isFirst : Bool} {buffer chunk : Bytes} (pictureId : UInt16)

section

variable (h : s.Ready isFirst buffer)
include h

lemma feed_vp8Fragment (isLast : Bool) (hchunk : chunk ≠ []) :
    ∃ parser, s.feed (vp8Fragment pictureId isFirst isLast chunk).payload isLast = if isLast then
        (⟨parser, [], false, false⟩, .ok (buffer ++ chunk))
      else (⟨parser, buffer ++ chunk, true, false⟩, .ok []) := by
  have hok := depacketize_vp8Fragment pictureId isFirst isLast s.parser hchunk
  refine ⟨(s.parser.depacketize (vp8Fragment pictureId isFirst isLast chunk).payload).1, ?_⟩
  rw [feed_of_taken hok fun hskip => absurd (h.not_skipping.symm.trans hskip) Bool.false_ne_true,
    startsPartition_vp8Fragment]
  rcases h.buffered with ⟨rfl, rfl⟩ | ⟨rfl, hasm, rfl⟩
  · cases isLast <;> rfl
  · cases isLast <;> simp [accept, parsed, hasm]

lemma step_vp8Fragment (isLast : Bool) (hchunk : chunk ≠ []) :
    let stepped := s.step (vp8Fragment pictureId isFirst isLast chunk)
    stepped.2 = (if isLast then [.ok (buffer ++ chunk)] else []) ∧
      stepped.1.Ready isLast (if isLast then [] else buffer ++ chunk) := by
  obtain ⟨parser, hfeed⟩ := feed_vp8Fragment pictureId h isLast hchunk
  have hne : (.ok (buffer ++ chunk) : Outcome Error Bytes) ≠ .ok [] := fun heq =>
    hchunk (append_eq_nil_iff.mp (Outcome.ok.inj heq)).2
  unfold step
  rw [show (vp8Fragment pictureId isFirst isLast chunk).marker = isLast from rfl, hfeed]
  cases isLast with
  | false => exact ⟨rfl, rfl, .inr ⟨rfl, rfl, rfl⟩⟩
  | true => exact ⟨if_neg hne, rfl, .inl ⟨rfl, rfl⟩⟩

end

lemma run_labelled {cs} (hne : cs ≠ []) (hchunks : ∀ chunk ∈ cs, chunk ≠ [])
    (h : s.Ready isFirst buffer) :
    outputs step s (labelled (vp8Fragment pictureId) isFirst cs) = [.ok (buffer ++ cs.flatten)] ∧
      (Machine.state step s (labelled (vp8Fragment pictureId) isFirst cs)).Ready true [] := by
  induction cs generalizing s isFirst buffer with
  | nil => exact absurd rfl hne
  | cons chunk cs ih =>
    have hchunk := hchunks chunk (.head _)
    cases cs with
    | nil =>
      obtain ⟨hout, hready⟩ := step_vp8Fragment pictureId h true hchunk
      rw [labelled, outputs_cons, state_cons, hout, flatten_singleton]
      exact ⟨rfl, hready⟩
    | cons next cs =>
      obtain ⟨hout, hready⟩ := step_vp8Fragment pictureId h false hchunk
      have hr := ih (cons_ne_nil next cs)
        (fun chunk hmem => hchunks chunk (mem_cons_of_mem _ hmem)) hready
      rw [labelled, outputs_cons, state_cons, hout, flatten_cons, ← append_assoc]
      exact hr

end Fragments

end Vp8FrameAssembler

/-! ### Packets of a frame -/

def RtpPacketData.fragment (self : RtpPacketData) : RtpFragment := ⟨self.payload, self.marker⟩

section Numbering

variable (payloadType : UInt8) (ssrc timestamp : UInt32) (fragments : List RtpFragment)

variable (seq : UInt16)

lemma fragments_fragmentsToPackets :
    (fragmentsToPackets payloadType ssrc timestamp fragments seq).1.map RtpPacketData.fragment =
      fragments := by
  induction fragments generalizing seq with
  | nil => rfl
  | cons _ _ ih =>
    rw [fragmentsToPackets, map_cons, ih]
    rfl

def numbersAfter (seq : UInt16) (count : ℕ) : List UInt16 :=
  (List.range count).map fun i => seq + 1 + UInt16.ofNat i

lemma numbersAfter_succ (count : ℕ) :
    numbersAfter seq (count + 1) = (seq + 1) :: numbersAfter (seq + 1) count := by
  unfold numbersAfter
  rw [range_succ_eq_map, map_cons, map_map]
  congr 1
  · exact UInt16.add_zero _
  · refine map_congr_left fun i _ => ?_
    exact (Sequence.add_one_add_ofNat (seq + 1) i).symm

lemma numbersAfter_add (count more : ℕ) : numbersAfter seq (count + more) =
      numbersAfter seq count ++ numbersAfter (seq + UInt16.ofNat count) more := by
  induction count generalizing seq with
  | zero =>
    rw [Nat.zero_add]
    show _ = numbersAfter (seq + 0) more
    rw [UInt16.add_zero]
  | succ _ ih =>
    rw [Nat.succ_add, numbersAfter_succ, numbersAfter_succ, ih, cons_append,
      Sequence.add_one_add_ofNat]

lemma numbers_fragmentsToPackets :
    (fragmentsToPackets payloadType ssrc timestamp fragments seq).1.map
        RtpPacketData.sequenceNumber = numbersAfter seq fragments.length ∧
      (fragmentsToPackets payloadType ssrc timestamp fragments seq).2 =
        seq + UInt16.ofNat fragments.length := by
  induction fragments generalizing seq with
  | nil => exact ⟨rfl, (UInt16.add_zero seq).symm⟩
  | cons _ _ ih =>
    obtain ⟨hnumbers, hlast⟩ := ih (seq + 1)
    rw [length_cons, numbersAfter_succ, ← Sequence.add_one_add_ofNat]
    refine ⟨?_, hlast⟩
    rw [fragmentsToPackets, map_cons, hnumbers]

end Numbering

/-! ### Frames of a track -/

namespace RtpSendPipeline

/-- Send a frame that was encoded at some time, to a driver that takes it. -/
def sendFrame (codec : String) (self : RtpSendPipeline) (frame : Bytes × ℕ) :
    RtpSendPipeline × List RtpPacketData :=
  let sent := self.sendEncodedVideo true frame.1 frame.2 codec
  (sent.1, sent.2.1)

def sendFrames (codec : String) : RtpSendPipeline → List (Bytes × ℕ) → List (List RtpPacketData)
  | _, [] => []
  | self, frame :: frames =>
    (self.sendFrame codec frame).2 :: sendFrames codec (self.sendFrame codec frame).1 frames

structure Sends (before after : RtpSendPipeline) (data : Bytes) (packets : List RtpPacketData) :
    Prop where
  pictureId : after.vp8PictureId.toNat = (before.vp8PictureId.toNat + 1) % 2 ^ 15
  sequence : after.sequenceNumber = before.sequenceNumber + UInt16.ofNat packets.length
  numbers : packets.map RtpPacketData.sequenceNumber =
    numbersAfter before.sequenceNumber packets.length
  chunks : ∃ chunks, packets.map RtpPacketData.fragment =
      labelled (vp8Fragment before.vp8PictureId) true chunks ∧ chunks.flatten = data ∧
    ∀ chunk ∈ chunks, chunk ≠ [] ∧
      chunk.length ≤ MAX_RTP_PAYLOAD_SIZE - vp8DescSize before.vp8PictureId

lemma toNat_next (pictureId : UInt16) :
    ((pictureId + 1) &&& 0x7FFF).toNat = (pictureId.toNat + 1) % 2 ^ 15 := by
  show (pictureId.toNat + 1) % 2 ^ 16 &&& (2 ^ 15 - 1) = _
  rw [Nat.and_two_pow_sub_one_eq_mod]
  omega

lemma sends_sendFrame {codec} (hcodec : Codec.ofString codec = some .vp8) (s fr) :
    Sends s (s.sendFrame codec fr).1 fr.1 (s.sendFrame codec fr).2 := by
  obtain ⟨cs, hcut, hflatten, hsizes⟩ := exists_chunks
    (Nat.sub_pos_of_lt (vp8DescSize_lt s.vp8PictureId)) (vp8Fragment s.vp8PictureId) true fr.1
  have hsend : s.sendFrame codec fr = s.packetize fr.1 fr.2 .vp8 := by
    unfold sendFrame sendEncodedVideo
    simp only [hcodec]
    split
    next hnil => rw [← length_eq_zero_iff.mp hnil]
    · rfl
  have hfrag := fragments_fragmentsToPackets s.payloadTypeVp8 s.ssrc
    (msToRtpTimestamp fr.2 s.clockRate) (packVp8Frame fr.1 s.vp8PictureId)
    s.sequenceNumber
  obtain ⟨hnumbers, hlast⟩ := numbers_fragmentsToPackets s.payloadTypeVp8 s.ssrc
    (msToRtpTimestamp fr.2 s.clockRate) (packVp8Frame fr.1 s.vp8PictureId)
    s.sequenceNumber
  have hlen := congrArg length hfrag
  rw [length_map] at hlen
  rw [← hlen] at hnumbers hlast
  rw [hsend]
  exact ⟨toNat_next _, hlast, hnumbers, cs, hfrag.trans hcut, hflatten, hsizes⟩

namespace Sends

variable {pre after : RtpSendPipeline} {data : Bytes} {pkts : List RtpPacketData}

variable {packet : RtpPacketData}

section

variable (h : Sends pre after data pkts)
include h

section

variable (hmem : packet ∈ pkts)
include hmem

lemma fragment_eq :
    ∃ isFirst isLast chunk, packet.fragment = vp8Fragment pre.vp8PictureId isFirst isLast chunk ∧
      chunk.length ≤ MAX_RTP_PAYLOAD_SIZE - vp8DescSize pre.vp8PictureId := by
  obtain ⟨chunks, hlabelled, -, hsizes⟩ := h.chunks
  have hfragment : packet.fragment ∈ labelled (vp8Fragment pre.vp8PictureId) true chunks := by
    rw [← hlabelled]
    exact mem_map_of_mem hmem
  obtain ⟨isFirst, isLast, chunk, hchunk, heq⟩ := mem_labelled hfragment
  exact ⟨isFirst, isLast, chunk, heq, (hsizes chunk hchunk).2⟩

lemma payload_le : packet.payload.length ≤ MAX_RTP_PAYLOAD_SIZE := by
  obtain ⟨_, _, _, heq, _⟩ := h.fragment_eq hmem
  have hdesc := vp8DescSize_lt pre.vp8PictureId
  show packet.fragment.payload.length ≤ _
  rw [heq, length_vp8Fragment]
  omega

lemma pictureIdOf_eq : pictureIdOf packet.payload = some (pre.vp8PictureId.toNat % 2 ^ 15) := by
  obtain ⟨_, _, _, heq, -⟩ := h.fragment_eq hmem
  show pictureIdOf packet.fragment.payload = _
  rw [heq, pictureIdOf_vp8Fragment]

end

lemma marker_iff {i} (hat : pkts[i]? = some packet) :
    packet.marker = true ↔ i + 1 = pkts.length := by
  obtain ⟨cs, hlabelled, -⟩ := h.chunks
  have hlen := congrArg length hlabelled
  rw [length_map, length_labelled] at hlen
  have hfragment : (labelled (vp8Fragment pre.vp8PictureId) true cs)[i]? =
      some packet.fragment := by
    rw [← hlabelled, getElem?_map, hat]
    rfl
  obtain ⟨_, -, heq⟩ := getElem?_labelled hfragment
  have hmarker : packet.marker = decide (i + 1 = cs.length) := congrArg RtpFragment.marker heq
  rw [hmarker, decide_eq_true_iff, hlen]

lemma ne_nil (hdata : data ≠ []) : pkts ≠ [] := by
  rintro rfl
  obtain ⟨_, hlabelled, hflatten, -⟩ := h.chunks
  have hlen := congrArg length hlabelled
  rw [length_map, length_labelled] at hlen
  rw [length_eq_zero_iff.mp hlen.symm] at hflatten
  exact hdata hflatten.symm

lemma run_step (hdata : data ≠ []) {asm} (hready : asm.Ready true []) :
    outputs Vp8FrameAssembler.step asm (pkts.map RtpPacketData.fragment) = [.ok data] ∧
      (Machine.state Vp8FrameAssembler.step asm
        (pkts.map RtpPacketData.fragment)).Ready true [] := by
  obtain ⟨cs, hlabelled, rfl, hsizes⟩ := h.chunks
  have hne : cs ≠ [] := by
    rintro rfl
    exact hdata rfl
  rw [hlabelled]
  exact Vp8FrameAssembler.run_labelled _ hne (fun chunk hmem => (hsizes chunk hmem).1) hready

end

end Sends

structure FrameGroup (pictureId : ℕ) (group : List RtpPacketData) : Prop where
  ne_nil : group ≠ []
  pictureId_eq : ∀ packet ∈ group, pictureIdOf packet.payload = some pictureId
  marker_iff : ∀ i packet, group[i]? = some packet → (packet.marker = true ↔ i + 1 = group.length)

/-- The packets of some frames, group by group, are in order and give the frames back. -/
structure RoundTrip (pipeline : RtpSendPipeline) (frames : List (Bytes × ℕ))
    (groups : List (List RtpPacketData)) : Prop where
  payload_le : ∀ packet ∈ groups.flatten, packet.payload.length ≤ MAX_RTP_PAYLOAD_SIZE
  numbers : groups.flatten.map RtpPacketData.sequenceNumber =
    numbersAfter pipeline.sequenceNumber groups.flatten.length
  length_eq : groups.length = frames.length
  frameGroup : ∀ k group, groups[k]? = some group →
    FrameGroup ((pipeline.vp8PictureId.toNat + k) % 2 ^ 15) group
  outputs_eq : outputs Vp8FrameAssembler.step .default
    (groups.flatten.map RtpPacketData.fragment) = frames.map fun frame => .ok frame.1

section Frames

variable {codec : String} {frames : List (Bytes × ℕ)}

section

variable (hcodec : Codec.ofString codec = some .vp8)
include hcodec

lemma outputs_sendFrames (hframes : ∀ fr ∈ frames, fr.1 ≠ []) (s : RtpSendPipeline) {asm}
    (hready : asm.Ready true []) : outputs Vp8FrameAssembler.step asm
        ((s.sendFrames codec frames).flatten.map RtpPacketData.fragment) =
      frames.map fun fr => .ok fr.1 := by
  induction frames generalizing s asm with
  | nil => rfl
  | cons fr _ ih =>
    have hsends := sends_sendFrame hcodec s fr
    obtain ⟨hf, hn⟩ := hsends.run_step (hframes fr (.head _)) hready
    rw [sendFrames, flatten_cons, map_append, outputs_append, hf,
      ih (fun fr hmem => hframes fr (mem_cons_of_mem _ hmem)) _ hn]
    rfl

lemma numbers_sendFrames (frames : List (Bytes × ℕ)) (s : RtpSendPipeline) :
    (s.sendFrames codec frames).flatten.map RtpPacketData.sequenceNumber =
      numbersAfter s.sequenceNumber (s.sendFrames codec frames).flatten.length := by
  induction frames generalizing s with
  | nil => rfl
  | cons fr _ ih =>
    have hsends := sends_sendFrame hcodec s fr
    rw [sendFrames, flatten_cons, map_append, length_append, numbersAfter_add,
      hsends.numbers, ih, hsends.sequence]

lemma sends_of_getElem? (frames : List (Bytes × ℕ)) (s : RtpSendPipeline) {k group}
    (hgroup : (s.sendFrames codec frames)[k]? = some group) :
    ∃ pre after, ∃ fr ∈ frames, Sends pre after fr.1 group ∧
      pre.vp8PictureId.toNat % 2 ^ 15 = (s.vp8PictureId.toNat + k) % 2 ^ 15 := by
  induction frames generalizing s k with
  | nil => cases hgroup
  | cons fr _ ih =>
    have hsends := sends_sendFrame hcodec s fr
    cases k with
    | zero =>
      cases hgroup
      exact ⟨s, _, fr, .head _, hsends, rfl⟩
    | succ =>
      obtain ⟨pre, after, sent, hmem, hsent, hid⟩ := ih _ hgroup
      refine ⟨pre, after, sent, mem_cons_of_mem _ hmem, hsent, ?_⟩
      rw [hid, hsends.pictureId]
      omega

end

@[simp] lemma length_sendFrames (frames : List (Bytes × ℕ)) (s : RtpSendPipeline) :
    (s.sendFrames codec frames).length = frames.length := by
  induction frames generalizing s with
  | nil => rfl
  | cons _ _ ih => exact congrArg (· + 1) (ih _)

end Frames

/-- VP8 frames that are sent are got back, over packets that are numbered and marked as they should
be. -/
theorem roundTrip {codec : String} (h_codec : Codec.ofString codec = some .vp8)
    (self : RtpSendPipeline) {frames : List (Bytes × ℕ)}
    (h_frames : ∀ frame ∈ frames, frame.1 ≠ []) :
    RoundTrip self frames (self.sendFrames codec frames) where
  payload_le packet hmem := by
    obtain ⟨_, hgroup, hpacket⟩ := mem_flatten.mp hmem
    obtain ⟨k, hat⟩ := getElem?_of_mem hgroup
    obtain ⟨_, _, _, _, hsends, -⟩ := sends_of_getElem? h_codec frames self hat
    exact hsends.payload_le hpacket
  numbers := numbers_sendFrames h_codec frames self
  length_eq := length_sendFrames frames self
  frameGroup k group hgroup := by
    obtain ⟨_, _, frame, hf, hsends, hid⟩ := sends_of_getElem? h_codec frames self hgroup
    rw [← hid]
    exact ⟨hsends.ne_nil (h_frames frame hf), fun _ => hsends.pictureIdOf_eq,
      fun _ _ => hsends.marker_iff⟩
  outputs_eq := outputs_sendFrames h_codec h_frames self ⟨rfl, .inl ⟨rfl, rfl⟩⟩

/-- A key frame in several packets and a frame after it, across the end of the picture ids and of
the sequence numbers. -/
theorem roundTrip_fragmented :
    let pipeline : RtpSendPipeline := ⟨"camera", 7, 125, 96, 0x7FFF, 90000, 0xFFFF, 0⟩
    let frames := [(0x10 :: replicate 3000 0x02, 0), ([0x31], 33)]
    (pipeline.sendFrames "vp8" frames).map length = [3, 1] ∧
      RoundTrip pipeline frames (pipeline.sendFrames "vp8" frames) :=
  ⟨by decide +kernel, roundTrip (by decide +kernel) _ (by decide +kernel)⟩

end RtpSendPipeline

end LiveKit.Rtp
