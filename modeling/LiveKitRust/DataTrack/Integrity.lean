import LiveKitRust.DataTrack.Depacketizer

/-!
# Integrity of reassembled frames

Whatever packets are pushed into a depacketizer, in whatever order, a frame it emits is a single
packet or the reassembly of one frame number's packets since the most recent start packet.

The specification reads the *history* of pushed packets and knows nothing of the buffers:

* `sinceStart n history` — the most recent start packet of frame `n`, and what was pushed after it;
* `latest counts n s pushed` — the last packet of frame `n` with sequence number `s` that counts as
  a fragment;
* `ReassembledFrom` — the frame concatenates the latest fragments at consecutive sequence numbers,
  from that start packet to the final packet.

`Buffered` relates a partial frame to the history, and every push preserves it (`buffered_push`). A
`Single` packet is never a fragment of another frame (`isFragment`); counting it as one, the
specification fails (`push_single_not_fragment`).
-/

open Sequence List

namespace LiveKit.DataTrack

open Depacketizer

/-! ### Reading a history -/

def IsStart (n : UInt16) (packet : Packet) : Prop :=
  packet.header.marker = .start ∧ packet.header.frameNumber = n
  deriving Decidable

def isFragment (packet : Packet) : Bool := packet.header.marker ≠ .single

def sinceStart (n : UInt16) : List Packet → Option (Packet × List Packet)
  | [] => none
  | packet :: rest =>
    (sinceStart n rest).or (if IsStart n packet then some (packet, rest) else none)

def latest (counts : Packet → Bool) (n s : UInt16) (pushed : List Packet) : Option Packet :=
  pushed.reverse.find? fun q => counts q ∧ q.header.frameNumber = n ∧ q.header.sequence = s

lemma sinceStart_concat (n : UInt16) (hist : List Packet) (packet : Packet) :
    sinceStart n (hist ++ [packet]) = if IsStart n packet then some (packet, [])
      else (sinceStart n hist).map fun r => (r.1, r.2 ++ [packet]) := by
  induction hist with
  | nil =>
    simp only [nil_append, sinceStart, Option.none_or]
    split <;> rfl
  | cons q hist ih =>
    rw [cons_append, sinceStart, ih, sinceStart]
    by_cases h : IsStart n packet
    · rw [if_pos h, if_pos h, Option.some_or]
    · rw [if_neg h, if_neg h]
      cases sinceStart n hist with
      | some => rfl
      | none =>
        -- nothing later starts the frame: `q` does, or nothing
        by_cases hq : IsStart n q
        · simp [hq]
        · simp [hq]

variable {n : UInt16} {hist : List Packet} {packet : Packet} {fr : DepacketizerFrame}
  {partialFrame : PartialFrame} {self : Depacketizer}

lemma sinceStart_eq_some_iff {start after} :
    sinceStart n hist = some (start, after) ↔
      ∃ pre, hist = pre ++ start :: after ∧ IsStart n start ∧ ∀ q ∈ after, ¬ IsStart n q := by
  induction hist using reverseRecOn generalizing after with
  | nil => simp [sinceStart]
  | append_singleton hist packet ih =>
    rw [sinceStart_concat]
    by_cases h : IsStart n packet
    · rw [if_pos h]
      constructor
      · intro heq
        cases heq
        exact ⟨hist, rfl, h, by simp⟩
      · rintro ⟨_, heq, -, ha⟩
        -- were `after` not empty, it would end in the start packet `packet`
        rcases eq_nil_or_concat after with rfl | ⟨after, _, rfl⟩
        · obtain ⟨rfl, hlast⟩ := append_inj' heq rfl
          rw [(cons.inj hlast).1]
        · rw [concat_eq_append, ← cons_append, ← append_assoc] at heq
          obtain ⟨-, hlast⟩ := append_inj' heq rfl
          rw [← (cons.inj hlast).1] at ha
          exact absurd h (ha packet (by simp))
    · rw [if_neg h, Option.map_eq_some_iff]
      constructor
      · rintro ⟨⟨_, _⟩, hsince, heq⟩
        cases heq
        obtain ⟨pre, rfl, hst, ha⟩ := ih.mp hsince
        exact ⟨pre, by simp, hst, forall_mem_append.mpr ⟨ha, forall_mem_singleton.mpr h⟩⟩
      · rintro ⟨pre, heq, hst, ha⟩
        rcases eq_nil_or_concat after with rfl | ⟨after, _, rfl⟩
        · obtain ⟨-, hlast⟩ := append_inj' heq rfl
          rw [(cons.inj hlast).1] at h
          exact absurd hst h
        · rw [concat_eq_append, ← cons_append, ← append_assoc] at heq
          obtain ⟨hinit, hlast⟩ := append_inj' heq rfl
          cases hlast
          refine ⟨(start, after), ih.mpr ⟨pre, hinit, hst, fun q hq => ?_⟩, by simp⟩
          exact ha q (by simp [hq])

lemma latest_concat (counts n s pushed packet) :
    latest counts n s (pushed ++ [packet]) =
      if counts packet ∧ packet.header.frameNumber = n ∧ packet.header.sequence = s then some packet
      else latest counts n s pushed := by
  unfold latest
  by_cases h : counts packet ∧ packet.header.frameNumber = n ∧ packet.header.sequence = s
  · simp [h]
  · simp [h]

/-! ### The specification -/

/-- The frame is put together from the history and the final packet: one payload for each sequence
number from the most recent start packet of the frame to the final packet, all pushed since that
start packet. -/
def ReassembledFrom (counts : Packet → Bool) (history : List Packet) (packet : Packet)
    (frame : DepacketizerFrame) : Prop :=
  ∃ before start after parts, history = before ++ start :: after ∧
    IsStart packet.header.frameNumber start ∧
    (∀ q ∈ after, ¬ IsStart packet.header.frameNumber q) ∧
    consecutive (fun s => latest counts packet.header.frameNumber s (start :: after ++ [packet]))
        start.header.sequence
        ((packet.header.sequence - start.header.sequence).toNat + 1) = some parts ∧
    frame = ⟨(parts.map Packet.payload).flatten, start.header.extensions⟩

def reassemble (counts : Packet → Bool) (history : List Packet) (packet : Packet) :
    Option DepacketizerFrame :=
  (sinceStart packet.header.frameNumber history).bind fun r =>
    (consecutive (fun s => latest counts packet.header.frameNumber s (r.1 :: r.2 ++ [packet]))
        r.1.header.sequence
        ((packet.header.sequence - r.1.header.sequence).toNat + 1)).map
      fun parts => ⟨(parts.map Packet.payload).flatten, r.1.header.extensions⟩

lemma reassembledFrom_iff {counts} :
    ReassembledFrom counts hist packet fr ↔ reassemble counts hist packet = some fr := by
  unfold reassemble
  rw [Option.bind_eq_some_iff]
  constructor
  · rintro ⟨pre, start, after, _, hhist, hst, ha, hparts, rfl⟩
    refine ⟨(start, after), sinceStart_eq_some_iff.mpr ⟨pre, hhist, hst, ha⟩, ?_⟩
    rw [hparts]
    rfl
  · rintro ⟨⟨start, after⟩, hsince, hf⟩
    obtain ⟨pre, hhist, hst, ha⟩ := sinceStart_eq_some_iff.mp hsince
    obtain ⟨parts, hparts, rfl⟩ := Option.map_eq_some_iff.mp hf
    exact ⟨pre, start, after, parts, hhist, hst, ha, hparts, rfl⟩

instance (counts : Packet → Bool) (history : List Packet) (packet : Packet)
    (frame : DepacketizerFrame) : Decidable (ReassembledFrom counts history packet frame) :=
  decidable_of_iff' _ reassembledFrom_iff

/-! ### The buffers and the history -/

/-- What a partial frame holds: its start packet is the most recent one, and the buffer has the
latest fragment for each sequence number received since. -/
def Buffered (history : List Packet) (n : UInt16) (partialFrame : PartialFrame) : Prop :=
  ∃ start after, sinceStart n history = some (start, after) ∧
    partialFrame.startSequence = start.header.sequence ∧
    partialFrame.extensions = start.header.extensions ∧
    ∀ s, partialFrame.payloads.lookup s =
      (latest isFragment n s (start :: after)).map Packet.payload

lemma Buffered.concat_of_not_fragment (h : Buffered hist n partialFrame)
    (hnot : ¬ (isFragment packet ∧ packet.header.frameNumber = n)) :
    Buffered (hist ++ [packet]) n partialFrame := by
  obtain ⟨start, after, hsince, hseq, hext, hpayloads⟩ := h
  have hst : ¬ IsStart n packet := by
    rintro ⟨hmarker, h_n⟩
    exact hnot ⟨by simp [isFragment, hmarker], h_n⟩
  refine ⟨start, after ++ [packet], ?_, hseq, hext, fun s => ?_⟩
  · rw [sinceStart_concat, if_neg hst, hsince]
    rfl
  · rw [← cons_append, latest_concat, if_neg fun hc => hnot ⟨hc.1, hc.2.1⟩]
    exact hpayloads s

lemma buffered_start (hist : List Packet) (h : packet.header.marker = .start) :
    Buffered (hist ++ [packet]) packet.header.frameNumber
      ⟨packet.header.sequence, packet.header.extensions,
        AList.singleton packet.header.sequence packet.payload⟩ := by
  refine ⟨packet, [], ?_, rfl, rfl, fun s => ?_⟩
  · rw [sinceStart_concat, if_pos ⟨h, rfl⟩]
  · have hlatest := latest_concat isFragment packet.header.frameNumber s [] packet
    rw [nil_append] at hlatest
    rw [hlatest, ← AList.insert_empty, AList.lookup_insert_ite]
    -- the buffer has one entry, and so does the history since the start packet
    by_cases hs : s = packet.header.sequence
    · simp [hs, isFragment, h]
    · simp [hs, Ne.symm hs, latest]

lemma Buffered.concat_fragment (h : Buffered hist packet.header.frameNumber partialFrame)
    (hsingle : packet.header.marker ≠ .single) (hst : packet.header.marker ≠ .start) :
    Buffered (hist ++ [packet]) packet.header.frameNumber { partialFrame with
      payloads := partialFrame.payloads.insert packet.header.sequence packet.payload } := by
  obtain ⟨start, after, hsince, hseq, hext, hpayloads⟩ := h
  refine ⟨start, after ++ [packet], ?_, hseq, hext, fun s => ?_⟩
  · rw [sinceStart_concat, if_neg fun hc => hst hc.1, hsince]
    rfl
  · rw [← cons_append, latest_concat]
    rw [AList.lookup_insert_ite, hpayloads s]
    -- the insertion replaces the entry `latest` replaces
    by_cases hs : s = packet.header.sequence
    · simp [hs, isFragment, hsingle]
    · simp [hs, Ne.symm hs]

def BuffersAgree (history : List Packet) (self : Depacketizer) : Prop :=
  ∀ n partialFrame, self.partials.lookup n = some partialFrame → Buffered history n partialFrame

/-- **One push** keeps the buffers in agreement with the history. -/
theorem buffered_push (h : BuffersAgree hist self) (packet : Packet)
    (opts : DepacketizerPushOptions) :
    BuffersAgree (hist ++ [packet]) (self.push packet opts).2 := by
  intro n pf hs
  rcases lookup_push hs with ⟨hold, hkept⟩ | ⟨rfl, ⟨hst, rfl⟩ | ⟨hinter, _, hold, -, rfl⟩⟩
  · refine (h n pf hold).concat_of_not_fragment ?_
    rcases hkept with hsingle | hn
    · simp [isFragment, hsingle]
    · exact fun hc => hn hc.2.symm
  · exact buffered_start hist hst
  · exact (h _ _ hold).concat_fragment (by simp [hinter]) (by simp [hinter])

lemma buffersAgree_run (pushes) :
    BuffersAgree (packetsOf pushes) (Machine.state step .new pushes) := by
  refine Machine.state_induction
    (P := fun pushes self => BuffersAgree (packetsOf pushes) self) ?_ ?_ pushes
  · intro n _ h
    cases h
  · intro _ _ pushed h
    rw [packetsOf, map_append]
    exact buffered_push h pushed.1 pushed.2

/-! ### Emitted frames -/

lemma finalize_reassembled (h : Buffered hist packet.header.frameNumber partialFrame)
    (hfinal : packet.header.marker = .final)
    (hf : (finalize packet.header.frameNumber { partialFrame with
      payloads := partialFrame.payloads.insert packet.header.sequence packet.payload }
      packet.header.sequence).frame = some fr) :
    ReassembledFrom isFragment hist packet fr := by
  have hsingle : packet.header.marker ≠ .single := by simp [hfinal]
  have hst : packet.header.marker ≠ .start := by simp [hfinal]
  obtain ⟨_, _, hsince, hseq, hext, hpayloads⟩ := h.concat_fragment hsingle hst
  -- the history before the final packet has the same start packet
  rw [sinceStart_concat, if_neg fun hc => hst hc.1] at hsince
  obtain ⟨⟨start', _⟩, hsince', heq⟩ := Option.map_eq_some_iff.mp hsince
  cases heq
  change partialFrame.startSequence = start'.header.sequence at hseq
  change partialFrame.extensions = start'.header.extensions at hext
  -- both sides read the same payloads over the same range of sequence numbers
  rw [reassembledFrom_iff, reassemble, hsince', Option.bind_some, ← hf, finalize_frame]
  simp only [hpayloads, hseq, hext, consecutive_map, Option.map_map, ← cons_append]
  rfl

/-- **Integrity.** Whatever was pushed before, a frame emitted by a push is the single packet
pushed, or the packet is final and the frame concatenates, in consecutive sequence order from the
most recent start packet of its frame number, exactly one payload for each sequence number: that of
the latest fragment of this frame number since that start packet. -/
theorem push_frame_integrity (pushes : List (Packet × DepacketizerPushOptions)) (packet : Packet)
    (options : DepacketizerPushOptions) (frame : DepacketizerFrame)
    (h : ((Machine.state Depacketizer.step .new pushes).push packet options).1.frame = some frame) :
    (packet.header.marker = .single ∧ frame = ⟨packet.payload, packet.header.extensions⟩) ∨
      (packet.header.marker = .final ∧
        ReassembledFrom isFragment (Depacketizer.packetsOf pushes) packet frame) := by
  have hagree := buffersAgree_run pushes
  generalize Machine.state step .new pushes = self at h hagree
  by_cases hsingle : packet.header.marker = .single
  · rw [(push_single hsingle).1] at h
    exact Or.inl ⟨hsingle, (Option.some.inj h).symm⟩
  by_cases hstart : packet.header.marker = .start
  · rw [(push_start hstart).1] at h
    cases h
  -- only a final packet whose frame is open and has room can deliver
  rw [push_of_ne hsingle hstart] at h
  cases hl : self.partials.lookup packet.header.frameNumber with
  | none =>
    rw [pushToPartial_unknown hl] at h
    cases h
  | some partialFrame =>
    by_cases hfull : Depacketizer.MAX_BUFFER_PACKETS ≤ partialFrame.payloads.len
    · rw [pushToPartial_full hl hfull] at h
      cases h
    by_cases hfinal : packet.header.marker = .final
    · rw [pushToPartial_final hl hfull hfinal] at h
      exact Or.inr ⟨hfinal, finalize_reassembled (hagree _ _ hl) hfinal h⟩
    · rw [pushToPartial_inter hl hfull hfinal] at h
      cases h

/-! ### A run of the depacketizer -/

def bytePacket (marker : FrameMarker) (n sequence : UInt16) (byte : UInt8) : Packet :=
  ⟨⟨marker, .one, sequence, n, ⟨0⟩, {}⟩, [byte]⟩

/-- Frame 1 in the packets 10, 11 and 12, in order. -/
theorem push_frame_integrity_in_order :
    let pushes := [(bytePacket .start 1 10 0, {}), (bytePacket .inter 1 11 1, {})]
    ReassembledFrom isFragment (packetsOf pushes) (bytePacket .final 1 12 2) ⟨[0, 1, 2], {}⟩ := by
  have h := push_frame_integrity [(bytePacket .start 1 10 0, {}), (bytePacket .inter 1 11 1, {})]
    (bytePacket .final 1 12 2) {} ⟨[0, 1, 2], {}⟩ (by decide +kernel)
  rcases h with ⟨hsingle, -⟩ | ⟨-, hf⟩
  · cases hsingle
  · exact hf

/-- **A single packet is no fragment.** The single packet 11 is the latest packet of frame 1 with
that number, but the frame carries the payload of the inter packet pushed before it. -/
theorem push_single_not_fragment : let options : DepacketizerPushOptions := ⟨2⟩
    let pushes := [(bytePacket .start 1 10 0, options), (bytePacket .inter 1 11 1, options),
      (bytePacket .single 1 11 7, options)]
    let packet := bytePacket .final 1 12 2
    ((Machine.state step .new pushes).push packet options).1.frame = some ⟨[0, 1, 2], {}⟩ ∧
      packet.header.marker ≠ .single ∧
      ¬ ReassembledFrom (fun _ => true) (packetsOf pushes) packet ⟨[0, 1, 2], {}⟩ := by
  decide +kernel

end LiveKit.DataTrack
