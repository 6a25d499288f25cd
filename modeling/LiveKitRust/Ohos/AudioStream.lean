import LiveKitRust.Base.Machine
import LiveKitRust.Rtp.VideoStream

/-!
# The audio stream (`ohos/audio_stream.rs`)

Packets wait in an unbounded channel; a poll takes one from it when no decoded frame is queued. The
gap before a packet is a wrapping difference, so that a packet that is late, or comes twice, is
preceded by as many concealment frames as the cap allows (`concealed_iff`).

The cap on the decoded frames is never reached. Of these there are at most nine, those of one
packet: the rest of the audio waits in the channel, which has no cap (`backlog_unbounded`). What
bounds the backlog is the pace of the consumer: if in every stretch of a run it polls often enough
for the packets that come, up to `MAX_QUEUE_FRAMES` frames, then no more than these wait
(`backlog_le`).

What libopus does is a parameter.
-/

open Machine LiveKit.Rtp

namespace LiveKit.Ohos

def DYNAMIC_PT_BASE : UInt8 := 96

def MAX_QUEUE_FRAMES : ℕ := 100

/-- `OpusDecoder`, and how the frames are made. -/
structure AudioCodec (δ φ : Type) where
  new : Option δ
  decode : δ → Bytes → δ × Option φ
  decodePlc : δ → δ × Option φ
  decodePcmPayload : Bytes → φ
  silenceFrame : φ

structure NativeAudioStream (δ φ : Type) where
  rx : List ReceivedRtpPacket := []
  decodedFrames : List φ := []
  lastSeq : Option UInt16 := none
  opusDecoder : Option δ := none
  droppedFrames : ℕ := 0
  closed : Bool := false

namespace NativeAudioStream

variable {δ φ : Type} (codec : AudioCodec δ φ) (self : NativeAudioStream δ φ)

def decodePlcFrame : NativeAudioStream δ φ × Option φ :=
  match self.opusDecoder with
  | none => (self, none)
  | some decoder =>
    let res := codec.decodePlc decoder
    ({ self with opusDecoder := some res.1 }, res.2)

/-- The loop over the missing packets, with how many frames it queues. -/
def conceal : ℕ → NativeAudioStream δ φ → NativeAudioStream δ φ × ℕ
  | 0, self => (self, 0)
  | n + 1, self =>
    match self.decodePlcFrame codec with
    | (self, none) => (self, 0)
    | (self, some frame) =>
      let res := conceal n { self with decodedFrames := self.decodedFrames ++ [frame] }
      (res.1, res.2 + 1)

def decodeOpusPacket (payload : Bytes) : NativeAudioStream δ φ × φ :=
  match self.opusDecoder.or codec.new with
  | none => (self, codec.silenceFrame)
  | some decoder =>
    let res := codec.decode decoder payload
    ({ self with opusDecoder := some res.1 }, res.2.getD codec.silenceFrame)

def trimQueue : NativeAudioStream δ φ :=
  let excess := self.decodedFrames.length - MAX_QUEUE_FRAMES
  { self with
    decodedFrames := self.decodedFrames.drop excess
    droppedFrames := self.droppedFrames + excess }

def plcCount (last : Option UInt16) (sequenceNumber : UInt16) : ℕ :=
  match last with
  | none => 0
  | some last => min (sequenceNumber - (last + 1)).toNat 8

/-- A packet is taken in, with the number of concealment frames that are queued before it. -/
def processRtpPacket (pkt : ReceivedRtpPacket) : NativeAudioStream δ φ × ℕ :=
  let res := conceal codec (plcCount self.lastSeq pkt.sequenceNumber) self
  let self := { res.1 with lastSeq := some pkt.sequenceNumber }
  if pkt.payload = [] then (self, res.2)
  else
    let decoded :=
      if pkt.payloadType < DYNAMIC_PT_BASE then (self, codec.decodePcmPayload pkt.payload)
      else self.decodeOpusPacket codec pkt.payload
    (trimQueue { decoded.1 with decodedFrames := decoded.1.decodedFrames ++ [decoded.2] }, res.2)

def drain : List ReceivedRtpPacket → NativeAudioStream δ φ → NativeAudioStream δ φ × List φ
  | [], self => ({ self with rx := [] }, [])
  | pkt :: rest, self =>
    let self := (self.processRtpPacket codec pkt).1
    match self.decodedFrames with
    | frame :: frames => ({ self with rx := rest, decodedFrames := frames }, [frame])
    | [] => drain rest self

def pollNext : NativeAudioStream δ φ × List φ :=
  if self.closed then (self, [])
  else
    match self.decodedFrames with
    | frame :: frames => ({ self with decodedFrames := frames }, [frame])
    | [] => drain codec self.rx self

/-! ### Concealment -/

def concealments : NativeAudioStream δ φ → List ReceivedRtpPacket → List ℕ
  | _, [] => []
  | self, pkt :: pkts =>
    let res := self.processRtpPacket codec pkt
    res.2 :: concealments res.1 pkts

/-- The second number comes after the first in serial number arithmetic. -/
def Newer (last seq : UInt16) : Prop := 0 < (seq - last).toNat ∧ (seq - last).toNat < 2 ^ 15
  deriving Decidable

/-- The numbers missing before a packet, up to the cap. -/
def missing (last seq : UInt16) : ℕ := if Newer last seq then min ((seq - last).toNat - 1) 8 else 0

def gaps : Option UInt16 → List ReceivedRtpPacket → List ℕ
  | _, [] => []
  | last, pkt :: pkts =>
    (last.map (missing · pkt.sequenceNumber)).getD 0 :: gaps (some pkt.sequenceNumber) pkts

lemma plcCount_eq_missing_iff (last seq : UInt16) :
    plcCount (some last) seq = missing last seq ↔ Newer last seq := by
  have hseq := seq.toNat_lt
  have hlast := last.toNat_lt
  simp only [plcCount, missing, Newer, UInt16.toNat_sub, UInt16.toNat_add, UInt16.toNat_one]
  split <;> omega

variable {codec} {self} {pkt : ReceivedRtpPacket}

section

variable (hnew : codec.new.isSome) (hplc : ∀ decoder, (codec.decodePlc decoder).2.isSome)

include hplc

lemma conceal_snd (n : ℕ) (h : self.opusDecoder.isSome) : (conceal codec n self).2 = n := by
  induction n generalizing self with
  | zero => rfl
  | succ n ih =>
    obtain ⟨decoder, hdecoder⟩ := Option.isSome_iff_exists.mp h
    obtain ⟨frame, hframe⟩ := Option.isSome_iff_exists.mp (hplc decoder)
    rw [conceal, decodePlcFrame, hdecoder]
    simp only [hframe]
    rw [ih rfl]

include hnew

lemma processRtpPacket_spec (hopus : DYNAMIC_PT_BASE ≤ pkt.payloadType ∧ pkt.payload ≠ [])
    (h : self.lastSeq.isSome → self.opusDecoder.isSome) :
    (self.processRtpPacket codec pkt).1.opusDecoder.isSome ∧
      (self.processRtpPacket codec pkt).1.lastSeq = some pkt.sequenceNumber ∧
      (self.processRtpPacket codec pkt).2 = plcCount self.lastSeq pkt.sequenceNumber := by
  simp only [processRtpPacket, if_neg hopus.2, if_neg (UInt8.not_lt.mpr hopus.1)]
  refine ⟨?_, ?_, ?_⟩
  · grind [decodeOpusPacket, trimQueue]
  · grind [decodeOpusPacket, trimQueue]
  · cases hlast : self.lastSeq with
    | none => rfl
    | some last =>
      rw [hlast] at h
      exact conceal_snd hplc _ (h rfl)

lemma concealments_eq_iff {last packets}
    (hopus : ∀ pkt ∈ packets, DYNAMIC_PT_BASE ≤ pkt.payloadType ∧ pkt.payload ≠ [])
    (hd : self.opusDecoder.isSome) (hlast : self.lastSeq = some last) :
    concealments codec self packets = gaps (some last) packets ↔
      (last :: packets.map (·.sequenceNumber)).IsChain Newer := by
  induction packets generalizing self last with
  | nil => exact ⟨fun _ => .singleton _, fun _ => rfl⟩
  | cons pkt pkts ih =>
    rw [List.forall_mem_cons] at hopus
    obtain ⟨hd', hlast', hcount⟩ := processRtpPacket_spec hnew hplc hopus.1 fun _ => hd
    rw [concealments, gaps, List.cons_eq_cons, ih hopus.2 hd' hlast', hcount, hlast]
    rw [List.map_cons, List.isChain_cons_cons]
    exact and_congr_left fun _ => plcCount_eq_missing_iff last pkt.sequenceNumber

end

/-- **Concealment.** If libopus does its part, the concealment frames before each packet are as
many as the numbers missing before it, and none if it is late or comes twice, if and only if every
packet is newer than the one before. -/
theorem concealed_iff (hnew : codec.new.isSome)
    (hplc : ∀ decoder, (codec.decodePlc decoder).2.isSome) (packets : List ReceivedRtpPacket)
    (hopus : ∀ pkt ∈ packets, DYNAMIC_PT_BASE ≤ pkt.payloadType ∧ pkt.payload ≠ []) :
    concealments codec {} packets = gaps none packets ↔
      (packets.map (·.sequenceNumber)).IsChain Newer := by
  cases packets with
  | nil => exact ⟨fun _ => .nil, fun _ => rfl⟩
  | cons pkt pkts =>
    rw [List.forall_mem_cons] at hopus
    obtain ⟨hd, hlast, hcount⟩ := @processRtpPacket_spec δ φ codec {} pkt hnew hplc hopus.1 nofun
    rw [concealments, gaps, List.cons_eq_cons, hcount, List.map_cons,
      concealments_eq_iff hnew hplc hopus.2 hd hlast]
    exact and_iff_right rfl

def steady : AudioCodec Unit Unit :=
  ⟨some (), fun _ _ => ((), some ()), fun _ => ((), some ()), fun _ => (), ()⟩

def opusPacket (seq : UInt16) : ReceivedRtpPacket := ⟨111, seq, 0, false, [0]⟩

theorem concealed_iff_gap : concealments steady {} [opusPacket 65535, opusPacket 2] = [0, 2] :=
  (concealed_iff rfl (fun _ => rfl) [opusPacket 65535, opusPacket 2] (by decide)).mpr (by decide)

/-- A packet comes twice. -/
theorem concealed_duplicate : concealments steady {} [opusPacket 1, opusPacket 1] = [0, 8] ∧
    gaps none [opusPacket 1, opusPacket 1] = [0, 0] := by
  decide

/-! ### The backlog -/

/-- A packet arrives, the consumer polls, or the stream is closed. -/
inductive Action where
  | receive (pkt : ReceivedRtpPacket)
  | pollNext
  | close

variable (codec) (self) in
/-- One step, with the frames that the consumer gets. Nothing is sent to a closed channel. -/
def step : Action → NativeAudioStream δ φ × List φ
  | .receive pkt => (if self.closed then self else { self with rx := self.rx ++ [pkt] }, [])
  | .pollNext => self.pollNext codec
  | .close => ({ self with closed := true }, [])

/-- The packets in the channel and the decoded frames. -/
def backlog (self : NativeAudioStream δ φ) : ℕ := self.rx.length + self.decodedFrames.length

def Action.isPoll : Action → Bool
  | .pollNext => true
  | _ => false

/-- The number of the packet that has come last. -/
def lastReceived (last : Option UInt16) : List Action → Option UInt16
  | [] => last
  | .receive pkt :: actions => lastReceived (some pkt.sequenceNumber) actions
  | _ :: actions => lastReceived last actions

/-- How many frames the packets that arrive may make for: each one its own, and those that conceal
the gap before it. -/
def frames (last : Option UInt16) : List Action → ℕ
  | [] => 0
  | .receive pkt :: actions =>
    plcCount last pkt.sequenceNumber + 1 + frames (some pkt.sequenceNumber) actions
  | _ :: actions => frames last actions

/-- In no stretch of the run do the packets make for more than `MAX_QUEUE_FRAMES` frames beyond one
for each poll. -/
def KeepsUp (actions : List Action) : Prop :=
  ∀ i ≤ actions.length, ∀ n ≤ actions.length,
    frames (lastReceived none (actions.take i)) ((actions.drop i).take n) ≤
      ((actions.drop i).take n).countP Action.isPoll + MAX_QUEUE_FRAMES
  deriving Decidable

lemma KeepsUp.frames_le {actions pre window post} (h : KeepsUp actions)
    (heq : actions = pre ++ window ++ post) :
    frames (lastReceived none pre) window ≤ window.countP Action.isPoll + MAX_QUEUE_FRAMES := by
  have hwindow := h pre.length (by simp [heq]) window.length (by simp [heq]; omega)
  simpa [heq] using hwindow

lemma lastReceived_append (last as bs) :
    lastReceived last (as ++ bs) = lastReceived (lastReceived last as) bs := by
  induction as generalizing last with
  | nil => rfl
  | cons a as ih => cases a <;> exact ih _

lemma frames_append (last as bs) :
    frames last (as ++ bs) = frames last as + frames (lastReceived last as) bs := by
  induction as generalizing last with
  | nil => exact (Nat.zero_add _).symm
  | cons a as ih =>
    cases a with
    | receive pkt =>
      rw [List.cons_append, frames, ih, frames, lastReceived]
      omega
    | pollNext | close => exact ih _

/-- The frames that are queued, and those that the packets in the channel may make for. -/
def owed (self : NativeAudioStream δ φ) : ℕ :=
  self.decodedFrames.length + frames self.lastSeq (self.rx.map .receive)

lemma length_le_frames (last : Option UInt16) (pkts : List ReceivedRtpPacket) :
    pkts.length ≤ frames last (pkts.map .receive) := by
  induction pkts generalizing last with
  | nil => exact Nat.zero_le _
  | cons pkt pkts ih =>
    have := ih (some pkt.sequenceNumber)
    rw [List.map_cons, frames, List.length_cons]
    omega

lemma backlog_le_owed : self.backlog ≤ self.owed := by
  rw [backlog, owed, Nat.add_comm]
  exact Nat.add_le_add_left (length_le_frames ..) _

lemma length_conceal (n : ℕ) : (conceal codec n self).1.decodedFrames.length ≤
    self.decodedFrames.length + n := by
  induction n generalizing self with
  | zero => exact Nat.le_refl _
  | succ n ih =>
    rw [conceal, decodePlcFrame]
    cases self.opusDecoder with
    | none => exact Nat.le_add_right _ _
    | some decoder =>
      dsimp only
      cases (codec.decodePlc decoder).2 with
      | none => exact Nat.le_add_right _ _
      | some frame =>
        refine ih.trans ?_
        simp only [List.length_append, List.length_singleton]
        omega

lemma length_processRtpPacket (pkt) :
    (self.processRtpPacket codec pkt).1.decodedFrames.length ≤
      self.decodedFrames.length + plcCount self.lastSeq pkt.sequenceNumber + 1 := by
  have hconceal := @length_conceal δ φ codec self (plcCount self.lastSeq pkt.sequenceNumber)
  grind [processRtpPacket, decodeOpusPacket, trimQueue]

lemma lastSeq_processRtpPacket (pkt) :
    (self.processRtpPacket codec pkt).1.lastSeq = some pkt.sequenceNumber := by
  grind [processRtpPacket, decodeOpusPacket, trimQueue]

/-- A poll takes a frame off what is owed, if anything is. The packet that has come last stays the
same. -/
lemma drain_spec (h : self.decodedFrames = []) (pkts) :
    (drain codec pkts self).1.owed ≤ frames self.lastSeq (pkts.map .receive) - 1 ∧
      lastReceived (drain codec pkts self).1.lastSeq ((drain codec pkts self).1.rx.map .receive) =
        lastReceived self.lastSeq (pkts.map .receive) := by
  induction pkts generalizing self with
  | nil => simp [drain, owed, frames, h]
  | cons pkt rest ih =>
    have hlength := @length_processRtpPacket δ φ codec self pkt
    have hlast := @lastSeq_processRtpPacket δ φ codec self pkt
    rw [h, List.length_nil] at hlength
    rw [drain, List.map_cons, frames, lastReceived, ← hlast]
    cases hframes : (self.processRtpPacket codec pkt).1.decodedFrames with
    | nil =>
      obtain ⟨howed, hreceived⟩ := ih hframes
      exact ⟨howed.trans (by omega), hreceived⟩
    | cons frame queued =>
      rw [hframes, List.length_cons] at hlength
      refine ⟨?_, rfl⟩
      dsimp only [owed]
      omega

/-- The stream knows the packet that has come last, and what it owes has come in since some point
of the run, less a frame for each poll since then. -/
def Follows (before : List Action) (self : NativeAudioStream δ φ) : Prop :=
  lastReceived self.lastSeq (self.rx.map .receive) = lastReceived none before ∧
    ∃ pre window, before = pre ++ window ∧
      self.owed + window.countP Action.isPoll ≤ frames (lastReceived none pre) window

lemma Follows.owed_le {actions before post} (h : Follows before self) (hkeeps : KeepsUp actions)
    (heq : actions = before ++ post) : self.owed ≤ MAX_QUEUE_FRAMES := by
  obtain ⟨-, pre, window, rfl, howed⟩ := h
  have := hkeeps.frames_le heq
  omega

lemma Follows.receive {before} (h : Follows before self) (pkt) :
    Follows (before ++ [.receive pkt]) { self with rx := self.rx ++ [pkt] } := by
  obtain ⟨hlast, pre, window, rfl, howed⟩ := h
  have hwindow : lastReceived none (pre ++ window) = lastReceived (lastReceived none pre) window :=
    lastReceived_append ..
  refine ⟨?_, pre, window ++ [.receive pkt], List.append_assoc .., ?_⟩
  · rw [List.map_append, lastReceived_append, lastReceived_append]
    rfl
  · rw [owed, List.map_append, frames_append, hlast, hwindow, List.countP_append, frames_append]
    rw [owed] at howed
    simp only [List.map_cons, List.map_nil, frames, List.countP_singleton, Action.isPoll,
      Bool.false_eq_true, if_false]
    omega

lemma Follows.pollNext {before} (h : Follows before self) (hopen : self.closed = false) :
    Follows (before ++ [.pollNext]) (self.pollNext codec).1 := by
  obtain ⟨hlast, pre, window, rfl, howed⟩ := h
  have hpoll : (self.pollNext codec).1.owed ≤ self.owed - 1 ∧
      lastReceived (self.pollNext codec).1.lastSeq ((self.pollNext codec).1.rx.map .receive) =
        lastReceived self.lastSeq (self.rx.map .receive) := by
    rw [NativeAudioStream.pollNext, hopen, if_neg Bool.false_ne_true]
    cases hframes : self.decodedFrames with
    | nil =>
      have hdrain := @drain_spec δ φ codec self hframes self.rx
      simpa [owed, hframes] using hdrain
    | cons frame queued =>
      simp only [owed, hframes, List.length_cons]
      exact ⟨by omega, trivial⟩
  refine ⟨?_, ?_⟩
  · rw [hpoll.2, hlast, lastReceived_append _ (pre ++ window)]
    rfl
  · rcases Nat.eq_zero_or_pos self.owed with hzero | hpos
    · -- nothing is owed, and the count starts again
      refine ⟨_, [], (List.append_nil _).symm, ?_⟩
      rw [List.countP_nil, frames]
      omega
    · refine ⟨pre, window ++ [.pollNext], List.append_assoc .., ?_⟩
      rw [List.countP_append, frames_append]
      simp only [List.countP_singleton, Action.isPoll, if_true, frames]
      omega

/-- Also when it is closed, the stream owes no more than it may. -/
lemma owed_state_le {actions} (hkeeps : KeepsUp actions) (before) (hpre : before <+: actions) :
    (state (step codec) {} before).owed ≤ MAX_QUEUE_FRAMES ∧
      ((state (step codec) {} before).closed = false →
        Follows before (state (step codec) {} before)) := by
  induction before using List.reverseRecOn with
  | nil => exact ⟨Nat.zero_le _, fun _ => ⟨rfl, [], [], rfl, Nat.zero_le _⟩⟩
  | append_singleton before a ih =>
    obtain ⟨howed, hfollows⟩ := ih ((List.prefix_append _ _).trans hpre)
    obtain ⟨post, hpost⟩ := hpre
    rw [state_concat]
    generalize state (step codec) {} before = s at howed hfollows
    have hopen (hnext : Follows (before ++ [a]) (s.step codec a).1) :
        (s.step codec a).1.owed ≤ MAX_QUEUE_FRAMES ∧
          ((s.step codec a).1.closed = false → Follows (before ++ [a]) (s.step codec a).1) :=
      ⟨hnext.owed_le hkeeps hpost.symm, fun _ => hnext⟩
    cases a with
    | receive pkt =>
      cases hclosed : s.closed with
      | true => simpa [step, hclosed] using howed
      | false =>
        refine hopen ?_
        simpa [step, hclosed] using (hfollows hclosed).receive pkt
    | pollNext =>
      cases hclosed : s.closed with
      | true => simpa [step, NativeAudioStream.pollNext, hclosed] using howed
      | false => exact hopen ((hfollows hclosed).pollNext hclosed)
    | close => exact ⟨howed, fun h => by cases h⟩

/-- **The backlog** stays below the cap while the consumer keeps up. -/
theorem backlog_le (codec : AudioCodec δ φ) {actions : List Action} (h : KeepsUp actions) :
    ∀ before, before <+: actions →
      (state (step codec) {} before).backlog ≤ MAX_QUEUE_FRAMES :=
  fun before hpre => backlog_le_owed.trans (owed_state_le h before hpre).1

/-- A packet comes after a gap, one comes twice, and the consumer is a few polls behind. -/
theorem backlog_le_behind :
    let actions := [.receive (opusPacket 65535), .pollNext, .receive (opusPacket 2),
      .receive (opusPacket 2), .pollNext, .pollNext, .receive (opusPacket 3), .pollNext]
    (state (step steady) {} actions).backlog = 2 ∧
      ∀ before, before <+: actions →
        (state (step steady) {} before).backlog ≤ MAX_QUEUE_FRAMES :=
  ⟨by decide, backlog_le steady (by decide +kernel)⟩

/-- Without polls, whatever comes waits in the channel, and nothing is dropped. -/
theorem backlog_unbounded :
    ¬ ∃ bound, ∀ actions, (state (step steady) {} actions).backlog ≤ bound := by
  rintro ⟨bound, h⟩
  have hbacklog (n : ℕ) (s : NativeAudioStream Unit Unit) (hopen : s.closed = false) :
      (state (step steady) s (.replicate n (.receive (opusPacket 0)))).backlog = s.backlog + n := by
    induction n generalizing s with
    | zero => rfl
    | succ n ih => rw [List.replicate_succ, state_cons, ih] <;> grind [step, backlog]
  have hbound := h (.replicate (bound + 1) (.receive (opusPacket 0)))
  rw [hbacklog _ _ rfl] at hbound
  exact absurd hbound (by simp [backlog])

end NativeAudioStream

end LiveKit.Ohos
