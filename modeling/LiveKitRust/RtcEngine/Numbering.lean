import LiveKitRust.RtcEngine.DataChannelTask

/-!
# The numbers of reliable packets

The number of a reliable packet is a part of what is encoded, so the task takes it before it knows
how long the encoded packet is. That of a packet which turns out to be too large is not given back,
and the retry after a reconnection takes the gap for missing packets.

The numbers taken are 1, 2, 3 and so on, as a `u32` counts (`counted_run`); those of the packets in
the channel have no gap in exactly the runs that reject nothing (`enqueued_inSequence_iff`).
-/

open Machine List

namespace LiveKit.RtcEngine

/-- 1, 2, 3 and so on, as a `u32` counts. -/
def sequenceNumbers (count : ℕ) : List ℕ := (range count).map fun n => (n + 1) % 2 ^ 32

/-- The reliable packets that have got a number and went into the channel with it. -/
def Observation.enqueuedPackets : List Observation → List EncodedPacket
  | .numbered _ :: .rejected _ :: log => enqueuedPackets log
  | .numbered packet :: log => packet :: enqueuedPackets log
  | _ :: log => enqueuedPackets log
  | [] => []

open Observation

lemma enqueuedPackets_eq {log} (h : rejectedPackets log = []) :
    enqueuedPackets log = numberedPackets log := by
  fun_induction enqueuedPackets log with
  | case1 => cases h
  | case2 pkt _ _ ih => exact congrArg (pkt :: ·) (ih h)
  | case3 observation log _ hnot ih =>
    cases observation with
    | numbered pkt => exact absurd rfl (hnot pkt)
    | rejected => cases h
    | _ => exact ih h
  | case4 => rfl

namespace DataChannelTask

variable {π : Type} (encode : π → ℕ → List UInt8)

/-- A reliable packet that the task takes is not too large. -/
def Fits (self : DataChannelTask π) (action : Action π) : Prop :=
  match self.taken action with
  | some (.publishPacket .reliable request) => self.maxMessageSize = 0 ∨
      (encode request.packet self.nextPacketSequence).length ≤ self.maxMessageSize
  | _ => True

/-- If the step rejects a reliable packet, it has only taken it from the channel. -/
def RejectsCleanly (self : DataChannelTask π) (action : Action π) : Prop :=
  rejectedPackets (self.step encode action).2 ≠ [] →
    (self.step encode action).1 = { self with dcEvents := self.dcEvents.tail }

variable {log : List Observation} (self : DataChannelTask π)

lemma Move.numbers {released pre after event} (h : Move encode released pre event after log) :
    (numberedPackets log = [] ∧ rejectedPackets log = [] ∧ after.next = pre.next) ∨
      ∃ pkt req, event = some (.publishPacket .reliable req) ∧
        numberedPackets log = [pkt] ∧ pkt.sequence = pre.next ∧
          after.next = (pre.next + 1) % 2 ^ 32 := by
  cases h with
  | idle _ hlog | sent _ _ _ hlog | reported _ _ _ _ hlog =>
    exact .inl ⟨hlog.numbered, hlog.rejected, rfl⟩
  | numbered req | rejected req => exact .inr ⟨_, req, rfl, rfl, rfl, rfl⟩
  | retried => exact .inl ⟨rfl, rfl, rfl⟩

/-! ### The numbers that are taken -/

def Counted (log : List Observation) (self : DataChannelTask π) : Prop :=
  (numberedPackets log).map (·.sequence) = sequenceNumbers (numberedPackets log).length ∧
    self.nextPacketSequence = ((numberedPackets log).length + 1) % 2 ^ 32

lemma counted_step (action) (h : Counted log self) :
    Counted (log ++ (self.step encode action).2) (self.step encode action).1 := by
  obtain ⟨hnumbers, hnext⟩ := h
  rcases (self.step_move encode action).numbers with
    ⟨hn, -, hsm⟩ | ⟨pkt, _, -, hone, hsequence, ha⟩
  · rw [Counted, numberedPackets_append, hn, append_nil]
    exact ⟨hnumbers, hsm.trans hnext⟩
  · have hsequence : pkt.sequence = self.nextPacketSequence := hsequence
    have ha : (self.step encode action).1.nextPacketSequence =
        (self.nextPacketSequence + 1) % 2 ^ 32 := ha
    rw [Counted, numberedPackets_append, hone, ha, hnext]
    constructor
    · simp [sequenceNumbers, range_succ, hnumbers, hsequence, hnext]
    · simp

lemma counted_run (lossyThreshold reliableThreshold maxMessageSize actions) :
    Counted (outputs (step encode) (.new lossyThreshold reliableThreshold maxMessageSize) actions)
      (state (step encode) (.new lossyThreshold reliableThreshold maxMessageSize) actions) := by
  have hinit : Counted [] (new (π := π) lossyThreshold reliableThreshold maxMessageSize) :=
    ⟨rfl, rfl⟩
  exact run_induction hinit (fun _ self action h => counted_step encode self action h) actions

/-- **No number is used twice.** In every run, the first `2 ^ 32 - 1` numbers taken increase. -/
theorem numbered_increasing (lossy reliable maxSize : ℕ) (actions : List (Action π)) :
    (((numberedPackets (outputs (step encode) (.new lossy reliable maxSize) actions)).map
      (·.sequence)).take (2 ^ 32 - 1)).Pairwise (· < ·) := by
  rw [(counted_run encode lossy reliable maxSize actions).1, sequenceNumbers, ← map_take,
    pairwise_map, pairwise_iff_getElem]
  intro i j hi hj hlt
  -- before the counter wraps, a number is one more than its place
  simp at hj ⊢
  omega

/-! ### The numbers that are given up -/

lemma rejectedPackets_eq_nil_iff (action) :
    rejectedPackets (self.step encode action).2 = [] ↔ self.Fits encode action := by
  unfold Fits
  split
  next req htk =>
    cases action with
    | recv outcomes =>
      rw [step, htk]
      simp only [handle, onPublishPacket, enqueueEncoded]
      split
      next hlarge => exact iff_of_false (by simp [rejectedPackets, rejectedPacket]) (by omega)
      next hsmall => exact iff_of_true rfl (by omega)
    | _ => cases htk
  next hot =>
    refine iff_of_true ?_ trivial
    rcases (self.step_move encode action).numbers with ⟨-, hn, -⟩ | ⟨_, req, htk, -⟩
    · exact hn
    · exact absurd htk (hot req)

lemma rejectsCleanly_iff (action) :
    self.RejectsCleanly encode action ↔ self.Fits encode action := by
  rw [← rejectedPackets_eq_nil_iff]
  constructor
  · intro hclean
    by_contra hrejected
    rcases (self.step_move encode action).numbers with ⟨-, hn, -⟩ | ⟨_, _, -, -, -, ha⟩
    · exact hrejected hn
    · rw [hclean hrejected] at ha
      have ha : self.nextPacketSequence = (self.nextPacketSequence + 1) % 2 ^ 32 := ha
      omega
  · exact fun hn hrejected => absurd hn hrejected

/-- **Numbers without gaps.** In a run, the packets in the channel have the numbers 1, 2, 3 and
so on and a rejection changes nothing if and only if no packet that is taken is too large. -/
theorem enqueued_inSequence_iff (lossyThreshold reliableThreshold maxMessageSize : ℕ)
    (actions : List (Action π)) :
    let new := .new lossyThreshold reliableThreshold maxMessageSize
    let enqueued := enqueuedPackets (outputs (step encode) new actions)
    (enqueued.map (·.sequence) = sequenceNumbers enqueued.length ∧
        Along (step encode) (RejectsCleanly encode) new actions) ↔
      Along (step encode) (Fits encode) new actions := by
  intro new enqueued
  have hclean : Along (step encode) (RejectsCleanly encode) new actions ↔
      Along (step encode) (Fits encode) new actions := by
    simp only [along_iff_forall, rejectsCleanly_iff]
  rw [hclean, and_iff_right_iff_imp]
  intro hfits
  have hn : rejectedPackets (outputs (step encode) new actions) = [] := by
    have hinit : rejectedPackets [] = [] := rfl
    refine hfits.run_of_step (P := fun log _ => rejectedPackets log = []) hinit ?_
    intro log self a hlog hfits
    rw [rejectedPackets_append, hlog, (rejectedPackets_eq_nil_iff encode self a).mpr hfits]
    rfl
  rw [show enqueued = _ from enqueuedPackets_eq hn]
  exact (counted_run encode lossyThreshold reliableThreshold maxMessageSize actions).1

/-- A packet of nine bytes, where eight is the most, takes the number 1 with it. -/
theorem enqueued_gap : enqueuedPackets (outputs (step wire) (.new 10 10 8)
      [.publish .reliable ⟨[0x12, 4, 0x12, 2, 7, 7], 0, 0⟩, .publish .reliable ⟨[0x12, 0], 0, 1⟩,
        .recv fun _ => true, .recv fun _ => true]) = [⟨wire [0x12, 0] 2, 2⟩] := by
  decide +kernel

end DataChannelTask

end LiveKit.RtcEngine
