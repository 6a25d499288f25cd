import LiveKitRust.RtcEngine.DataChannelTask
import Mathlib.Data.List.TakeWhile

/-!
# What is sent again after a reconnection

The retry queue keeps reliable packets that were handed to the data channel, until it is trimmed at
a report of the data channel. `RetryFrom` puts those that the server has not got back into the
task's channel.

`retry_complete` takes reports that cover what is not settled (`Covers`): `trim` is given the number
of bytes just sent and not that of bytes still to be sent. In `resume_in_order` no packet waits as
the task takes the `RetryFrom`, or none is to be sent again (`Orderly`).
-/

open Machine List

namespace LiveKit.RtcEngine

open Observation DataChannelTask

variable {π : Type} (encode : π → ℕ → List UInt8)

/-! ### Settled packets -/

def covered : ℕ → List EncodedPacket → List EncodedPacket
  | _, [] => []
  | bytes, packet :: packets =>
    if packet.data.length ≤ bytes then packet :: covered (bytes - packet.data.length) packets
    else []

lemma covered_subset {bytes bytes'} (hle : bytes ≤ bytes') (pkts packets') :
    covered bytes pkts ⊆ covered bytes' (pkts ++ packets') := by
  induction pkts generalizing bytes bytes' with
  | nil => exact nil_subset _
  | cons _ _ ih =>
    rw [covered, cons_append, covered]
    split
    next hfits =>
      rw [if_pos (hfits.trans hle)]
      exact cons_subset_cons _ (ih (Nat.sub_le_sub_right hle _))
    next => exact nil_subset _

/-- The packets that the data channel has reported as sent, to the last byte. -/
def reportedPackets (log : List Observation) : List EncodedPacket :=
  covered (reportedBytes log) (acceptedPackets log)

/-- The packet was sent, the server has got it, or it was too large. -/
def Settled (log : List Observation) (packet : EncodedPacket) : Prop :=
  packet ∈ reportedPackets log ∨ packet ∈ rejectedPackets log ∨
    ∃ lastSequence ∈ retriedSequences log, packet.sequence ≤ lastSequence
  deriving Decidable

lemma Settled.append {log pkt} (h : Settled log pkt) (log') : Settled (log ++ log') pkt := by
  rcases h with hreported | hrejected | ⟨lastSeq, hm, hle⟩
  · refine .inl ?_
    rw [reportedPackets, acceptedPackets_append, reportedBytes_append]
    exact covered_subset (Nat.le_add_right _ _) _ _ hreported
  · refine .inr (.inl ?_)
    rw [rejectedPackets_append]
    exact mem_append_left _ hrejected
  · refine .inr (.inr ⟨lastSeq, ?_, hle⟩)
    rw [retriedSequences_append]
    exact mem_append_left _ hm

/-! ### Reports that cover what is not settled -/

structure Observed (π : Type) where
  task : DataChannelTask π
  log : List Observation

namespace Observed

def new (lossyThreshold reliableThreshold maxMessageSize : ℕ) : Observed π :=
  ⟨.new lossyThreshold reliableThreshold maxMessageSize, []⟩

def step (self : Observed π) (action : Action π) : Observed π × List Observation :=
  (⟨(self.task.step encode action).1, self.log ++ (self.task.step encode action).2⟩,
    (self.task.step encode action).2)

/-- At a report of bytes as sent, the packets in the retry queue and those that the report
lets out of the send queue, from the first one on that is not settled, come to at most so
many bytes. -/
def Covers (self : Observed π) (action : Action π) : Prop :=
  match self.task.taken action with
  | some (.bufferedAmountChange .reliable size) =>
    totalSize ((self.task.places.retry ++ self.task.released size).dropWhile fun packet =>
      Settled (self.log ++ [.reported size]) packet) ≤ size
  | _ => True

instance (self : Observed π) (action : Action π) : Decidable (self.Covers action) := by
  unfold Covers
  split <;> infer_instance

end Observed

/-! ### No packet gets lost -/

def Kept (log : List Observation) (places : Reliable) : Prop :=
  ∀ packet ∈ numberedPackets log,
    Settled log packet ∨ packet ∈ places.retry ∨ packet ∈ places.waiting

variable {log : List Observation} {pre : Reliable} {pkt : EncodedPacket}
  {now later : List EncodedPacket} {sends : List Observation} {data : List EncodedPacket}

lemma Kept.of_moved {log' after} (h : Kept log pre) (hmoved : ∀ pkt, ¬ Settled (log ++ log') pkt →
      pkt ∈ numberedPackets log' ∨ pkt ∈ pre.retry ∨ pkt ∈ pre.waiting →
      pkt ∈ after.retry ∨ pkt ∈ after.waiting) : Kept (log ++ log') after := by
  intro pkt hm
  by_cases hset : Settled (log ++ log') pkt
  · exact .inl hset
  · refine .inr (hmoved pkt hset ?_)
    rw [numberedPackets_append, mem_append] at hm
    rcases hm with hbef | hnew
    · rcases h pkt hbef with hsettled' | hplace
      · exact absurd (hsettled'.append log') hset
      · exact .inr hplace
    · exact .inl hnew

lemma mem_dropWhile {pkts : List EncodedPacket} {p : EncodedPacket → Bool}
    (hm : pkt ∈ pkts) (hnot : p pkt = false) : pkt ∈ pkts.dropWhile p := by
  rw [← takeWhile_append_dropWhile (l := pkts) (p := p), mem_append] at hm
  refine hm.resolve_left fun htk => ?_
  rw [mem_takeWhile_imp htk] at hnot
  exact Bool.noConfusion hnot

lemma waiting_of_reported (hq : pre.queue = now ++ later) :
    pre.waiting = now ++ (later ++ pre.data) := by
  rw [Reliable.waiting, hq, append_assoc]

lemma Kept.reported {size : ℕ} {retry : List EncodedPacket} (h : Kept log pre)
    (hcovers : totalSize ((pre.retry ++ now).dropWhile fun pkt =>
      Settled (log ++ [.reported size]) pkt) ≤ size) (hq : pre.queue = now ++ later)
    (hlongest : ∀ rest, rest <:+ pre.retry ++ now → totalSize rest ≤ size → rest <:+ retry)
    (hlog : Sends now sends) :
    Kept (log ++ .reported size :: sends) { pre with retry := retry, queue := later } := by
  refine h.of_moved fun pkt hnot hplace => ?_
  have hnew : numberedPackets (.reported size :: sends) = [] := hlog.numbered
  have hplace : pkt ∈ pre.retry ++ now ∨ pkt ∈ later ++ pre.data := by
    rw [hnew, waiting_of_reported hq, mem_append, ← or_assoc (a := pkt ∈ pre.retry),
      ← mem_append] at hplace
    exact hplace.resolve_left not_mem_nil
  refine hplace.imp_left fun hhanded => ?_
  -- so the packet is after the settled ones that the queue begins with
  have hnot : ¬ Settled (log ++ [.reported size]) pkt := by
    intro hset
    refine hnot ?_
    rw [append_cons]
    exact hset.append sends
  have hr := mem_dropWhile hhanded (p := fun pkt =>
    decide (Settled (log ++ [.reported size]) pkt)) (decide_eq_false hnot)
  exact (hlongest _ (dropWhile_suffix _) hcovers).mem hr

lemma waiting_of_sent (hdata : pre.data = pkt :: data) (hq : pre.queue ++ [pkt] = now ++ later) :
    pre.waiting = now ++ (later ++ data) := by
  rw [Reliable.waiting, hdata, append_cons, hq, append_assoc]

lemma Kept.sent (h : Kept log pre) (hdata : pre.data = pkt :: data)
    (hq : pre.queue ++ [pkt] = now ++ later) (hlog : Sends now sends) :
    Kept (log ++ sends) { pre with retry := pre.retry ++ now, queue := later, data := data } := by
  refine h.of_moved fun packet' _ hplace => ?_
  rw [hlog.numbered, waiting_of_sent hdata hq, mem_append] at hplace
  rcases hplace with hnew | hre | hnow | hla
  · cases hnew
  · exact .inl (mem_append_left _ hre)
  · exact .inl (mem_append_right _ hnow)
  · exact .inr hla

lemma Kept.retried (h : Kept log pre) (lastSeq : ℕ) :
    Kept (log ++ [.retried lastSeq]) { pre with
      retry := []
      data := pre.data ++ pre.retry.filter fun pkt => lastSeq < pkt.sequence } := by
  refine h.of_moved fun pkt hnot hplace => .inr ?_
  have hmissing : lastSeq < pkt.sequence := by
    refine Nat.lt_of_not_le fun hle => hnot (.inr (.inr ⟨lastSeq, ?_, hle⟩))
    rw [retriedSequences_append]
    exact mem_append_right _ (mem_singleton_self _)
  rw [Reliable.waiting, ← append_assoc]
  rcases hplace with hnew | hre | hwaiting
  · cases hnew
  · exact mem_append_right _ (mem_filter.mpr ⟨hre, decide_eq_true hmissing⟩)
  · exact mem_append_left _ hwaiting

lemma Observed.kept_step (s : Observed π) (a : Action π)
    (h : Kept s.log s.task.places) (hcovers : s.Covers a) :
    Kept (s.step encode a).1.log (s.step encode a).1.task.places := by
  have hmv := s.task.step_move encode a
  change Kept (s.log ++ (s.task.step encode a).2) (s.task.step encode a).1.places
  unfold Covers at hcovers
  generalize s.task.released = released at hcovers hmv
  generalize s.task.places = pre at h hcovers hmv
  generalize s.task.taken a = ev at hcovers hmv
  generalize (s.task.step encode a).1.places = after at hmv ⊢
  generalize (s.task.step encode a).2 = log at hmv ⊢
  cases hmv with
  | idle _ hlog =>
    refine h.of_moved fun pkt _ hplace => ?_
    rw [hlog.numbered] at hplace
    exact hplace.resolve_left not_mem_nil
  | numbered =>
    refine h.of_moved fun pkt _ hplace => ?_
    rw [Reliable.waiting, ← append_assoc, mem_append]
    rcases hplace with hnew | hre | hwaiting
    · exact .inr (.inr hnew)
    · exact .inl hre
    · exact .inr (.inl hwaiting)
  | rejected =>
    -- the only new packet is settled by this
    refine h.of_moved fun pkt hnot hplace => ?_
    refine hplace.resolve_left fun hnew => hnot (.inr (.inl ?_))
    rw [rejectedPackets_append]
    exact mem_append_right _ hnew
  | sent _ hdata hq hlog => exact h.sent hdata hq hlog
  | reported _ hq _ hlongest hlog => exact h.reported hcovers hq hlongest hlog
  | retried lastSeq => exact h.retried lastSeq

lemma Observed.kept_state {acts s} (hinit : Kept s.log s.task.places)
    (hcovers : Along (Observed.step encode) Observed.Covers s acts) :
    Kept (state (Observed.step encode) s acts).log
      (state (Observed.step encode) s acts).task.places :=
  hcovers.state_of_step (P := fun s => Kept s.log s.task.places) hinit
    fun s a h hcovers => s.kept_step encode a h hcovers

/-- **Nothing that may be needed again gets lost**, in every run whose reports cover what
is not settled: a packet that has a number, was not reported as sent, is not too large
and not known to be with the server is in the retry queue, or still to be handed over.
And a `RetryFrom` sends those after its sequence number. -/
theorem retry_complete (lossyThreshold reliableThreshold maxMessageSize : ℕ)
    (actions : List (Action π)) (h_covers : Along (Observed.step encode) Observed.Covers
      (.new lossyThreshold reliableThreshold maxMessageSize) actions) :
    let after := state (Observed.step encode)
      (.new lossyThreshold reliableThreshold maxMessageSize) actions
    ∀ packet ∈ numberedPackets after.log, packet ∉ reportedPackets after.log →
      packet ∉ rejectedPackets after.log →
      (∀ lastSequence ∈ retriedSequences after.log, lastSequence < packet.sequence) →
      (packet ∈ after.task.retryQueue.inner ∨ packet ∈ after.task.places.waiting) ∧
      ∀ outcomes lastSequence, after.task.taken (.recv outcomes) = some (.retryFrom lastSequence) →
        lastSequence < packet.sequence →
        packet ∈ (after.task.step encode (.recv outcomes)).1.places.waiting := by
  intro after packet hm hreported hrejected hretried
  have hkept : Kept after.log after.task.places := by
    refine Observed.kept_state encode ?_ h_covers
    exact nofun
  have hplace : packet ∈ after.task.retryQueue.inner ∨ packet ∈ after.task.places.waiting := by
    refine (hkept packet hm).resolve_left ?_
    rintro (h | h | ⟨lastSequence, hlast, hle⟩)
    · exact hreported h
    · exact hrejected h
    · exact Nat.not_le_of_lt (hretried lastSequence hlast) hle
  refine ⟨hplace, fun outcomes lastSequence htaken hlt => ?_⟩
  rw [after.task.places_retryFrom encode outcomes htaken, Reliable.waiting, ← append_assoc]
  rcases hplace with hretry | hwaiting
  · exact mem_append_right _ (mem_filter.mpr ⟨hretry, decide_eq_true hlt⟩)
  · exact mem_append_left _ hwaiting

/-- The task takes so many events, and the data channel takes what it is handed. -/
def recvs (count : ℕ) : List (Action π) := List.replicate count (.recv fun _ => true)

def published (packets : List π) : List (Action π) :=
  packets.map (fun packet => .publish .reliable ⟨packet, 0, 0⟩) ++ recvs (2 * packets.length)

/-- A `UserPacket` without fields. It is encoded to five bytes. -/
def user : List UInt8 := [0x12, 0]

/-- The first of two packets is reported as sent; the second one is sent again. -/
theorem retry_complete_second :
    let actions := published [user, user] ++ [.report .reliable 5] ++ recvs 1 ++ [.restart 1]
    let after := state (Observed.step wire) (.new 10 10 0) actions
    Along (Observed.step wire) Observed.Covers (.new 10 10 0) actions ∧
      ⟨wire user 2, 2⟩ ∈ (after.task.step wire (.recv fun _ => true)).1.places.waiting := by
  intro actions _
  have hcovers : Along (Observed.step wire) Observed.Covers (.new 10 10 0) actions := by
    decide +kernel
  refine ⟨hcovers, ?_⟩
  refine (retry_complete wire 10 10 0 actions hcovers ⟨wire user 2, 2⟩ ?_ ?_ ?_ ?_).2
    (fun _ => true) 1 ?_ ?_
  · decide +kernel
  · decide +kernel
  · decide +kernel
  · decide +kernel
  · rfl
  · decide

/-- The second packet is longer than the first one: when the first one is reported as
sent, the second one is dropped, although no byte of it was, and `RetryFrom` sends nothing. -/
theorem retry_lost :
    let longer := [0x12, 4, 0x12, 2, 7, 7]
    let actions := published [user, longer] ++ [.report .reliable 5] ++ recvs 1
    let after := state (Observed.step wire) (.new 10 10 0) actions
    let resumed := state (Observed.step wire) after (.restart 1 :: recvs 1)
    numberedPackets after.log = [⟨wire user 1, 1⟩, ⟨wire longer 2, 2⟩] ∧
      reportedPackets after.log = [⟨wire user 1, 1⟩] ∧
      after.task.retryQueue.inner = [] ∧ after.task.places.waiting = [] ∧
      resumed.task.places.waiting = [] := by
  decide +kernel

/-! ### The order of packets -/

namespace DataChannelTask

/-- A `RetryFrom` is taken when no packet waits to be handed over, or when none is to be
sent again before those that wait; and the sequence numbers do not run over. -/
def Orderly (self : DataChannelTask π) (action : Action π) : Prop :=
  match self.taken action with
  | some (.retryFrom lastSequence) =>
    self.places.waiting = [] ∨ (∀ packet ∈ self.places.retry, packet.sequence ≤ lastSequence) ∧
        ∀ packet ∈ self.places.waiting, lastSequence < packet.sequence
  | some (.publishPacket .reliable _) => self.places.next + 1 < 2 ^ 32
  | _ => True

instance (self : DataChannelTask π) (action : Action π) : Decidable (self.Orderly action) := by
  unfold Orderly
  split <;> infer_instance

/-- No further `RetryFrom` is taken, and the sequence numbers do not run over. -/
def Continues (self : DataChannelTask π) (action : Action π) : Prop :=
  match self.taken action with
  | some (.retryFrom _) => False
  | some (.publishPacket .reliable _) => self.places.next + 1 < 2 ^ 32
  | _ => True

instance (self : DataChannelTask π) (action : Action π) : Decidable (self.Continues action) := by
  unfold Continues
  split <;> infer_instance

end DataChannelTask

def following (lastSequence : ℕ) (packets : List EncodedPacket) : List EncodedPacket :=
  packets.filter fun packet => lastSequence < packet.sequence

section Following

variable (lastSeq : ℕ) (pkts packets' : List EncodedPacket)

lemma following_append : following lastSeq (pkts ++ packets') =
    following lastSeq pkts ++ following lastSeq packets' :=
  filter_append ..

lemma following_sublist : (following lastSeq pkts).Sublist pkts := filter_sublist

lemma following_eq_nil_iff :
    following lastSeq pkts = [] ↔ ∀ pkt ∈ pkts, pkt.sequence ≤ lastSeq := by
  simp [following]

lemma following_eq_self_iff :
    following lastSeq pkts = pkts ↔ ∀ pkt ∈ pkts, lastSeq < pkt.sequence := by
  simp [following]

end Following

/-- The packets are in the order of their numbers, which were all given. -/
structure InSequence (next : ℕ) (packets : List EncodedPacket) : Prop where
  increasing : (packets.map (·.sequence)).Pairwise (· < ·)
  given : ∀ packet ∈ packets, packet.sequence < next

namespace InSequence

variable {next : ℕ} {pkts packets' : List EncodedPacket}

section

variable (h : InSequence next pkts)
include h

lemma sublist (hsublist : packets'.Sublist pkts) : InSequence next packets' :=
  ⟨h.increasing.sublist (hsublist.map _), fun pkt hm => h.given pkt (hsublist.mem hm)⟩

lemma mono {next'} (hle : next ≤ next') : InSequence next' pkts :=
  ⟨h.increasing, fun pkt hm => (h.given pkt hm).trans_le hle⟩

lemma concat (data) : InSequence (next + 1) (pkts ++ [⟨data, next⟩]) := by
  constructor
  · rw [map_append, pairwise_append]
    refine ⟨h.increasing, pairwise_singleton _ _, ?_⟩
    intro _ hm _ hlast
    obtain ⟨pkt, hpacket, rfl⟩ := mem_map.mp hm
    obtain rfl := mem_singleton.mp hlast
    exact h.given pkt hpacket
  · refine forall_mem_append.mpr ⟨fun pkt hm => ?_, forall_mem_singleton.mpr ?_⟩
    · exact (h.given pkt hm).trans (Nat.lt_succ_self next)
    · exact Nat.lt_succ_self next

end

lemma following_eq_iff (h : InSequence next (pkts ++ packets')) (lastSeq : ℕ) :
    packets' ++ following lastSeq pkts = following lastSeq (pkts ++ packets') ↔
      packets' = [] ∨ (∀ pkt ∈ pkts, pkt.sequence ≤ lastSeq) ∧
        ∀ pkt ∈ packets', lastSeq < pkt.sequence := by
  rw [following_append, ← following_eq_nil_iff, ← following_eq_self_iff]
  constructor
  · intro heq
    cases hla : packets' with
    | nil => exact .inl rfl
    | cons first' =>
      cases hearlier : following lastSeq pkts with
      | nil =>
        rw [hearlier, append_nil, nil_append, hla] at heq
        exact .inr ⟨rfl, heq.symm⟩
      | cons first =>
        -- the two begin with packets of different lists
        rw [hearlier, hla] at heq
        obtain rfl : first' = first := (cons.inj heq).1
        have hf : first' ∈ pkts := by
          refine (following_sublist lastSeq pkts).mem ?_
          rw [hearlier]
          exact mem_cons_self
        have hlt : first'.sequence < first'.sequence := by
          have hincreasing := h.increasing
          rw [map_append, pairwise_append] at hincreasing
          refine hincreasing.2.2 _ (mem_map_of_mem hf) _ (mem_map_of_mem ?_)
          rw [hla]
          exact mem_cons_self
        exact absurd hlt (Nat.lt_irrefl _)
  · rintro (rfl | ⟨hn, hall⟩)
    · rw [nil_append]
      exact (append_nil _).symm
    · rw [hn, hall, append_nil, nil_append]

end InSequence

variable (self : DataChannelTask π)

lemma DataChannelTask.inSequence_step (a)
    (h : InSequence self.places.next (self.places.retry ++ self.places.waiting))
    (hord : self.Orderly a) : InSequence (self.step encode a).1.places.next
      ((self.step encode a).1.places.retry ++ (self.step encode a).1.places.waiting) := by
  have hmv := self.step_move encode a
  unfold Orderly at hord
  generalize self.places = pre at h hord hmv
  generalize self.taken a = ev at hord hmv
  generalize (self.step encode a).1.places = after at hmv ⊢
  generalize (self.step encode a).2 = log at hmv
  cases hmv with
  | idle => exact h
  | numbered =>
    -- the packet goes behind everything else, with a number above all others
    have hn : (pre.next + 1) % 2 ^ 32 = pre.next + 1 := Nat.mod_eq_of_lt hord
    rw [Reliable.waiting, ← append_assoc, ← append_assoc, hn]
    rw [Reliable.waiting, ← append_assoc] at h
    exact h.concat _
  | rejected =>
    have hn : (pre.next + 1) % 2 ^ 32 = pre.next + 1 := Nat.mod_eq_of_lt hord
    rw [hn]
    exact h.mono (Nat.le_succ _)
  | sent _ hdata hq =>
    rw [Reliable.waiting, append_assoc, ← waiting_of_sent hdata hq]
    exact h
  | reported _ hq hsuffix =>
    refine h.sublist ?_
    rw [waiting_of_reported hq, ← append_assoc]
    exact hsuffix.sublist.append_right _
  | retried lastSeq =>
    refine h.sublist ?_
    rw [nil_append, Reliable.waiting, ← append_assoc]
    have heq := (h.following_eq_iff lastSeq).mpr hord
    exact heq ▸ following_sublist lastSeq _

/-- Since a `RetryFrom`, what was handed over or waits is what the retry queue had after
its sequence number, and what was published since and not too large. -/
structure Resumed (buffered published : List EncodedPacket) (log : List Observation)
    (places : Reliable) : Prop where
  handed : handedPackets log ++ places.waiting = buffered ++ published
  inSequence : InSequence places.next (buffered ++ published)
  sublist : published.Sublist (numberedPackets log)
  numbered : ∀ packet ∈ numberedPackets log, packet ∈ published ∨ packet ∈ rejectedPackets log

namespace Resumed

variable {buffered published : List EncodedPacket} {log : List Observation} {pre after : Reliable}

section

variable (h : Resumed buffered published log pre)
include h

lemma moved {now : List EncodedPacket}
    {log' : List Observation} (hnumbered : numberedPackets log' ⊆ rejectedPackets log')
    (hhanded : handedPackets log' = now) (hwaiting : pre.waiting = now ++ after.waiting)
    (hnext : pre.next ≤ after.next) : Resumed buffered published (log ++ log') after where
  handed := by
    rw [handedPackets_append, hhanded, append_assoc, ← hwaiting, h.handed]
  inSequence := h.inSequence.mono hnext
  sublist := by
    rw [numberedPackets_append]
    exact h.sublist.trans (sublist_append_left _ _)
  numbered := by
    intro pkt hm
    rw [numberedPackets_append, mem_append] at hm
    rw [rejectedPackets_append, mem_append]
    rcases hm with hbef | hnew
    · exact (h.numbered pkt hbef).imp_right .inl
    · exact .inr (.inr (hnumbered hnew))

lemma publish (data) (hwaiting : after.waiting = pre.waiting ++ [⟨data, pre.next⟩])
    (hnext : after.next = pre.next + 1) : Resumed buffered (published ++ [⟨data, pre.next⟩])
      (log ++ [.numbered ⟨data, pre.next⟩]) after where
  handed := by
    have hn : handedPackets [.numbered ⟨data, pre.next⟩] = [] := rfl
    rw [handedPackets_append, hn, append_nil, hwaiting, ← append_assoc, h.handed, append_assoc]
  inSequence := by
    rw [hnext, ← append_assoc]
    exact h.inSequence.concat data
  sublist := by
    rw [numberedPackets_append]
    exact h.sublist.append (List.Sublist.refl _)
  numbered := by
    intro pkt hm
    rw [numberedPackets_append, mem_append] at hm
    rw [rejectedPackets_append, mem_append, mem_append]
    rcases hm with hbef | hnew
    · exact (h.numbered pkt hbef).imp .inl .inl
    · exact .inl (.inr hnew)

end

end Resumed

variable {outcomes : ℕ → Bool} {lastSeq : ℕ}

lemma DataChannelTask.resumed_step {buffered published} (a)
    (h : Resumed buffered published log self.places) (hcontinues : self.Continues a) :
    ∃ published', Resumed buffered published' (log ++ (self.step encode a).2)
      (self.step encode a).1.places := by
  have hmv := self.step_move encode a
  unfold Continues at hcontinues
  generalize self.places = pre at h hcontinues hmv
  generalize self.taken a = ev at hcontinues hmv
  generalize (self.step encode a).1.places = after at hmv ⊢
  generalize (self.step encode a).2 = log' at hmv ⊢
  have hsilent : numberedPackets log' = [] → numberedPackets log' ⊆ rejectedPackets log' :=
    fun hn => hn ▸ nil_subset _
  cases hmv with
  | idle _ hlog => exact ⟨published, h.moved (hsilent hlog.numbered) hlog.handed rfl le_rfl⟩
  | numbered =>
    exact ⟨_, h.publish _ (append_assoc ..).symm (Nat.mod_eq_of_lt hcontinues)⟩
  | rejected =>
    have hn : pre.next ≤ (pre.next + 1) % 2 ^ 32 := by
      rw [Nat.mod_eq_of_lt hcontinues]
      exact Nat.le_succ _
    exact ⟨published, h.moved (fun _ => id) rfl rfl hn⟩
  | sent _ hdata hq hlog =>
    exact ⟨published, h.moved (hsilent hlog.numbered) hlog.handed (waiting_of_sent hdata hq) le_rfl⟩
  | reported _ hq _ _ hlog =>
    exact ⟨published, h.moved (hsilent hlog.numbered) hlog.handed (waiting_of_reported hq) le_rfl⟩
  | retried => exact hcontinues.elim

lemma DataChannelTask.waiting_retryFrom
    (htk : self.taken (.recv outcomes) = some (.retryFrom lastSeq)) :
    (self.step encode (.recv outcomes)).1.places.waiting =
      self.places.waiting ++ following lastSeq self.places.retry := by
  rw [self.places_retryFrom encode outcomes htk, Reliable.waiting, ← append_assoc]
  rfl

lemma DataChannelTask.resumed_retryFrom
    (h : InSequence self.places.next (self.places.retry ++ self.places.waiting))
    (hord : self.Orderly (.recv outcomes))
    (htk : self.taken (.recv outcomes) = some (.retryFrom lastSeq)) :
    Resumed (following lastSeq (self.places.retry ++ self.places.waiting)) [] []
      (self.step encode (.recv outcomes)).1.places := by
  rw [Orderly, htk] at hord
  refine ⟨?_, ?_, List.Sublist.refl _, nofun⟩
  · rw [self.waiting_retryFrom encode htk, append_nil]
    exact (h.following_eq_iff lastSeq).mpr hord
  · rw [self.places_retryFrom encode outcomes htk, append_nil]
    exact h.sublist (following_sublist lastSeq _)

/-- **Sent again in order.** In every run that is orderly up to a `RetryFrom`, the packets
go out in order until the next one if and only if the task takes this one when no packet
waits, or none is to be sent again before those that wait. In order: what was handed over
since, and then what still waits, are the buffered packets after the sequence number, and
then those published since, except those that are too large; and their sequence numbers
increase. -/
theorem resume_in_order (lossyThreshold reliableThreshold maxMessageSize : ℕ)
    (actions : List (Action π)) (outcomes : ℕ → Bool) (lastSequence : ℕ)
    (h_orderly : Along (step encode) Orderly
      (.new lossyThreshold reliableThreshold maxMessageSize) actions)
    (h_taken : (state (step encode) (.new lossyThreshold reliableThreshold maxMessageSize)
      actions).taken (.recv outcomes) = some (.retryFrom lastSequence)) :
    let lost := state (step encode) (.new lossyThreshold reliableThreshold maxMessageSize) actions
    let resumed := (lost.step encode (.recv outcomes)).1
    let buffered := following lastSequence (lost.places.retry ++ lost.places.waiting)
    (lost.places.waiting = [] ∨ (∀ packet ∈ lost.places.retry, packet.sequence ≤ lastSequence) ∧
          ∀ packet ∈ lost.places.waiting, lastSequence < packet.sequence) ↔
      ∀ after : List (Action π), Along (step encode) Continues resumed after →
        let log := outputs (step encode) resumed after
        ∃ published : List EncodedPacket,
          handedPackets log ++ (state (step encode) resumed after).places.waiting =
            buffered ++ published ∧
          ((buffered ++ published).map (·.sequence)).Pairwise (· < ·) ∧
          published.Sublist (numberedPackets log) ∧
          ∀ packet ∈ numberedPackets log, packet ∈ published ∨ packet ∈ rejectedPackets log := by
  intro lost resumed buffered
  have hseq : InSequence lost.places.next (lost.places.retry ++ lost.places.waiting) := by
    refine h_orderly.state_of_step
      (P := fun self => InSequence self.places.next (self.places.retry ++ self.places.waiting))
      ⟨.nil, nofun⟩ ?_
    intro self a h hstep
    exact self.inSequence_step encode a h hstep
  constructor
  · intro hwaiting after hcontinues log
    have hstep : lost.Orderly (.recv outcomes) := by
      rw [Orderly, h_taken]
      exact hwaiting
    have hstart := lost.resumed_retryFrom encode hseq hstep h_taken
    obtain ⟨published, h⟩ : ∃ published, Resumed buffered published ([] ++ log)
        (state (step encode) resumed after).places := by
      refine hcontinues.run_of_step
        (P := fun log self => ∃ published, Resumed buffered published log self.places)
        ⟨[], hstart⟩ ?_
      rintro _ self a ⟨_, h⟩ hstep
      exact self.resumed_step encode a h hstep
    exact ⟨published, h.handed, h.inSequence.increasing, h.sublist, h.numbered⟩
  · -- already what waits right after the step is not in order
    intro hordered
    obtain ⟨published, hhanded, -, hsublist, -⟩ := hordered [] trivial
    obtain rfl : published = [] := sublist_nil.mp hsublist
    refine (hseq.following_eq_iff lastSequence).mp ?_
    rw [← lost.waiting_retryFrom encode h_taken]
    exact hhanded.trans (append_nil _)

/-- Two of three packets are sent again, and a new one after them. -/
theorem resume_in_order_threePackets :
    let actions := published [user, user, user] ++ [.restart 1]
    let lost := state (step wire) (.new 10 30 0) actions
    let resumed := (lost.step wire (.recv fun _ => true)).1
    let after := .publish .reliable ⟨user, 0, 0⟩ :: recvs 4
    let log := outputs (step wire) resumed after
    (handedPackets log).map (·.sequence) = [2, 3, 4] ∧ ∃ published : List EncodedPacket,
        handedPackets log ++ (state (step wire) resumed after).places.waiting =
          following 1 (lost.places.retry ++ lost.places.waiting) ++ published := by
  intro actions _ _ after _
  refine ⟨by decide +kernel, ?_⟩
  have hordered := (resume_in_order wire 10 30 0 actions (fun _ => true) 1
    (by decide +kernel) rfl).mp (.inl (by decide +kernel))
  obtain ⟨published, hhanded, -⟩ := hordered after (by decide +kernel)
  exact ⟨published, hhanded⟩

/-- The second packet is in the channel when the `RetryFrom` is taken: it is handed over
before the first one. -/
theorem resume_out_of_order :
    let actions := published [user] ++ [.publish .reliable ⟨user, 0, 0⟩, .restart 0] ++ recvs 1
    let lost := state (step wire) (.new 10 10 0) actions
    lost.dcEvents.head? matches some (.retryFrom 0) ∧
      (handedPackets (outputs (step wire) lost (recvs 3))).map (·.sequence) = [2, 1] := by
  decide +kernel

end LiveKit.RtcEngine
