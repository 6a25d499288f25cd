import LiveKitRust.Base.Machine
import LiveKitRust.RtcEngine.TxQueue

/-!
# The data channel task (`rtc_session.rs`)

One task of a session sends all data packets. It takes events from a channel: packets to publish,
which reliable ones get a sequence number for; encoded packets, which it queues and sends as long as
not too much is buffered; reports on bytes that were sent; and, after a reconnection, the request to
send again what the server has not got. Encoded packets are put back into the same channel, behind
whatever waits there.

`Reliable` and `Move` are what a step (`DataChannelTask.step`) can do to the places of reliable
packets, and what can be observed of it (`step_move`).

The encoding of packets is a parameter, and what the data channel answers to each `send` is part of
the action. Log messages are left out.
-/

open List

namespace LiveKit.RtcEngine

inductive DataPacketKind where
  | lossy
  | reliable
  deriving DecidableEq

structure EncodedPacket where
  data : List UInt8
  sequence : ℕ
  deriving DecidableEq

instance : TxQueueItem EncodedPacket where
  bufferedSize packet := packet.data.length

/-- An unencoded packet; callers are told apart by their number. -/
structure PublishPacketRequest (π : Type) where
  packet : π
  sequence : ℕ
  completionTx : ℕ

structure PublishDataRequest where
  encodedPacket : EncodedPacket
  /-- Retries have none. -/
  completionTx : Option ℕ
  deriving DecidableEq

/-- `DataChannelEvent`; `RetryFrom` is always about reliable packets. -/
inductive Event (π : Type) where
  | publishPacket (kind : DataPacketKind) (request : PublishPacketRequest π)
  | publishData (kind : DataPacketKind) (request : PublishDataRequest)
  | bufferedAmountChange (kind : DataPacketKind) (sent : ℕ)
  /-- Enqueue reliable packets for retry starting from the given sequence number. -/
  | retryFrom (lastSequence : ℕ)

inductive Observation where
  | numbered (packet : EncodedPacket)
  | rejected (packet : EncodedPacket)
  /-- A packet is handed to a data channel, which takes it or fails. -/
  | sent (kind : DataPacketKind) (packet : EncodedPacket) (accepted : Bool)
  | completed (completionTx : ℕ) (result : Bool)
  /-- The reliable data channel has reported bytes as sent. -/
  | reported (sent : ℕ)
  /-- The server has got the reliable packets up to this one. -/
  | retried (lastSequence : ℕ)
  deriving DecidableEq

/-- What the task keeps for a data channel. -/
structure Lane where
  bufferedAmount : ℕ
  queue : List PublishDataRequest
  /-- The threshold set by the application. -/
  bufferedAmountLowThreshold : ℕ

structure DataChannelTask (π : Type) where
  lossy : Lane
  reliable : Lane
  retryQueue : TxQueue EncodedPacket
  nextPacketSequence : ℕ
  /-- The negotiated size; 0 is no limit. -/
  maxMessageSize : ℕ
  dcEvents : List (Event π)
  running : Bool

/-- `_send_until_threshold`, over the queue: the amount, the queue and the retry queue
after it. `outcomes` are the answers to the calls of `send`. -/
def sendUntilThreshold (kind : DataPacketKind) (threshold : ℕ) (outcomes : ℕ → Bool)
    (bufferedAmount : ℕ) (retryQueue : TxQueue EncodedPacket) :
    List PublishDataRequest →
      (ℕ × List PublishDataRequest × TxQueue EncodedPacket) × List Observation
  | [] => ((bufferedAmount, [], retryQueue), [])
  | request :: requestQueue =>
    if bufferedAmount ≤ threshold then
      let (after, observations) := sendUntilThreshold kind threshold (fun n => outcomes (n + 1))
        (bufferedAmount + request.encodedPacket.data.length)
        (if kind = .reliable then retryQueue.enqueue request.encodedPacket else retryQueue)
        requestQueue
      (after, .sent kind request.encodedPacket (outcomes 0) ::
        (request.completionTx.toList.map fun completionTx =>
          .completed completionTx (outcomes 0)) ++
          observations)
    else ((bufferedAmount, request :: requestQueue, retryQueue), [])

namespace DataChannelTask

variable {π : Type} (encode : π → ℕ → List UInt8)

def new (lossyThreshold reliableThreshold maxMessageSize : ℕ) : DataChannelTask π where
  lossy := ⟨0, [], lossyThreshold⟩
  reliable := ⟨0, [], reliableThreshold⟩
  retryQueue := .new
  nextPacketSequence := 1
  maxMessageSize := maxMessageSize
  dcEvents := []
  running := true

variable (self : DataChannelTask π)

def lane : DataPacketKind → Lane
  | .lossy => self.lossy
  | .reliable => self.reliable

def setLane (kind : DataPacketKind) (lane : Lane) : DataChannelTask π :=
  match kind with
  | .lossy => { self with lossy := lane }
  | .reliable => { self with reliable := lane }

def emit (event : Event π) : DataChannelTask π :=
  { self with dcEvents := self.dcEvents ++ [event] }

def send (kind : DataPacketKind) (outcomes : ℕ → Bool) : DataChannelTask π × List Observation :=
  let lane := self.lane kind
  let ((bufferedAmount, queue, retryQueue), observations) :=
    sendUntilThreshold kind lane.bufferedAmountLowThreshold outcomes lane.bufferedAmount
      self.retryQueue lane.queue
  ({ self.setLane kind ⟨bufferedAmount, queue, lane.bufferedAmountLowThreshold⟩ with
      retryQueue := retryQueue }, observations)

/-- An encoded packet is put into the channel, unless it is too large. -/
def enqueueEncoded (kind : DataPacketKind) (encodedPacket : EncodedPacket)
    (completionTx : ℕ) : DataChannelTask π × List Observation :=
  if self.maxMessageSize ≠ 0 ∧ encodedPacket.data.length > self.maxMessageSize then
    (self, (if kind = .reliable then [.rejected encodedPacket] else []) ++
      [.completed completionTx false])
  else (self.emit (.publishData kind ⟨encodedPacket, some completionTx⟩), [])

/-- Reliable packets get their number by `fetch_add(1)` on a `u32`. -/
def onPublishPacket (kind : DataPacketKind)
    (request : PublishPacketRequest π) : DataChannelTask π × List Observation :=
  match kind with
  | .lossy =>
    self.enqueueEncoded .lossy ⟨encode request.packet request.sequence, request.sequence⟩
      request.completionTx
  | .reliable =>
    let sequence := self.nextPacketSequence
    let encodedPacket : EncodedPacket := ⟨encode request.packet sequence, sequence⟩
    let (after, observations) :=
      { self with nextPacketSequence := (sequence + 1) % 2 ^ 32 }.enqueueEncoded
      .reliable encodedPacket request.completionTx
    (after, .numbered encodedPacket :: observations)

def pushBack (kind : DataPacketKind) (request : PublishDataRequest) : DataChannelTask π :=
  self.setLane kind { self.lane kind with queue := (self.lane kind).queue ++ [request] }

def unbuffer (kind : DataPacketKind) (sent : ℕ) : DataChannelTask π :=
  self.setLane kind { self.lane kind with
    bufferedAmount := if (self.lane kind).bufferedAmount < sent then 0
      else (self.lane kind).bufferedAmount - sent }

def onPublishData (kind : DataPacketKind) (request : PublishDataRequest)
    (outcomes : ℕ → Bool) : DataChannelTask π × List Observation :=
  (self.pushBack kind request).send kind outcomes

def onBufferedAmountChange (kind : DataPacketKind) (sent : ℕ)
    (outcomes : ℕ → Bool) : DataChannelTask π × List Observation :=
  let (after, observations) := (self.unbuffer kind sent).send kind outcomes
  match kind with
  | .lossy => (after, observations)
  | .reliable =>
    ({ after with retryQueue := after.retryQueue.trim sent }, .reported sent :: observations)

/-- `_enqueue_for_retry_from`: the loop dequeues all packets. -/
def enqueueForRetryFrom (lastSequence : ℕ) : DataChannelTask π × List Observation :=
  let retries := self.retryQueue.inner.filter fun packet => lastSequence < packet.sequence
  ({ self with
      retryQueue := .new
      dcEvents := self.dcEvents ++ retries.map fun packet =>
        .publishData .reliable ⟨packet, none⟩ },
    [.retried lastSequence])

def handle (outcomes : ℕ → Bool) : Event π → DataChannelTask π × List Observation
  | .publishPacket kind request => self.onPublishPacket encode kind request
  | .publishData kind request => self.onPublishData kind request outcomes
  | .bufferedAmountChange kind sent => self.onBufferedAmountChange kind sent outcomes
  | .retryFrom lastSequence => self.enqueueForRetryFrom lastSequence

inductive Action (π : Type) where
  | publish (kind : DataPacketKind) (request : PublishPacketRequest π)
  | report (kind : DataPacketKind) (sent : ℕ)
  /-- The session has been resumed. -/
  | restart (lastMessageSeq : ℕ)
  | setThreshold (kind : DataPacketKind) (threshold : ℕ)
  | negotiate (maxMessageSize : ℕ)
  | recv (outcomes : ℕ → Bool)
  | close

def taken : Action π → Option (Event π)
  | .recv _ => if self.running then self.dcEvents.head? else none
  | _ => none

/-- The task takes one event; others put events in its queue or set limits. -/
def step (action : Action π) : DataChannelTask π × List Observation :=
  match action with
  | .publish kind request => (self.emit (.publishPacket kind request), [])
  | .report kind sent => (self.emit (.bufferedAmountChange kind sent), [])
  | .restart lastMessageSeq => (self.emit (.retryFrom lastMessageSeq), [])
  | .setThreshold kind threshold =>
    (self.setLane kind { self.lane kind with bufferedAmountLowThreshold := threshold }, [])
  | .negotiate maxMessageSize => ({ self with maxMessageSize := maxMessageSize }, [])
  | .recv outcomes =>
    match self.taken action with
    | some event => { self with dcEvents := self.dcEvents.tail }.handle encode outcomes event
    | none => (self, [])
  | .close => ({ self with running := false }, [])

end DataChannelTask

/-- The encoding of a `DataPacket`, of which all but the number is given as it is encoded: the
number is field 16, in one byte as long as it is below 128. -/
def wire (fields : List UInt8) (sequence : ℕ) : List UInt8 :=
  fields ++ [0x80, 1, UInt8.ofNat sequence]

/-! ### What is observed -/

namespace Observation

def numberedPacket : Observation → Option EncodedPacket
  | numbered packet => some packet
  | _ => none

def rejectedPacket : Observation → Option EncodedPacket
  | rejected packet => some packet
  | _ => none

def handedPacket : Observation → Option EncodedPacket
  | sent .reliable packet _ => some packet
  | _ => none

def acceptedPacket : Observation → Option EncodedPacket
  | sent .reliable packet true => some packet
  | _ => none

def reportedSize : Observation → Option ℕ
  | reported bytes => some bytes
  | _ => none

def retriedSequence : Observation → Option ℕ
  | retried lastSequence => some lastSequence
  | _ => none

def numberedPackets (log : List Observation) : List EncodedPacket := log.filterMap numberedPacket

def rejectedPackets (log : List Observation) : List EncodedPacket := log.filterMap rejectedPacket

def handedPackets (log : List Observation) : List EncodedPacket := log.filterMap handedPacket

def acceptedPackets (log : List Observation) : List EncodedPacket := log.filterMap acceptedPacket

/-- The bytes that the reliable data channel has reported as sent. -/
def reportedBytes (log : List Observation) : ℕ := (log.filterMap reportedSize).sum

def retriedSequences (log : List Observation) : List ℕ := log.filterMap retriedSequence

section Append

variable (log log' : List Observation)

@[simp] lemma numberedPackets_append :
    numberedPackets (log ++ log') = numberedPackets log ++ numberedPackets log' :=
  filterMap_append

@[simp] lemma rejectedPackets_append :
    rejectedPackets (log ++ log') = rejectedPackets log ++ rejectedPackets log' :=
  filterMap_append

@[simp] lemma handedPackets_append :
    handedPackets (log ++ log') = handedPackets log ++ handedPackets log' :=
  filterMap_append

@[simp] lemma acceptedPackets_append :
    acceptedPackets (log ++ log') = acceptedPackets log ++ acceptedPackets log' :=
  filterMap_append

@[simp] lemma reportedBytes_append :
    reportedBytes (log ++ log') = reportedBytes log + reportedBytes log' := by
  rw [reportedBytes, filterMap_append, sum_append]
  rfl

@[simp] lemma retriedSequences_append :
    retriedSequences (log ++ log') = retriedSequences log ++ retriedSequences log' :=
  filterMap_append

end Append

structure Sends (packets : List EncodedPacket) (log : List Observation) : Prop where
  numbered : numberedPackets log = []
  rejected : rejectedPackets log = []
  handed : handedPackets log = packets
  reported : log.filterMap reportedSize = []
  retried : retriedSequences log = []

lemma Sends.nil : Sends [] [] := ⟨rfl, rfl, rfl, rfl, rfl⟩

lemma filterMap_sent {β : Type} {f : Observation → Option β}
    (hcompleted : ∀ tx res, f (completed tx res) = none) (kind pkt) (accepted : Bool)
    (tx : Option ℕ) (log) : (sent kind pkt accepted ::
      (tx.toList.map fun tx => completed tx accepted) ++ log).filterMap f =
        (f (sent kind pkt accepted)).toList ++ log.filterMap f := by
  have htold : (tx.toList.map fun tx =>
      completed tx accepted).filterMap f = [] := by
    rw [filterMap_eq_nil_iff]
    intro _ hm
    obtain ⟨tx, -, rfl⟩ := mem_map.mp hm
    exact hcompleted tx accepted
  rw [cons_append, ← singleton_append, filterMap_append, filterMap_append, htold, nil_append]
  cases hf : f (sent kind pkt accepted) <;> simp [hf]

lemma Sends.cons {pkts : List EncodedPacket} {log : List Observation} (h : Sends pkts log)
    (kind pkt) (accepted : Bool) (tx : Option ℕ) :
    Sends (if kind = .reliable then pkt :: pkts else pkts) (sent kind pkt accepted ::
        (tx.toList.map fun tx => completed tx accepted) ++ log) where
  numbered := (filterMap_sent (fun _ _ => rfl) ..).trans h.numbered
  rejected := (filterMap_sent (fun _ _ => rfl) ..).trans h.rejected
  handed := by
    refine (filterMap_sent (fun _ _ => rfl) ..).trans ?_
    rw [← h.handed]
    cases kind <;> rfl
  reported := (filterMap_sent (fun _ _ => rfl) ..).trans h.reported
  retried := (filterMap_sent (fun _ _ => rfl) ..).trans h.retried

end Observation

/-! ### The places of reliable packets -/

open Observation

def Event.reliableData {π : Type} : Event π → Option EncodedPacket
  | .publishData .reliable request => some request.encodedPacket
  | _ => none

/-- The places of reliable packets, and the next sequence number. -/
structure Reliable where
  retry : List EncodedPacket
  queue : List EncodedPacket
  data : List EncodedPacket
  next : ℕ

def goingOut (threshold : ℕ) : ℕ → List EncodedPacket → List EncodedPacket
  | _, [] => []
  | bufferedAmount, packet :: queue =>
    if bufferedAmount ≤ threshold then
      packet :: goingOut threshold (bufferedAmount + packet.data.length) queue
    else []

def Reliable.waiting (self : Reliable) : List EncodedPacket := self.queue ++ self.data

namespace DataChannelTask

variable {π : Type} (encode : π → ℕ → List UInt8)

def places (self : DataChannelTask π) : Reliable where
  retry := self.retryQueue.inner
  queue := self.reliable.queue.map (·.encodedPacket)
  data := self.dcEvents.filterMap Event.reliableData
  next := self.nextPacketSequence

def released (self : DataChannelTask π) (size : ℕ) : List EncodedPacket :=
  goingOut self.reliable.bufferedAmountLowThreshold
    (self.unbuffer .reliable size).reliable.bufferedAmount self.places.queue

/-- What a step that takes the event can do to the places of reliable packets; `released`
are the packets that a report lets out. -/
inductive Move (released : ℕ → List EncodedPacket) (before : Reliable) :
    Option (Event π) → Reliable → List Observation → Prop
  /-- Nothing of it is about reliable packets. -/
  | idle (event : Option (Event π)) {log} (h_log : Sends [] log) :
      Move released before event before log
  | numbered (request : PublishPacketRequest π) :
      Move released before (some (.publishPacket .reliable request)) { before with
          data := before.data ++ [⟨encode request.packet before.next, before.next⟩]
          next := (before.next + 1) % 2 ^ 32 }
        [.numbered ⟨encode request.packet before.next, before.next⟩]
  | rejected (request : PublishPacketRequest π) :
      Move released before (some (.publishPacket .reliable request))
        { before with next := (before.next + 1) % 2 ^ 32 }
        [.numbered ⟨encode request.packet before.next, before.next⟩,
          .rejected ⟨encode request.packet before.next, before.next⟩,
          .completed request.completionTx false]
  | sent (request : PublishDataRequest) {data now later log}
      (h_data : before.data = request.encodedPacket :: data)
      (h_queue : before.queue ++ [request.encodedPacket] = now ++ later) (h_log : Sends now log) :
      Move released before (some (.publishData .reliable request))
        { before with retry := before.retry ++ now, queue := later, data := data } log
  | reported (size : ℕ) {later retry log} (h_queue : before.queue = released size ++ later)
      (h_suffix : retry <:+ before.retry ++ released size)
      (h_longest : ∀ rest, rest <:+ before.retry ++ released size → totalSize rest ≤ size →
        rest <:+ retry) (h_log : Sends (released size) log) :
      Move released before (some (.bufferedAmountChange .reliable size))
        { before with retry := retry, queue := later } (.reported size :: log)
  | retried (lastSequence : ℕ) :
      Move released before (some (.retryFrom lastSequence)) { before with
          retry := []
          data := before.data ++ before.retry.filter fun packet => lastSequence < packet.sequence }
        [.retried lastSequence]

lemma sendUntilThreshold_spec (kind) (threshold : ℕ) (outcomes : ℕ → Bool) (bufferedAmount : ℕ)
    (retryQueue requests) :
    let sent := sendUntilThreshold kind threshold outcomes bufferedAmount retryQueue requests
    ∃ now later, requests = now ++ later ∧ now.map (·.encodedPacket) =
        goingOut threshold bufferedAmount (requests.map (·.encodedPacket)) ∧
      sent.1.2.1 = later ∧ sent.1.2.2.inner =
        retryQueue.inner ++ (if kind = .reliable then now.map (·.encodedPacket) else []) ∧
      Sends (if kind = .reliable then now.map (·.encodedPacket) else []) sent.2 := by
  induction requests generalizing outcomes bufferedAmount retryQueue with
  | nil =>
    refine ⟨[], [], rfl, rfl, rfl, ?_, ?_⟩
    · simp [sendUntilThreshold]
    · simp only [map_nil, ite_self]
      exact Sends.nil
  | cons req requests ih =>
    rw [sendUntilThreshold, map_cons, goingOut]
    split
    next =>
      -- the packet goes out, and the loop goes on with more in the buffer
      obtain ⟨now, later, rfl, hnow, hla, hre, hlog⟩ := ih (fun n => outcomes (n + 1))
        (bufferedAmount + req.encodedPacket.data.length)
        (if kind = .reliable then retryQueue.enqueue req.encodedPacket else retryQueue)
      refine ⟨req :: now, later, rfl, congrArg _ hnow, hla, ?_, ?_⟩
      · refine hre.trans ?_
        cases kind with
        | lossy => rfl
        | reliable => simp [TxQueue.enqueue]
      · have hsends := hlog.cons kind req.encodedPacket (outcomes 0) req.completionTx
        cases kind with
        | lossy | reliable => exact hsends
    next =>
      refine ⟨[], req :: requests, rfl, rfl, rfl, ?_, ?_⟩
      · simp
      · simp only [map_nil, ite_self]
        exact Sends.nil

section Moves

variable (s : DataChannelTask π) (outcomes : ℕ → Bool)

lemma send_lossy : (s.send .lossy outcomes).1.places = s.places ∧
    Sends [] (s.send .lossy outcomes).2 := by
  obtain ⟨_, _, _, _, _, hre, hlog⟩ := sendUntilThreshold_spec .lossy
    s.lossy.bufferedAmountLowThreshold outcomes s.lossy.bufferedAmount s.retryQueue
    s.lossy.queue
  refine ⟨?_, hlog⟩
  simp only [send, lane, setLane, places, hre]
  simp

lemma send_reliable : ∃ now later, s.places.queue = now ++ later ∧
    now = goingOut s.reliable.bufferedAmountLowThreshold s.reliable.bufferedAmount s.places.queue ∧
    (s.send .reliable outcomes).1.places =
      { s.places with retry := s.places.retry ++ now, queue := later } ∧
    Sends now (s.send .reliable outcomes).2 := by
  obtain ⟨now, later, hq, hnow, hla, hre, hlog⟩ := sendUntilThreshold_spec .reliable
    s.reliable.bufferedAmountLowThreshold outcomes s.reliable.bufferedAmount s.retryQueue
    s.reliable.queue
  rw [if_pos rfl] at hre hlog
  refine ⟨now.map (·.encodedPacket), later.map (·.encodedPacket), ?_, hnow, ?_, hlog⟩
  · simp [places, hq]
  · simp only [send, lane, setLane, places, hre, hla]

variable {ev : Event π} (kind : DataPacketKind) (lastSeq : ℕ)

lemma places_emit (hev : ev.reliableData = none) : (s.emit ev).places = s.places := by
  simp [places, emit, hev]

lemma move_publishPacket (req) :
    Move encode s.released s.places (some (.publishPacket kind req))
      (s.onPublishPacket encode kind req).1.places (s.onPublishPacket encode kind req).2 := by
  cases kind with
  | lossy =>
    rw [onPublishPacket, enqueueEncoded]
    split
    next => exact .idle _ ⟨rfl, rfl, rfl, rfl, rfl⟩
    next =>
      rw [places_emit _ rfl]
      exact .idle _ Sends.nil
  | reliable =>
    -- the number is taken even if the packet is then rejected
    simp only [onPublishPacket, enqueueEncoded]
    split
    next => exact .rejected req
    next =>
      have hmv : Move encode s.released s.places (some (.publishPacket .reliable req)) _ _ :=
        .numbered req
      simpa [places, emit, Event.reliableData] using hmv

lemma move_publishData (req) : Move encode s.released { s.places with
        data := (Event.publishData kind req : Event π).reliableData.toList ++ s.places.data }
      (some (.publishData kind req)) (s.onPublishData kind req outcomes).1.places
      (s.onPublishData kind req outcomes).2 := by
  cases kind with
  | lossy =>
    obtain ⟨hplaces, hlog⟩ := send_lossy (s.pushBack .lossy req) outcomes
    rw [onPublishData, hplaces]
    exact .idle _ hlog
  | reliable =>
    obtain ⟨now, later, hq, -, hplaces, hlog⟩ :=
      send_reliable (s.pushBack .reliable req) outcomes
    have hq : s.places.queue ++ [req.encodedPacket] = now ++ later := by
      rw [← hq]
      simp [places, pushBack, lane, setLane]
    rw [onPublishData, hplaces]
    exact .sent req rfl hq hlog

lemma move_bufferedAmountChange (size : ℕ) :
    Move encode s.released s.places (some (.bufferedAmountChange kind size))
      (s.onBufferedAmountChange kind size outcomes).1.places
      (s.onBufferedAmountChange kind size outcomes).2 := by
  cases kind with
  | lossy =>
    obtain ⟨hplaces, hlog⟩ := send_lossy (s.unbuffer .lossy size) outcomes
    simp only [onBufferedAmountChange]
    rw [hplaces]
    exact .idle _ hlog
  | reliable =>
    obtain ⟨_, later, hq, rfl, hplaces, hlog⟩ :=
      send_reliable (s.unbuffer .reliable size) outcomes
    simp only [onBufferedAmountChange]
    generalize (s.unbuffer .reliable size).send .reliable outcomes = sent at hplaces hlog ⊢
    -- `trim` comes after the packets were handed over
    have hre : sent.1.retryQueue.inner = s.places.retry ++ s.released size :=
      congrArg Reliable.retry hplaces
    have ha : places { sent.1 with retryQueue := sent.1.retryQueue.trim size } =
        { s.places with retry := (sent.1.retryQueue.trim size).inner, queue := later } := by
      change { sent.1.places with retry := (sent.1.retryQueue.trim size).inner } = _
      rw [hplaces]
      rfl
    rw [ha]
    refine .reported size hq ?_ ?_ hlog
    · rw [← hre]
      exact sent.1.retryQueue.trim_suffix size
    · rw [← hre]
      exact fun rest hr hsize => sent.1.retryQueue.suffix_trim size hr hsize

lemma places_enqueueForRetryFrom : (s.enqueueForRetryFrom lastSeq).1.places = { s.places with
      retry := []
      data := s.places.data ++ s.places.retry.filter fun pkt => lastSeq < pkt.sequence } := by
  simp [enqueueForRetryFrom, places, TxQueue.new, filterMap_map, Function.comp_def,
    Event.reliableData]

lemma move_retryFrom : Move encode s.released s.places (some (.retryFrom lastSeq))
      (s.enqueueForRetryFrom lastSeq).1.places (s.enqueueForRetryFrom lastSeq).2 := by
  rw [places_enqueueForRetryFrom]
  exact .retried lastSeq

lemma taken_recv (h : s.taken (.recv outcomes) = some ev) :
    s.running = true ∧ s.dcEvents = ev :: s.dcEvents.tail := by
  simp only [taken] at h
  split at h
  next hrun => exact ⟨hrun, eq_cons_of_mem_head? h⟩
  next => cases h

lemma places_taken (h : s.taken (.recv outcomes) = some ev) :
    s.places = { DataChannelTask.places { s with dcEvents := s.dcEvents.tail } with
      data := ev.reliableData.toList ++
        (DataChannelTask.places { s with dcEvents := s.dcEvents.tail }).data } := by
  have hdata : s.places.data = ev.reliableData.toList ++
      s.dcEvents.tail.filterMap Event.reliableData := by
    rw [places, (s.taken_recv outcomes h).2, tail_cons]
    cases hev : ev.reliableData <;> simp [hev]
  exact congrArg (fun data => { s.places with data := data }) hdata

lemma places_retryFrom {lastSeq} (h : s.taken (.recv outcomes) = some (.retryFrom lastSeq)) :
    (s.step encode (.recv outcomes)).1.places = { s.places with
      retry := []
      data := s.places.data ++ s.places.retry.filter fun pkt => lastSeq < pkt.sequence } := by
  rw [step, h, s.places_taken outcomes h]
  exact places_enqueueForRetryFrom _ lastSeq

lemma step_move (a) :
    Move encode s.released s.places (s.taken a) (s.step encode a).1.places (s.step encode a).2 := by
  cases a with
  | publish | report | restart =>
    rw [step, places_emit _ rfl]
    exact .idle _ Sends.nil
  | setThreshold kind => cases kind <;> exact .idle _ Sends.nil
  | negotiate | close => exact .idle _ Sends.nil
  | recv outcomes =>
    rw [step]
    cases htk : s.taken (.recv outcomes) with
    | none => exact .idle _ Sends.nil
    | some ev =>
      rw [s.places_taken outcomes htk]
      -- what a report lets out does not depend on the channel
      change Move encode (released { s with dcEvents := s.dcEvents.tail }) _ _ _ _
      cases ev with
      | publishPacket kind req => exact move_publishPacket encode _ kind req
      | publishData kind req => exact move_publishData encode _ outcomes kind req
      | bufferedAmountChange kind sent =>
        exact move_bufferedAmountChange encode _ outcomes kind sent
      | retryFrom lastSeq => exact move_retryFrom encode _ lastSeq

end Moves

end DataChannelTask

end LiveKit.RtcEngine
