import LiveKitRust.Base.Bytes
import LiveKitRust.Base.Machine
import LiveKitRust.Base.Maps

/-!
# Records over TCP (`ohos/transport_manager.rs`)

Over TCP a record is sent with its length before it (RFC 4571). `recv` reads what a stream has
into the buffer of its peer, and takes the first record out of the buffer if all of it is there.
It does not look for a second one: that waits until the stream has more data, and is lost if the
stream ends before. So the records come out as they are read if and only if no read brings the
ends of two of them (`prompt_iff`).

Nor does `recv` always come to read. It awaits a datagram, and then a connection if there is a
listener, and it goes on to the streams only when the one and the other have failed. With an idle
socket the call waits (the loop of the driver drops it when something else is to be done, and makes
another one), and what the streams have is left where it is.
-/

open Rust Machine List

namespace LiveKit.Ohos

def RECV_BUF_SIZE : ℕ := 65536

inductive TransportProtocol where
  | udp
  | tcp
  deriving DecidableEq

/-- A record as `send_to` writes it. -/
def framed (data : List UInt8) : List UInt8 :=
  beBytes 2 (UInt16.ofNat data.length).toNat ++ data

/-- What `try_read` gives. The peer has closed the stream, or there was an error, if it has
`ended`. -/
inductive Read where
  | data (bytes : List UInt8)
  | wouldBlock
  | ended

/-- What `recv` returns. -/
structure RecvResult (Peer : Type) where
  /-- The first `n` bytes of the buffer of the caller. -/
  data : List UInt8
  peerAddr : Peer
  protocol : TransportProtocol

/-- What happens in a call: bytes of a stream go into a buffer, the call returns, or it waits. -/
inductive Event (Peer : Type) where
  | read (peer : Peer) (bytes : List UInt8)
  | returned (result : RecvResult Peer)
  | waits

/-- What an operation that is awaited has come to by the end of the call. -/
inductive Awaited (α : Type) where
  | ready (value : α)
  | error
  /-- It has not come back, and the call is still waiting for it. -/
  | pending
  deriving DecidableEq

/-- The streams by their peers, each with the bytes that were read and not yielded. -/
structure TransportManager (Peer : Type) where
  tcpListener : Bool
  tcpStreams : Map Peer (List UInt8)

/-- What a call of `recv` finds: `recv_from`, `accept`, and `try_read` of each stream. -/
structure Poll (Peer : Type) where
  udp : Awaited (Peer × List UInt8)
  accepted : Awaited Peer
  order : HashOrder Peer
  tryRead : Peer → Read

/-- The calls that touch the streams. -/
inductive Input (Peer : Type) where
  | connectTcp (peer : Peer)
  | recv (poll : Poll Peer)

namespace TransportManager

variable {Peer : Type} [DecidableEq Peer]

/-- The first record of a buffer, and what is behind it. -/
def parse (acc : List UInt8) : Option (List UInt8 × List UInt8) :=
  if acc.length < 2 then none
  else
    let recordLen := beNat (acc.take 2)
    if acc.length < 2 + recordLen then none
    else some ((acc.drop 2).take recordLen, acc.drop (2 + recordLen))

/-- The loop over the streams. The source removes those which have ended behind it. -/
def readStreams (tryRead : Peer → Read) :
    List (Peer × List UInt8) → Map Peer (List UInt8) → Map Peer (List UInt8) × List (Event Peer)
  | [], streams => (streams, [])
  | (peer, acc) :: rest, streams =>
    match tryRead peer with
    | .wouldBlock => readStreams tryRead rest streams
    | .ended => readStreams tryRead rest (streams.erase peer)
    | .data bytes =>
      match parse (acc ++ bytes) with
      | none =>
        let (after, events) := readStreams tryRead rest (streams.insert peer (acc ++ bytes))
        (after, .read peer bytes :: events)
      | some (payload, left) =>
        (streams.insert peer left,
          [.read peer bytes, .returned ⟨payload.take RECV_BUF_SIZE, peer, .tcp⟩])

/-- A new stream. The buffer of an older one to the same address stays. -/
def insertStream (self : TransportManager Peer) (peer : Peer) : TransportManager Peer :=
  { self with
    tcpStreams := self.tcpStreams.insert peer ((self.tcpStreams.lookup peer).getD []) }

/-- One call. A call of `recv` gives nothing but the events if it returns `None`. -/
def step (self : TransportManager Peer) : Input Peer → TransportManager Peer × List (Event Peer)
  | .connectTcp peer => (self.insertStream peer, [])
  | .recv poll =>
    match poll.udp with
    | .ready (peer, data) => (self, [.returned ⟨data.take RECV_BUF_SIZE, peer, .udp⟩])
    | .pending => (self, [.waits])
    | .error =>
      -- without a listener there is nothing to accept
      match if self.tcpListener then poll.accepted else .error with
      | .ready peer => (self.insertStream peer, [.returned ⟨[], peer, .tcp⟩])
      | .pending => (self, [.waits])
      | .error =>
        let (tcpStreams, events) :=
          readStreams poll.tryRead (poll.order.entries self.tcpStreams) self.tcpStreams
        ({ self with tcpStreams }, events)

/-! ### One stream -/

variable (peer : Peer)

/-- Another stream to the address may be opened. -/
def Opens : Input Peer → Prop
  | .connectTcp peer' => peer' = peer
  | .recv poll => poll.accepted = .ready peer

instance (input : Input Peer) : Decidable (Opens peer input) :=
  match input with
  | .connectTcp _ | .recv _ => inferInstanceAs (Decidable (_ = _))

def bytesOf : Event Peer → List UInt8
  | .read peer' bytes => if peer' = peer then bytes else []
  | .returned _ | .waits => []

def recordOf : Event Peer → List (List UInt8)
  | .read _ _ | .waits => []
  | .returned result =>
    if result.peerAddr = peer ∧ result.protocol = .tcp then [result.data] else []

/-- What has been read of the stream of the peer. -/
def bytesRead (events : List (Event Peer)) : List UInt8 := events.flatMap (bytesOf peer)

/-- The records of the peer that were returned. -/
def yielded (events : List (Event Peer)) : List (List UInt8) := events.flatMap (recordOf peer)

end TransportManager

/-- The messages that are complete in the first `n` bytes of the stream. -/
def arrived : List (List UInt8) → ℕ → List (List UInt8)
  | [], _ => []
  | message :: messages, n =>
    if message.length + 2 ≤ n then message :: arrived messages (n - (message.length + 2)) else []

namespace TransportManager

variable {Peer : Type} [DecidableEq Peer] (peer : Peer) (messages : List (List UInt8))
  (acc : List UInt8) (start : TransportManager Peer)

/-- The stream of the peer has data, or its end, to be read in the call. -/
def HasData (self : TransportManager Peer) (poll : Poll Peer) : Prop :=
  peer ∈ self.tcpStreams ∧ poll.tryRead peer ≠ .wouldBlock

/-- No call is left waiting while the stream of the peer has something. -/
def Attended (inputs : List (Input Peer)) : Prop :=
  ∀ before poll after, inputs = before ++ .recv poll :: after →
    HasData peer (state step start before) poll →
      .waits ∉ ((state step start before).step (.recv poll)).2

variable {peer messages acc start}

variable (events events' : List (Event Peer))

@[simp] lemma yielded_append :
    yielded peer (events ++ events') = yielded peer events ++ yielded peer events' :=
  flatMap_append

def taken (acc : List UInt8) : List UInt8 × List (List UInt8) :=
  match parse acc with
  | none => (acc, [])
  | some (payload, left) => (left, [payload.take RECV_BUF_SIZE])

/-- With `acc` in the buffer of the peer before, the bytes that were read from it were put behind
that, and one record was taken out. -/
def Serves (peer : Peer) (acc : List UInt8)
    (result : Map Peer (List UInt8) × List (Event Peer)) : Prop :=
  yielded peer result.2 = (taken (acc ++ bytesRead peer result.2)).2 ∧
    ∀ left ∈ result.1.lookup peer, left = (taken (acc ++ bytesRead peer result.2)).1

variable {i : Input Peer} {inputs : List (Input Peer)}

/-- There is no listener, and `recv_from` has failed. -/
def reading (read : Read) : Input Unit := .recv ⟨.error, .error, .asListed, fun _ => read⟩

end TransportManager

end LiveKit.Ohos
