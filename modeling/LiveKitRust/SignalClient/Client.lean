import LiveKitRust.Base.Locks

/-!
# The signal client (`signal_client/mod.rs`, `signal_client/signal_stream.rs`)

Calls of the client run concurrently. The `Stage` of a call says between which awaits it is, and so
what locks it holds and what it asks for; `advance` takes it on to the next point where others may
come in between. The stream in place has a task that takes messages from a channel, writes them to
the WebSocket and answers the calls that sent them; that it ends, and how a write or a connect turns
out, is up to the environment.

`stream` is a lock that is read by sends and flushes and written by `restart` and `close`, `queue`
is a mutex; both are granted in the order of arrival (`Locks.admits`). A guard in the condition of
an `if let` lives to the end of the statement, the `else` branch included.

A signal is numbered by the call of `send` that it was passed to. The events are what can be seen
from outside.
-/

open Locks

namespace LiveKit.SignalClient

/-! ### Signals -/

/-- The variants of `proto::signal_request::Message`. -/
inductive SignalKind where
  | offer
  | answer
  | trickle
  | addTrack
  | mute
  | subscription
  | trackSetting
  | leave
  | updateLayers
  | subscriptionPermission
  | syncState
  | simulate
  | ping
  | updateMetadata
  | pingReq
  | updateAudioTrack
  | updateVideoTrack
  | publishDataTrackRequest
  | unpublishDataTrackRequest
  | updateDataSubscription
  deriving DecidableEq

/-- A signal request; the client looks at its kind only. -/
structure Signal where
  kind : SignalKind
  body : List UInt8
  deriving DecidableEq

/-- Signals that are written during a reconnect, and never queued. -/
def isPassThrough (signal : Signal) : Bool :=
  match signal.kind with
  | .syncState | .trickle | .offer | .answer | .simulate | .leave => true
  | _ => false

structure Outgoing where
  call : ℕ
  signal : Signal
  deriving DecidableEq

/-! ### Calls -/

inductive Lock where
  | queue
  | stream
  deriving DecidableEq

inductive Purpose where
  /-- to push the signal of a `send` to the queue, with the guard of the stream still held or not -/
  | push (guarded : Bool)
  | flush
  /-- to send what is in the queue, which is held -/
  | drain
  | send
  | restart
  | close
  deriving DecidableEq

namespace Purpose

def lock : Purpose → Lock
  | .push _ | .flush => .queue
  | .drain | .send | .restart | .close => .stream

def mode : Purpose → Mode
  | .drain | .send => .shared
  | .push _ | .flush | .restart | .close => .exclusive

def held : Purpose → Lock → Option Mode
  | .push true, .stream => some .shared
  | .drain, .queue => some .exclusive
  | _, _ => none

end Purpose

/-- `SignalResult<()>` as `SignalStream::send` returns it. -/
inductive SendResult where
  | ok
  | wsError
  | sendError
  deriving DecidableEq

inductive Task where
  | send (item : Outgoing)
  | flushQueue
  | restart
  | setReconnected
  | close (notifyClose : Bool)
  deriving DecidableEq

inductive Stage where
  | called
  /-- about to ask for a lock, or with a place in its queue -/
  | acquiring (purpose : Purpose) (ticket : Option ℕ)
  | acquired (purpose : Purpose)
  /-- a flush with what it has taken from the queue and not sent yet -/
  | draining (stream : ℕ) (rest : List Outgoing)
  /-- a flush that waits for the answer to one of them -/
  | awaiting (stream : ℕ) (item : Outgoing) (rest : List Outgoing)
  /-- a `send` that waits for the answer -/
  | sending (stream : ℕ)
  | answered (result : SendResult)
  /-- waiting for the tasks of a stream that was taken -/
  | closing (stream : ℕ)
  | connecting
  /-- a `restart` that has failed and is about to reset the flag -/
  | failed
  | returned
  deriving DecidableEq

def Stage.holds : Stage → Lock → Option Mode
  | .acquiring purpose _, lock => purpose.held lock
  | .acquired purpose, lock => if lock = purpose.lock then some purpose.mode else purpose.held lock
  | .draining .., .queue | .awaiting .., .queue => some .exclusive
  | .draining .., .stream | .awaiting .., .stream => some .shared
  | .sending _, .stream | .answered _, .stream => some .shared
  | .closing _, .stream | .connecting, .stream => some .exclusive
  | _, _ => none

def Stage.asks : Stage → Option (Request Lock)
  | .acquiring purpose (some ticket) => some ⟨purpose.lock, purpose.mode, ticket⟩
  | _ => none

structure Call where
  task : Task
  stage : Stage
  deriving DecidableEq

/-! ### The client -/

/-- A message to the task that writes; a signal is the one its caller waits with. -/
inductive Message where
  | signal (caller : ℕ)
  | close
  deriving DecidableEq

/-- `SignalStream`: its channel, and whether its task still takes messages. -/
structure SignalStream where
  channel : List Message
  ended : Bool
  deriving DecidableEq

/-- `SignalInner`, with the streams there have been and the calls that were made. -/
structure SignalInner where
  reconnecting : Bool
  stream : Option ℕ
  queue : List Outgoing
  streams : List SignalStream
  calls : List Call
  tickets : ℕ
  deriving DecidableEq

inductive Event where
  | made (call : ℕ)
  | returned (call : ℕ)
  | written (item : Outgoing)
  /-- `restart` has put the new stream in place -/
  | installed
  /-- `set_reconnected` begins -/
  | reconnected
  deriving DecidableEq

namespace SignalInner

def connected : SignalInner := ⟨false, some 0, [], [⟨[], false⟩], [], 0⟩

variable (self : SignalInner)

def setStage (c : ℕ) (call : Call) (stage : Stage) : SignalInner :=
  { self with calls := self.calls.set c { call with stage } }

/-- The call returns, and drops the guards it has. -/
def finish (c : ℕ) (call : Call) : SignalInner × List Event :=
  (self.setStage c call .returned, [.returned c])

def enqueue (n : ℕ) (message : Message) : SignalInner :=
  { self with streams := self.streams.modify n fun stream =>
      { stream with channel := stream.channel ++ [message] } }

/-- The end of `flush_queue`, in whatever called it. -/
def afterFlush (c : ℕ) (call : Call) : SignalInner × List Event :=
  match call.task with
  | .send _ => (self.setStage c call (.acquiring .send none), [])
  | _ => self.finish c call

/-- A signal that could not be sent is held, or dropped if it is pass-through. -/
def undelivered (c : ℕ) (call : Call) (item : Outgoing) : SignalInner × List Event :=
  if isPassThrough item.signal then self.finish c call
  else (self.setStage c call (.acquiring (.push true) none), [])

/-- `restart` with the stream's write guard, when the old stream is gone. -/
def connect (c : ℕ) (call : Call) (connects : Bool) : SignalInner × List Event :=
  if connects then
    let installed : SignalInner :=
      { self with stream := some self.streams.length, streams := self.streams ++ [⟨[], false⟩] }
    let (finished, events) := installed.finish c call
    (finished, .installed :: events)
  else (self.setStage c call .failed, [])

def start (c : ℕ) (call : Call) : SignalInner × List Event :=
  match call.task with
  | .send item =>
    let stage : Stage :=
      if self.reconnecting && !isPassThrough item.signal then .acquiring (.push false) none
      else if !self.reconnecting then .acquiring .flush none
      else .acquiring .send none
    (self.setStage c call stage, [])
  | .flushQueue => (self.setStage c call (.acquiring .flush none), [])
  | .restart =>
    ({ self with reconnecting := true }.setStage c call (.acquiring .restart none), [])
  | .setReconnected =>
    ({ self with reconnecting := false }.setStage c call (.acquiring .flush none), [.reconnected])
  | .close _ => (self.setStage c call (.acquiring .close none), [])

def proceed (c : ℕ) (call : Call) : Purpose → SignalInner × List Event
  | .push _ =>
    match call.task with
    | .send item => { self with queue := self.queue ++ [item] }.finish c call
    | _ => (self, [])
  | .flush =>
    if self.queue.length = 0 then self.afterFlush c call
    else (self.setStage c call (.acquiring .drain none), [])
  | .drain =>
    match self.stream with
    | none => self.afterFlush c call
    | some n => ({ self with queue := [] }.setStage c call (.draining n self.queue), [])
  | .send =>
    match call.task, self.stream with
    | .send item, none => self.undelivered c call item
    | .send _, some n => ((self.enqueue n (.signal c)).setStage c call (.sending n), [])
    | _, _ => (self, [])
  | .restart =>
    match self.stream with
    | none => (self.setStage c call .connecting, [])
    | some n => ({ self with stream := none }.setStage c call (.closing n), [])
  | .close =>
    match self.stream with
    | none => self.finish c call
    | some n =>
      let taken := { self with stream := none }
      let told := if call.task = .close true then taken.enqueue n .close else taken
      (told.setStage c call (.closing n), [])

def hasEnded (n : ℕ) : Bool :=
  match self.streams[n]? with
  | some stream => stream.ended
  | none => true

def resume (c : ℕ) (call : Call) (connects : Bool) : SignalInner × List Event :=
  match call.stage with
  | .called => self.start c call
  | .acquiring purpose none =>
    ({ self with tickets := self.tickets + 1 }.setStage c call
      (.acquiring purpose (some self.tickets)), [])
  | .acquiring purpose (some ticket) =>
    if admits (fun other : Call => other.stage.holds) (fun other => other.stage.asks) self.calls
        ⟨purpose.lock, purpose.mode, ticket⟩ then
      (self.setStage c call (.acquired purpose), [])
    else (self, [])
  | .acquired purpose => self.proceed c call purpose
  | .draining _ [] => self.afterFlush c call
  | .draining n (item :: rest) =>
    ((self.enqueue n (.signal c)).setStage c call (.awaiting n item rest), [])
  | .answered .sendError =>
    match call.task with
    | .send item => self.undelivered c call item
    | _ => (self, [])
  | .answered _ => self.finish c call
  | .closing n =>
    if self.hasEnded n then
      if call.task = .restart then (self.setStage c call .connecting, []) else self.finish c call
    else (self, [])
  | .connecting => self.connect c call connects
  | .failed => { self with reconnecting := false }.finish c call
  | .awaiting .. | .sending _ | .returned => (self, [])

/-- What a call waits with, and where it goes on with the answer. A flush goes on with the next
signal, whatever the answer is. -/
def onAnswer (call : Call) (result : SendResult) : Option (Outgoing × Stage) :=
  match call.stage with
  | .sending _ =>
    match call.task with
    | .send item => some (item, .answered result)
    | _ => none
  | .awaiting n item rest => some (item, .draining n rest)
  | _ => none

/-- The task of a stream answers a message, which it has written if the answer is `Ok`. -/
def answer (caller : ℕ) (result : SendResult) : SignalInner × List Event :=
  match self.calls[caller]? with
  | none => (self, [])
  | some call =>
    match onAnswer call result with
    | none => (self, [])
    | some (item, stage) =>
      (self.setStage caller call stage, if result = .ok then [.written item] else [])

def setStream (n : ℕ) (stream : SignalStream) : SignalInner :=
  { self with streams := self.streams.set n stream }

/-- `write_task` takes a message; `succeeds` says how writing it turns out. -/
def write (n : ℕ) (succeeds : Bool) : SignalInner × List Event :=
  match self.streams[n]? with
  | some ⟨.signal caller :: channel, false⟩ =>
    if succeeds then (self.setStream n ⟨channel, false⟩).answer caller .ok
    else (self.setStream n ⟨channel, true⟩).answer caller .wsError
  | some ⟨.close :: channel, false⟩ => (self.setStream n ⟨channel, true⟩, [])
  | _ => (self, [])

/-- A message that is left when the task has ended goes with the channel, and with it the sender
of the answer. -/
def discard (n : ℕ) : SignalInner × List Event :=
  match self.streams[n]? with
  | some ⟨.signal caller :: channel, true⟩ =>
    (self.setStream n ⟨channel, true⟩).answer caller .sendError
  | some ⟨.close :: channel, true⟩ => (self.setStream n ⟨channel, true⟩, [])
  | _ => (self, [])

def endStream (n : ℕ) : SignalInner :=
  { self with streams := self.streams.modify n fun stream => { stream with ended := true } }

inductive Method where
  | send (signal : Signal)
  | flushQueue
  | restart
  | setReconnected
  | close (notifyClose : Bool)

def Method.task (c : ℕ) : Method → Task
  | .send signal => .send ⟨c, signal⟩
  | .flushQueue => .flushQueue
  | .restart => .restart
  | .setReconnected => .setReconnected
  | .close notifyClose => .close notifyClose

/-- `advance` runs a call to its next await; the last three are the stream task. -/
inductive Input where
  | call (method : Method)
  | advance (c : ℕ) (connects : Bool)
  | write (n : ℕ) (succeeds : Bool)
  | discard (n : ℕ)
  | endStream (n : ℕ)

def step : Input → SignalInner × List Event
  | .call method =>
    let c := self.calls.length
    ({ self with calls := self.calls ++ [⟨method.task c, .called⟩] }, [.made c])
  | .advance c connects =>
    match self.calls[c]? with
    | some call => self.resume c call connects
    | none => (self, [])
  | .write n succeeds => self.write n succeeds
  | .discard n => self.discard n
  | .endStream n => (self.endStream n, [])

end SignalInner

end LiveKit.SignalClient
