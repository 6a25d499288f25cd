import LiveKitRust.Base.Machine
import LiveKitRust.Base.Maps
import LiveKitRust.DataTrack.Deserialize
import LiveKitRust.DataTrack.Track

/-!
# The manager of remote data tracks

The actor that follows what remote participants publish and what is subscribed locally
(`remote/manager.rs`, `remote/events.rs`). It owns two maps: the descriptors of the published
tracks, keyed by SID, and an index from subscriber handles to SIDs that routes incoming packets.

Each handler is a function to the manager and the list of what it did to the rest of the program
(`Effect`). Channels, tasks and shared cells are identities drawn from two counters; the packet
channel, the frame channel and the handle of a track task share the task's identity.

A `HashMap` is iterated in an order the program does not control. Where a handler iterates over a
map that came with the event, that map's own order of entries is the order of iteration; where it
iterates over one of its own maps, the event carries a `HashOrder`. Statements quantify over both.
-/

namespace LiveKit.DataTrack.Remote

/-! ### Events -/

/-- A remote track: its shared info and its publish-state channel. -/
abbrev TrackId := ℕ

/-- A track task, with its packet channel and its frame channel. -/
abbrev TaskId := ℕ

/-- The completion channel of a subscribe request. -/
abbrev ResultTx := ℕ

/-- A buffer size of zero is clamped when the options are made. -/
structure DataTrackSubscribeOptions where
  bufferSize : ℕ := 16
  bufferSize_pos : 0 < bufferSize := by decide

instance : Inhabited DataTrackSubscribeOptions := ⟨{}⟩

structure RemoteDataTrackPipelineOptions where
  maxPartialFrames : ℕ := 1
  maxPartialFrames_pos : 0 < maxPartialFrames := by decide

instance : Inhabited RemoteDataTrackPipelineOptions := ⟨{}⟩

inductive DataTrackSubscribeError where
  | unpublished
  | timeout
  | disconnected
  | internal (message : String)
  deriving DecidableEq

inductive InputEvent where
  | subscribeRequest (sid : DataTrackSid) (options : DataTrackSubscribeOptions)
      (resultTx : ResultTx)
  | unsubscribeRequest (sid : DataTrackSid)
  | sfuPublicationUpdates (updates : Map String (List DataTrackInfo))
      (publishers : HashOrder String) (order : HashOrder DataTrackSid)
  | sfuSubscriberHandles (mapping : Map Handle DataTrackSid)
  | setPipelineOptions (sid : DataTrackSid) (options : RemoteDataTrackPipelineOptions)
  | packetReceived (bytes : Bytes)
  | resendSubscriptionUpdates (order : HashOrder DataTrackSid)
  | shutdown (order : HashOrder DataTrackSid)

/-- Data track published by a remote participant, as handed to the user. -/
structure RemoteDataTrack where
  track : TrackId
  info : DataTrackInfo
  publisherIdentity : String
  deriving DecidableEq

inductive OutputEvent where
  | sfuUpdateSubscription (sid : DataTrackSid) (subscribe : Bool)
  | trackPublished (track : RemoteDataTrack)
  | trackUnpublished (sid : DataTrackSid)
  deriving DecidableEq

structure PipelineOptions (π : Type) where
  info : DataTrackInfo
  publisherIdentity : String
  decryptionProvider : Option π
  deriving DecidableEq

/-- What a handler does to the rest of the program. -/
inductive Effect (π : Type) where
  /-- Sent on the manager's output channel. -/
  | output (event : OutputEvent)
  /-- A subscribe request is answered, on success with a receiver of a task's
  frame channel. -/
  | result (resultTx : ResultTx) (result : Except DataTrackSubscribeError TaskId)
  /-- The SID shared by the holders of a track is overwritten. -/
  | sidWritten (track : TrackId) (sid : DataTrackSid)
  | published (track : TrackId) (value : Bool)
  | spawned (task : TaskId) (track : TrackId) (options : PipelineOptions π)
  /-- A packet is put into a task's channel, if it has room. -/
  | packet (task : TaskId) (packet : Packet)
  deriving DecidableEq

/-! ### State -/

inductive SubscriptionState where
  | none
  | pending (resultTxs : List ResultTx) (bufferSize : ℕ)
  | active (subHandle : Handle) (task : TaskId)
  deriving DecidableEq

structure Descriptor where
  track : TrackId
  info : DataTrackInfo
  publisherIdentity : String
  subscription : SubscriptionState
  maxPartialFrames : ℕ
  deriving DecidableEq

structure Manager (π : Type) where
  decryptionProvider : Option π
  descriptors : Map DataTrackSid Descriptor
  subHandles : Map Handle DataTrackSid
  nextTrack : TrackId
  nextTask : TaskId
  /-- The loop of `run` has not ended. -/
  running : Bool
  deriving DecidableEq

namespace Manager

variable {π : Type}

def new (decryptionProvider : Option π) : Manager π :=
  ⟨decryptionProvider, ∅, ∅, 0, 0, true⟩

variable (self : Manager π)

def setDescriptor (sid : DataTrackSid) (descriptor : Descriptor) : Manager π :=
  { self with descriptors := self.descriptors.insert sid descriptor }

/-! ### Subscriptions -/

def onSubscribeRequest (sid : DataTrackSid)
    (options : DataTrackSubscribeOptions) (resultTx : ResultTx) : Manager π × List (Effect π) :=
  match self.descriptors.lookup sid with
  | none => (self, [.result resultTx (.error (.internal "Cannot subscribe to unknown track"))])
  | some descriptor =>
    match descriptor.subscription with
    | .none =>
      (self.setDescriptor sid { descriptor with
          subscription := .pending [resultTx] options.bufferSize },
        [.output (.sfuUpdateSubscription sid true)])
    | .pending resultTxs bufferSize =>
      (self.setDescriptor sid { descriptor with
          subscription := .pending (resultTxs ++ [resultTx]) bufferSize }, [])
    | .active _ task => (self, [.result resultTx (.ok task)])

def onUnsubscribeRequest (sid : DataTrackSid) : Manager π × List (Effect π) :=
  match self.descriptors.lookup sid with
  | none => (self, [])
  | some descriptor =>
    match descriptor.subscription with
    | .active subHandle _ =>
      let self := self.setDescriptor sid { descriptor with subscription := .none }
      ({ self with subHandles := self.subHandles.erase subHandle },
        [.output (.sfuUpdateSubscription sid false)])
    | _ => (self, [])

/-! ### Publications -/

def handleTrackPublished (publisherIdentity : String) (info : DataTrackInfo) :
    Manager π × List (Effect π) :=
  match self.descriptors.lookup info.sid with
  | some _ => (self, [])
  | none =>
    let track := self.nextTrack
    let descriptor : Descriptor := ⟨track, info, publisherIdentity, .none,
        (default : RemoteDataTrackPipelineOptions).maxPartialFrames⟩
    ({ self.setDescriptor info.sid descriptor with nextTrack := track + 1 },
      [.output (.trackPublished ⟨track, info, publisherIdentity⟩)])

def resubscribe (sid : DataTrackSid) (subscription : SubscriptionState) : List (Effect π) :=
  match subscription with
  | .none => []
  | .pending .. | .active .. => [.output (.sfuUpdateSubscription sid true)]

/-- SID reassignment, which occurs when the publisher republishes its tracks after a full reconnect.
`none` where the source returns `false`; nothing has changed then. -/
def handleSidReassigned (order : HashOrder DataTrackSid)
    (publisherIdentity : String) (info : DataTrackInfo) : Option (Manager π × List (Effect π)) :=
  match (order.entries self.descriptors).find? fun e =>
      e.2.publisherIdentity = publisherIdentity ∧ e.2.info.pubHandle = info.pubHandle with
  | none => none
  | some (oldSid, descriptor) =>
    if descriptor.info.name ≠ info.name ∨ descriptor.info.usesE2ee ≠ info.usesE2ee then
      none -- info mismatch, treated as a new publication
    else
      let newSid := info.sid
      let self := { self with descriptors := self.descriptors.erase oldSid }
      let descriptor := { descriptor with info := { descriptor.info with sid := newSid } }
      -- keep the routing index consistent until the SFU assigns a new handle
      let subHandles := match descriptor.subscription with
        | .active subHandle _ => self.subHandles.insert subHandle newSid
        | _ => self.subHandles
      some ({ self.setDescriptor newSid descriptor with subHandles := subHandles },
        .sidWritten descriptor.track newSid :: resubscribe newSid descriptor.subscription)

def handleTrackUnpublished (sid : DataTrackSid) : Manager π × List (Effect π) :=
  match self.descriptors.lookup sid with
  | none => (self, [])
  | some descriptor =>
    let subHandles := match descriptor.subscription with
      | .active subHandle _ => self.subHandles.erase subHandle
      | _ => self.subHandles
    ({ self with descriptors := self.descriptors.erase sid, subHandles := subHandles },
      [.published descriptor.track false, .output (.trackUnpublished sid)])

/-- One track of an update: known, reassigned or new. -/
def detectPublished (order : HashOrder DataTrackSid) (self : Manager π)
    (track : String × DataTrackInfo) : Manager π × List (Effect π) :=
  if (self.descriptors.lookup track.2.sid).isSome then (self, [])
  else
    match self.handleSidReassigned order track.1 track.2 with
    | some result => result
    | none => self.handleTrackPublished track.1 track.2

/-- The SIDs of a publisher's descriptors that its list of tracks does not
mention. -/
def unpublishedSids (order : HashOrder DataTrackSid) (self : Manager π)
    (publisherIdentity : String) (sidsInUpdate : List DataTrackSid) : List DataTrackSid :=
  ((order.entries self.descriptors).filter fun e =>
    e.2.publisherIdentity = publisherIdentity ∧ e.1 ∉ sidsInUpdate).map Prod.fst

/-- One publisher of an update: what it does not mention is unpublished. -/
def detectUnpublished (order : HashOrder DataTrackSid) (self : Manager π)
    (publisher : String × List DataTrackSid) : Manager π × List (Effect π) :=
  Machine.run handleTrackUnpublished self (self.unpublishedSids order publisher.1 publisher.2)

/-- The tracks of an update in the order of the two nested loops. -/
def tracksOf (updates : Map String (List DataTrackInfo)) : List (String × DataTrackInfo) :=
  updates.entries.flatMap fun e => e.2.map fun info => (e.1, info)

def participantToSids (updates : Map String (List DataTrackInfo)) (publishers : HashOrder String) :
    List (String × List DataTrackSid) :=
  (publishers.entries updates).map fun e => (e.1, e.2.map DataTrackInfo.sid)

def onSfuPublicationUpdates (updates : Map String (List DataTrackInfo))
    (publishers : HashOrder String) (order : HashOrder DataTrackSid) :
    Manager π × List (Effect π) :=
  let (self, published) := Machine.run (detectPublished order) self (tracksOf updates)
  let (self, unpublished) :=
    Machine.run (detectUnpublished order) self (participantToSids updates publishers)
  (self, published ++ unpublished)

/-! ### Subscriber handles -/

def registerSubscriberHandle (assigned : Handle × DataTrackSid) : Manager π × List (Effect π) :=
  let (assignedHandle, sid) := assigned
  match self.descriptors.lookup sid with
  | none => (self, [])
  | some descriptor =>
    match descriptor.subscription with
    | .none => (self, [])
    | .active subHandle task =>
      -- update the handle of an active subscription, as after a full reconnect
      let subHandles := self.subHandles.erase subHandle
      ({ self.setDescriptor sid { descriptor with subscription := .active assignedHandle task } with
          subHandles := subHandles.insert assignedHandle sid }, [])
    | .pending resultTxs _ =>
      let task := self.nextTask
      let decryptionProvider := if descriptor.info.usesE2ee then self.decryptionProvider else none
      let options : PipelineOptions π :=
        ⟨descriptor.info, descriptor.publisherIdentity, decryptionProvider⟩
      ({ self.setDescriptor sid { descriptor with subscription := .active assignedHandle task } with
          subHandles := self.subHandles.insert assignedHandle sid
          nextTask := task + 1 }, .spawned task descriptor.track options ::
          resultTxs.map fun resultTx => .result resultTx (.ok task))

def assignments (mapping : Map Handle DataTrackSid) : List (Handle × DataTrackSid) :=
  mapping.entries.map fun e => (e.1, e.2)

def onSfuSubscriberHandles (mapping : Map Handle DataTrackSid) : Manager π × List (Effect π) :=
  Machine.run registerSubscriberHandle self (assignments mapping)

/-! ### The rest -/

def onSetPipelineOptions (sid : DataTrackSid)
    (options : RemoteDataTrackPipelineOptions) : Manager π × List (Effect π) :=
  match self.descriptors.lookup sid with
  | none => (self, [])
  | some descriptor =>
    (self.setDescriptor sid { descriptor with maxPartialFrames := options.maxPartialFrames }, [])

def route (trackHandle : Handle) : Option TaskId := do
  let sid ← self.subHandles.lookup trackHandle
  let descriptor ← self.descriptors.lookup sid
  match descriptor.subscription with
  | .active _ task => some task
  | _ => none

def onPacketReceived (bytes : Bytes) : Manager π × List (Effect π) :=
  match Packet.deserialize bytes with
  | .ok packet =>
    match self.route packet.header.trackHandle with
    | some task => (self, [.packet task packet])
    | none => (self, [])
  | _ => (self, [])

def onResendSubscriptionUpdates (order : HashOrder DataTrackSid) : Manager π × List (Effect π) :=
  (self, (order.entries self.descriptors).flatMap fun e => resubscribe e.1 e.2.subscription)

def shutdownEffects (descriptor : Descriptor) : List (Effect π) :=
  .published descriptor.track false :: match descriptor.subscription with
    | .pending resultTxs _ => resultTxs.map fun resultTx => .result resultTx (.error .disconnected)
    | _ => []

def onShutdown (order : HashOrder DataTrackSid) : Manager π × List (Effect π) :=
  ({ self with descriptors := ∅, subHandles := ∅, running := false },
    (order.entries self.descriptors).flatMap fun e => shutdownEffects e.2)

/-- One iteration of the loop of `run`; nothing happens once it has ended. -/
def step (event : InputEvent) : Manager π × List (Effect π) :=
  if self.running then
    match event with
    | .subscribeRequest sid options resultTx => self.onSubscribeRequest sid options resultTx
    | .unsubscribeRequest sid => self.onUnsubscribeRequest sid
    | .sfuPublicationUpdates updates publishers order =>
      self.onSfuPublicationUpdates updates publishers order
    | .sfuSubscriberHandles mapping => self.onSfuSubscriberHandles mapping
    | .setPipelineOptions sid options => self.onSetPipelineOptions sid options
    | .packetReceived bytes => self.onPacketReceived bytes
    | .resendSubscriptionUpdates order => self.onResendSubscriptionUpdates order
    | .shutdown order => self.onShutdown order
  else (self, [])

end Manager

end LiveKit.DataTrack.Remote
