import LiveKitRust.Base.Machine
import LiveKitRust.Base.Maps
import LiveKitRust.DataTrack.Track

/-!
# The manager of local data tracks

The actor that follows what the local participant publishes (`local/manager.rs`, `local/events.rs`).
It owns one map, from publisher handles to descriptors: a publication waiting for the SFU, or an
active one with the channel its publish state is sent on.

A handler gives the manager afterwards and its `Effect`s, as on the remote side. It also reads the
publish state of a track, which the user can set, and whether the receiver of a pending result is
still there: these come as a `View` with each event, and statements quantify over it.
`std::mem::take` in `on_republish_tracks` leaves an empty map, into which the loop, a run of
`republishDescriptor`, puts back what stays.
-/

namespace LiveKit.DataTrack.Local

/-! ### Events -/

/-- A local track: its shared info, its publish-state channel, its frame channel
and its task, which are made together. -/
abbrev TrackId := ℕ

/-- The completion channel of a publish request, or of a query. -/
abbrev ResultTx := ℕ

structure DataTrackOptions where
  name : String
  deriving DecidableEq

inductive PublishError where
  | notAllowed
  | duplicateName
  | invalidName
  | timeout
  | limitReached
  | disconnected
  | internal (message : String)
  deriving DecidableEq

inductive PublishState where
  | published
  | republishing
  | unpublished
  deriving DecidableEq

inductive InputEvent where
  | publishRequest (options : DataTrackOptions) (resultTx : ResultTx)
  | publishCancelled (handle : Handle)
  | queryPublished (resultTx : ResultTx) (order : HashOrder Handle)
  | unpublishRequest (handle : Handle)
  | sfuPublishResponse (handle : Handle) (result : Except PublishError DataTrackInfo)
  | sfuUnpublishResponse (handle : Handle)
  | republishTracks (order : HashOrder Handle)
  | shutdown (order : HashOrder Handle)

/-- An event produced by the manager or by a track task requiring external
action. -/
inductive OutputEvent where
  | sfuPublishRequest (handle : Handle) (name : String) (usesE2ee : Bool)
  | sfuUnpublishRequest (handle : Handle)
  | packetsAvailable (packets : List Bytes)
  deriving DecidableEq

/-- Data track published by the local participant, as handed to the user. -/
structure LocalDataTrack where
  track : TrackId
  info : DataTrackInfo
  deriving DecidableEq

structure PipelineOptions (π : Type) where
  info : DataTrackInfo
  encryptionProvider : Option π
  deriving DecidableEq

/-- What a handler does to the rest of the program. -/
inductive Effect (π : Type) where
  /-- Sent on the manager's output channel. -/
  | output (event : OutputEvent)
  | result (resultTx : ResultTx) (result : Except PublishError LocalDataTrack)
  | queried (resultTx : ResultTx) (infos : List DataTrackInfo)
  /-- The channels of a track are made, published, and its task is started. -/
  | spawned (track : TrackId) (options : PipelineOptions π)
  /-- The SID shared by the holders of a track is overwritten. -/
  | sidWritten (track : TrackId) (sid : DataTrackSid)
  | stateSent (track : TrackId) (state : PublishState)
  deriving DecidableEq

/-- What a handler reads of the rest of the program. -/
structure View where
  state : TrackId → PublishState
  isClosed : ResultTx → Bool

/-! ### State -/

inductive Descriptor where
  /-- The channel is the one made by `on_publish_request`; it has the identity of the request's own
  channel, which `forward_publish_result` connects it to. -/
  | pending (resultTx : ResultTx)
  | active (info : DataTrackInfo) (track : TrackId)
  deriving DecidableEq

def Descriptor.activeInfo : Descriptor → Option DataTrackInfo
  | .active info _ => some info
  | .pending _ => none

structure Manager (π : Type) where
  encryptionProvider : Option π
  handleAllocator : HandleAllocator
  descriptors : Map Handle Descriptor
  nextTrack : TrackId
  /-- The loop of `run` has not ended. -/
  running : Bool

namespace Manager

variable {π : Type}

def new (encryptionProvider : Option π) : Manager π :=
  ⟨encryptionProvider, {}, ∅, 0, true⟩

variable (self : Manager π)

def setDescriptor (handle : Handle) (descriptor : Descriptor) : Manager π :=
  { self with descriptors := self.descriptors.insert handle descriptor }

def eraseDescriptor (handle : Handle) : Manager π :=
  { self with descriptors := self.descriptors.erase handle }

/-! ### Requests of the user -/

def onPublishRequest (options : DataTrackOptions) (resultTx : ResultTx) :
    Manager π × List (Effect π) :=
  match self.handleAllocator.get with
  | (none, handleAllocator) =>
    ({ self with handleAllocator := handleAllocator }, [.result resultTx (.error .limitReached)])
  | (some handle, handleAllocator) =>
    let self := { self with handleAllocator := handleAllocator }
    if (self.descriptors.lookup handle).isSome then
      (self, [.result resultTx (.error (.internal "Descriptor for handle already exists"))])
    else (self.setDescriptor handle (.pending resultTx),
        [.output (.sfuPublishRequest handle options.name self.encryptionProvider.isSome)])

/-- The caller of a publish request is gone. The descriptor is removed whatever
it is by now. -/
def onPublishCancelled (handle : Handle) : Manager π × List (Effect π) :=
  (self.eraseDescriptor handle, [])

def onQueryPublished (resultTx : ResultTx) (order : HashOrder Handle) :
    Manager π × List (Effect π) :=
  (self, [.queried resultTx ((order.entries self.descriptors).filterMap fun e => e.2.activeInfo)])

/-- `remove_descriptor`: the track of an active publication is unpublished, if
it is not so already. -/
def removeDescriptor (view : View) (handle : Handle) : Manager π × List (Effect π) :=
  match self.descriptors.lookup handle with
  | some (.active _ track) =>
    (self.eraseDescriptor handle,
      if view.state track ≠ .unpublished then [.stateSent track .unpublished] else [])
  | _ => (self.eraseDescriptor handle, [])

def onUnpublishRequest (view : View) (handle : Handle) : Manager π × List (Effect π) :=
  let (self, effects) := self.removeDescriptor view handle
  (self, effects ++ [.output (.sfuUnpublishRequest handle)])

/-! ### Responses of the SFU -/

/-- `create_local_track`. The descriptor goes under the handle the info has. -/
def createLocalTrack (info : DataTrackInfo) : LocalDataTrack × Manager π × List (Effect π) :=
  let encryptionProvider := if info.usesE2ee then self.encryptionProvider else none
  let track := self.nextTrack
  let options : PipelineOptions π := ⟨info, encryptionProvider⟩
  (⟨track, info⟩,
    { self.setDescriptor info.pubHandle (.active info track) with nextTrack := track + 1 },
    [.spawned track options])

def onSfuPublishResponse (view : View) (handle : Handle)
    (result : Except PublishError DataTrackInfo) : Manager π × List (Effect π) :=
  match self.descriptors.lookup handle with
  | none =>
    -- the request was cancelled before the SFU responded
    (self, [.output (.sfuUnpublishRequest handle)])
  | some descriptor =>
    -- the descriptor is taken out here, and only a republished one goes back in
    let self := self.eraseDescriptor handle
    match descriptor with
    | .pending resultTx =>
      if view.isClosed resultTx then (self, [])
      else
        match result with
        | .ok info =>
          let (localTrack, self, effects) := self.createLocalTrack info
          (self, effects ++ [.result resultTx (.ok localTrack)])
        | .error error => (self, [.result resultTx (.error error)])
    | .active info track =>
      if view.state track ≠ .republishing then (self, []) -- already active
      else
        match result with
        | .error _ => (self, []) -- republish failed
        | .ok updatedInfo =>
          (self.setDescriptor handle (.active { info with sid := updatedInfo.sid } track),
            [.sidWritten track updatedInfo.sid, .stateSent track .published])

def onSfuUnpublishResponse (view : View) (handle : Handle) : Manager π × List (Effect π) :=
  self.removeDescriptor view handle

/-! ### Reconnect and shutdown -/

def republishDescriptor : Handle × Descriptor → Manager π × List (Effect π)
  | (_, .pending resultTx) => (self, [.result resultTx (.error .disconnected)])
  | (handle, .active info track) =>
    (self.setDescriptor handle (.active info track), [.stateSent track .republishing,
        .output (.sfuPublishRequest info.pubHandle info.name info.usesE2ee)])

def onRepublishTracks (order : HashOrder Handle) : Manager π × List (Effect π) :=
  Machine.run republishDescriptor { self with descriptors := ∅ } (order.entries self.descriptors)

def shutdownEffect : Descriptor → Effect π
  | .pending resultTx => .result resultTx (.error .disconnected)
  | .active _ track => .stateSent track .unpublished

def onShutdown (order : HashOrder Handle) : Manager π × List (Effect π) :=
  ({ self with descriptors := ∅, running := false },
    (order.entries self.descriptors).map fun e => shutdownEffect e.2)

/-- One iteration of the loop of `run`; nothing happens once it has ended. -/
def step (input : View × InputEvent) : Manager π × List (Effect π) :=
  if self.running then
    match input.2 with
    | .publishRequest options resultTx => self.onPublishRequest options resultTx
    | .publishCancelled handle => self.onPublishCancelled handle
    | .queryPublished resultTx order => self.onQueryPublished resultTx order
    | .unpublishRequest handle => self.onUnpublishRequest input.1 handle
    | .sfuPublishResponse handle result => self.onSfuPublishResponse input.1 handle result
    | .sfuUnpublishResponse handle => self.onSfuUnpublishResponse input.1 handle
    | .republishTracks order => self.onRepublishTracks order
    | .shutdown order => self.onShutdown order
  else (self, [])

end Manager

end LiveKit.DataTrack.Local
